import EnumExport.Class.Modules
import EnumExport.Manifest.Problem

/-!
# Exportable classes

A candidate can be exported when it exists, is an enumeration, bears the mark or describes itself,
has a case, and all its values are of its scalar kind if it has one. The tests run in this order,
and the first that fails is the reason.
-/

namespace EnumExport

/-- What is to be exported: a class, or the name of one. -/
inductive Candidate
  /-- a name -/
  | named (name : String)
  /-- the class itself -/
  | class (c : ClassDef)
  deriving Repr

/-- The full name of a candidate. -/
def Candidate.name : Candidate → String
  | .named n => n
  | .class c => c.fullName

/-- Why a candidate cannot be exported. -/
inductive InvalidClass
  /-- there is no such class -/
  | missing (name : String)
  /-- it is no enumeration -/
  | notEnum (name : String)
  /-- it neither bears the mark nor describes itself -/
  | unmarked (name : String)
  /-- it has no cases -/
  | noCases (name : String)
  /-- its values are of several kinds -/
  | mixedKinds (name : String) (kinds : List String)
  /-- it cannot be imported -/
  | unimportable (name kind message : String)
  deriving DecidableEq, Repr

/-- The reason in words. -/
def InvalidClass.message : InvalidClass → String
  | .missing n => "Enum class '" ++ n ++ "' does not exist."
  | .notEnum n => "Class '" ++ n ++ "' is not an enum."
  | .unmarked n =>
    "Enum '" ++ n ++ "' must use the SharesWithFrontend mixin to be exported."
  | .noCases n => "Enum '" ++ n ++ "' has no cases to export."
  | .mixedKinds n kinds =>
    "Enum '" ++ n ++ "' mixes backing value types (" ++ ", ".intercalate kinds ++ ")."
  | .unimportable n _ message => "Failed to reflect enum class '" ++ n ++ "': " ++ message

/-- What is told of the reason. -/
def InvalidClass.problem (f : InvalidClass) : Problem where
  kind := "InvalidEnumError"
  message := f.message
  details := .map (match f with
    | .missing n | .notEnum n | .unmarked n | .noCases n => [(.text "enum", .text n)]
    | .mixedKinds n kinds =>
      [(.text "enum", .text n), (.text "kinds", .list (kinds.map .text))]
    | .unimportable n kind _ => [(.text "enum", .text n), (.text "cause", .text kind)])

/-- The kind of a value in words; what is no scalar is something else. -/
def kindWord (v : Value) : String :=
  match BackingKind.ofValue? v with
  | some k => k.text
  | none => "other"

/-- Texts in order, each once. -/
def sortedDistinct (xs : List String) : List String :=
  xs.eraseDups.mergeSort fun a b => decide (a ≤ b)

/-- The kinds of the values of a class of a scalar kind, when one of them is not that kind. Null is
of no kind. -/
def ClassDef.mixedKinds? (c : ClassDef) : Option (List String) :=
  match c.backing with
  | none => none
  | some k =>
    let values := (c.members.map Member.value).filter fun v => !v.isNull
    let kinds := values.map kindWord
    if kinds.all fun w => w == k.text then none else some (sortedDistinct (k.text :: kinds))

namespace Modules

/-- What a candidate stands for. -/
def found (ms : Modules) : Candidate → Except InvalidClass Found
  | .class c => .ok (.class c)
  | .named n =>
    match ms.resolve n with
    | .error e => .error (.unimportable n e.kind e.message)
    | .ok none => .error (.missing n)
    | .ok (some f) => .ok f

/-- The tests of a class that has been found. -/
def checkClass (name : String) (c : ClassDef) : Except InvalidClass ClassDef :=
  if !c.isEnum then .error (.notEnum name)
  else if !c.describesItself then .error (.unmarked name)
  else if c.members.isEmpty then .error (.noCases name)
  else match c.mixedKinds? with
    | some kinds => .error (.mixedKinds name kinds)
    | none => .ok c

/-- The class of a candidate, if it can be exported. -/
def validate (ms : Modules) (candidate : Candidate) : Except InvalidClass ClassDef :=
  match ms.found candidate with
  | .error e => .error e
  | .ok (.class c) => checkClass candidate.name c
  | .ok _ => .error (.notEnum candidate.name)

end Modules

/-- The outcome of testing several candidates, by name. -/
structure ValidationReport where
  /-- the classes that can be exported -/
  valid : List (String × ClassDef) := []
  /-- the reasons why the others cannot -/
  errors : List (String × InvalidClass) := []
  deriving Repr

/-- Whether every candidate can be exported. -/
def ValidationReport.ok (r : ValidationReport) : Bool := r.errors.isEmpty

/-- The report with one more candidate. -/
def ValidationReport.add (ms : Modules) (r : ValidationReport) (candidate : Candidate) :
    ValidationReport :=
  match ms.validate candidate with
  | .ok c => { r with valid := Assoc.put candidate.name c r.valid }
  | .error e => { r with errors := Assoc.put candidate.name e r.errors }

/-- Tests every candidate. -/
def Modules.validateAll (ms : Modules) (candidates : List Candidate) : ValidationReport :=
  candidates.foldl (ValidationReport.add ms) {}

end EnumExport
