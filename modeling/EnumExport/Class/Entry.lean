import EnumExport.Class.Basic
import EnumExport.Label.Resolver
import EnumExport.Manifest.Record

/-!
# Entries of classes

The entry that describes an enumeration: one case and one choice for each member, in order. A case
takes the results of the exported methods as further properties; a method that fails for a member,
or whose property has the name of a core field, gives none and is noted.
-/

namespace EnumExport

/-- Something noted on the way, which keeps nothing from going on. -/
inductive Notice
  /-- a method's property has the name of a core field -/
  | reserved (owner method property : String)
  /-- a method fails for a member -/
  | failed (owner method member reason : String)
  /-- an enumeration takes the place of another of its name -/
  | replaced (name previous : String)
  deriving DecidableEq, Repr

/-- The level at which it is logged. -/
def Notice.level : Notice → String
  | .reserved _ _ _ | .failed _ _ _ _ => "DEBUG"
  | .replaced _ _ => "WARNING"

/-- The message that is logged. -/
def Notice.message : Notice → String
  | .reserved owner method property =>
    "Skipping export method " ++ owner ++ "." ++ method ++ ": '" ++ property ++
      "' is a reserved field"
  | .failed owner method member reason =>
    "Export method " ++ owner ++ "." ++ method ++ " failed for " ++ member ++ ": " ++ reason
  | .replaced name previous => "Enum name collision: " ++ name ++ " replaces " ++ previous

/-- Why a class has no entry. -/
inductive EntryFault
  /-- it has no members to go through -/
  | notIterable
  /-- it bears the mark but is no enumeration -/
  | notEnum (name : String)
  /-- it cannot describe itself -/
  | noDescription
  /-- a label cannot be translated -/
  | label (fault : Wording.Fault)
  /-- it fails to describe itself, with this message -/
  | failing (message : String)
  deriving DecidableEq, Repr

/-- A file's fault in words. -/
def FileFault.reason : FileFault → String
  | .missing => "No such file or directory"
  | .isFolder => "Is a directory"
  | .notFolder => "Not a directory"
  | .exists => "File exists"
  | .notText => "'utf-8' codec can't decode bytes"

/-- A fault of the wording in words. -/
def Wording.Fault.reason : Wording.Fault → String
  | .load (.file f) => f.reason
  | .load (.text f) => f.message?.getD "malformed document"
  | .key (.notMap kind) => "'" ++ kind ++ "' object has no attribute 'get'"
  | .key (.namelessParam kind) => "object of type '" ++ kind ++ "' has no len()"
  | .key (.changeableLocale kind) => "unhashable type: '" ++ kind ++ "'"
  | .key (.namelessLocale kind) =>
    "unsupported operand type(s) for /: 'PosixPath' and '" ++ kind ++ "'"

/-- The reason in words. -/
def EntryFault.reason : EntryFault → String
  | .notIterable => "'type' object is not iterable"
  | .notEnum name => name ++ " is not an enum"
  | .noDescription => "no description"
  | .label f => f.reason
  | .failing m => m

namespace ClassDef

/-- What a method answers for a member, or the reason why it fails. An answer that is a member
stands for the member's value. -/
def answerOf (c : ClassDef) (method : Method) (m : Member) : Except String Value :=
  if method.failsFor.contains m.name then .error ("no value for " ++ m.name)
  else
    match (Assoc.get? m.name method.answers).getD method.otherwise with
    | .value (.member _ v) => .ok v
    | .value v => .ok v
    | .member n => match Assoc.get? n c.table.names with
      | some other => .ok other.value
      | none => .error (Text.quoted n)

/-- The results of some methods for a member, put into those before, and what is noted. -/
def resultsFrom (c : ClassDef) (m : Member) (before : List (String × Value)) :
    List Method → List (String × Value) × List Notice
  | [] => (before, [])
  | method :: rest =>
    let property := method.property?.getD method.name
    if coreFields.contains property then
      let (results, notes) := c.resultsFrom m before rest
      (results, .reserved c.name method.name property :: notes)
    else
      match c.answerOf method m with
      | .error reason =>
        let (results, notes) := c.resultsFrom m before rest
        (results, .failed c.name method.name m.name reason :: notes)
      | .ok v => c.resultsFrom m (Assoc.put property v before) rest

/-- The results of the exported methods for a member, and what is noted. -/
def results (c : ClassDef) (m : Member) : List (String × Value) × List Notice :=
  c.resultsFrom m [] c.exportedMethods

/-- The scalar behind a case: the member's value, when the class is of a scalar kind. -/
def scalarOf (c : ClassDef) (m : Member) : Value :=
  if c.backing.isSome then m.value else .null

/-- What a choice stands for: the scalar, or the key where there is none. -/
def choiceValue (c : ClassDef) (m : Member) : Value :=
  match c.scalarOf m with
  | .null => .text m.name
  | v => v

/-- The case of a member, given its label and results. -/
def caseOf (c : ClassDef) (m : Member) (label : Label) (results : List (String × Value)) : Case :=
  { key := m.name, value := c.scalarOf m, label, data := (c.notesFor m).metadata
    extra := results.map fun p => (.text p.1, p.2) }

/-- The cases and choices of some members, and what is noted up to the first that fails. -/
def casesFrom (c : ClassDef) (files : FileTree) (r : LabelResolver) (locale : Value) :
    List Member → List Notice × Except EntryFault (List (Case × Choice))
  | [] => ([], .ok [])
  | m :: ms =>
    match r.resolve files m.name (c.notesFor m) c.name locale with
    | .error e => ([], .error (.label e))
    | .ok label =>
      let (results, notes) := c.results m
      let (more, rest) := c.casesFrom files r locale ms
      let choice : Choice := ⟨c.choiceValue m, r.flatten label locale⟩
      (notes ++ more, rest.map fun cs => (c.caseOf m label results, choice) :: cs)

/-- The entry of an enumeration, under a full name of its own or a given one, and what is noted. -/
def entry (c : ClassDef) (files : FileTree) (r : LabelResolver) (locale : Value)
    (qualifiedName : Option String) : List Notice × Except EntryFault Entry :=
  if !c.isEnum then ([], .error .notIterable)
  else
    let (notes, cases) := c.casesFrom files r locale c.members
    (notes, cases.map fun cs =>
      { name := c.name
        qualifiedName := match qualifiedName with
          | some q => if q = "" then c.fullName else q
          | none => c.fullName
        backing := c.backing, cases := cs.map Prod.fst, choices := cs.map Prod.snd })

/-- The entry that a class gives of itself. -/
def describe (c : ClassDef) (files : FileTree) (r : LabelResolver) (locale : Value) :
    List Notice × Except EntryFault Entry :=
  if c.isMarked then
    if c.isEnum then c.entry files r locale none else ([], .error (.notEnum c.name))
  else match c.ownDescription with
    | some .standard => c.entry files {} locale none
    | some (.failing message) => ([], .error (.failing message))
    | none => ([], .error .noDescription)

end ClassDef

end EnumExport
