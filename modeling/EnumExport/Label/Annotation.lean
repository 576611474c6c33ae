import EnumExport.Value.Text
import EnumExport.Value.Equality

/-!
# Annotations

What a declaration says about one case: at most one label, fixed or translated, and at most one
map of metadata.
-/

namespace EnumExport

/-- The label that a case declares. -/
inductive CaseLabel
  /-- this text for every locale -/
  | fixed (text : String)
  /-- the text of a key in every locale, with parameters -/
  | translated (key : String) (params : List (Value × Value))
  deriving Repr

/-- What is said about a case. -/
structure CaseNotes where
  /-- its label -/
  label : Option CaseLabel := none
  /-- its metadata -/
  data : Option (List (Value × Value)) := none
  deriving Repr, Inhabited

/-- One item of what is said about a case. -/
inductive Annotation
  /-- a label -/
  | label (l : CaseLabel)
  /-- metadata -/
  | data (pairs : List (Value × Value))
  /-- something that is no annotation -/
  | stray (v : Value)
  deriving Repr

/-- What is said about a case, as it is written. -/
inductive AnnotationSpec
  /-- one item -/
  | one (a : Annotation)
  /-- several items -/
  | several (as : List Annotation)
  /-- a value whose items are taken -/
  | itemsOf (v : Value)
  deriving Repr

/-- Why what is said about cases cannot stand. -/
inductive AnnotationFault
  /-- a case has two labels -/
  | twoLabels (case : String)
  /-- a case has metadata twice -/
  | twoData (case : String)
  /-- a case has something that is no annotation -/
  | stray (case : String) (v : Value)
  /-- what is said about a case has no items -/
  | noItems
  /-- there are no cases of these names -/
  | unknownCases (owner : String) (names : List String)
  /-- what is annotated has no cases at all -/
  | noCases
  deriving Repr

/-- The message of the fault, where it has one. -/
def AnnotationFault.message? : AnnotationFault → Option String
  | .twoLabels c => some ("Case '" ++ c ++ "' declares more than one label")
  | .twoData c => some ("Case '" ++ c ++ "' declares more than one Meta")
  | .stray c v => some ("Unsupported annotation for case '" ++ c ++ "': " ++ v.quoted)
  | .noItems | .noCases => none
  | .unknownCases owner names =>
    some (owner ++ " has no members named " ++ ", ".intercalate names)

/-- The items of what is said about a case. -/
def AnnotationSpec.items : AnnotationSpec → Except AnnotationFault (List Annotation)
  | .one a => .ok [a]
  | .several as => .ok as
  | .itemsOf v =>
    match v.items? with
    | some vs => .ok (vs.map .stray)
    | none => .error .noItems

/-- The notes with one more item. -/
def CaseNotes.add (case : String) (n : CaseNotes) : Annotation → Except AnnotationFault CaseNotes
  | .label l => if n.label.isSome then .error (.twoLabels case) else .ok { n with label := some l }
  | .data d => if n.data.isSome then .error (.twoData case) else .ok { n with data := some d }
  | .stray v => .error (.stray case v)

/-- The notes that are written about a case. -/
def CaseNotes.ofSpec (case : String) (spec : AnnotationSpec) :
    Except AnnotationFault CaseNotes := do
  (← spec.items).foldlM (CaseNotes.add case) {}

/-- The metadata of a case; none said means none at all. -/
def CaseNotes.metadata (n : CaseNotes) : List (Value × Value) := n.data.getD []

end EnumExport
