import EnumExport.Value.Equality

/-!
# Manifest entries

The description of one exported enumeration: its name, the scalar kind behind its cases, the cases
with their labels and data, and the pairs that a choice list shows.
-/

namespace EnumExport

/-- The scalar kind behind the cases of an enumeration. -/
inductive BackingKind
  /-- texts -/
  | string
  /-- whole numbers -/
  | int
  deriving DecidableEq, Repr

namespace BackingKind

/-- How the kind is spelled. -/
def text : BackingKind → String
  | .string => "string"
  | .int => "int"

/-- The kind with a spelling. -/
def ofText? : String → Option BackingKind
  | "string" => some .string
  | "int" => some .int
  | _ => none

theorem ofText?_text (k : BackingKind) : ofText? k.text = some k := by cases k <;> rfl

/-- The kind of a value, when it is a scalar of one; truth values are of neither. -/
def ofValue? (v : Value) : Option BackingKind :=
  if v.isBool then none
  else if v.isText then some .string
  else if v.isInteger then some .int
  else none

end BackingKind

/-- A label as resolved: one text, or one for each of some locales. -/
inductive Label
  /-- the same for every locale -/
  | text (s : String)
  /-- one for each locale -/
  | localized (texts : List (String × String))
  deriving DecidableEq, Repr, Inhabited

namespace Label

/-- The label as a data value. -/
def toValue : Label → Value
  | .text s => .text s
  | .localized texts => .map (texts.map fun p => (.text p.1, .text p.2))

/-- Whether the label depends on the locale. -/
def isLocalized : Label → Bool
  | .text _ => false
  | .localized _ => true

/-- The first text, or the empty one. -/
def first (texts : List (String × String)) : String :=
  match texts with
  | [] => ""
  | (_, t) :: _ => t

/-- The text of a locale, unless it is empty. -/
def nonempty? (texts : List (String × String)) (locale : String) : Option String :=
  match Assoc.get? locale texts with
  | some t => if t = "" then none else some t
  | none => none

/-- The label for a reader of a locale: that locale's text, else the English one, else the first.
Empty texts are passed over, except for the last resort. -/
def resolve (label : Label) (locale : Option String) : String :=
  match label with
  | .text s => s
  | .localized texts =>
    ((locale.bind fun l => if l = "" then none else nonempty? texts l).or
      (nonempty? texts "en")).getD (first texts)

/-- The label shown in comments: the English text, else the first. -/
def shown (label : Label) : String :=
  label.resolve none

/-- The label in a choice list: the text of the locale whatever it is, else the first. -/
def flatten (label : Label) (locale : Value) : String :=
  match label with
  | .text s => s
  | .localized texts =>
    ((locale.asText?).bind fun l => Assoc.get? l texts).getD (first texts)

end Label

/-- A case of an enumeration. -/
structure Case where
  /-- the name of the case -/
  key : String
  /-- the scalar behind it, or null -/
  value : Value
  /-- its label -/
  label : Label
  /-- its metadata -/
  data : List (Value × Value)
  /-- the results of its exported methods -/
  extra : List (Value × Value)
  deriving Repr, Inhabited

/-- A pair of a choice list. -/
structure Choice where
  /-- what the choice stands for -/
  value : Value
  /-- what the reader sees -/
  label : String
  deriving Repr, Inhabited

/-- The description of one exported enumeration. -/
structure Entry where
  /-- its name -/
  name : String
  /-- its name with the module it is declared in -/
  qualifiedName : String
  /-- the scalar kind behind its cases, if they have one -/
  backing : Option BackingKind
  /-- its cases in order -/
  cases : List Case
  /-- the pairs of its choice list in order -/
  choices : List Choice
  deriving Repr, Inhabited

/-- The enumerations to export, by name. -/
abbrev Manifest := List (String × Entry)

end EnumExport
