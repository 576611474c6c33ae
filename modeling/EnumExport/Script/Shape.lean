import EnumExport.Manifest.Basic
import EnumExport.Script.Literal
import EnumExport.Script.TypeExpr

/-!
# Shapes of cases

What the cases of one enumeration look like taken together. Cases may disagree: some labels are
texts and others depend on the locale, a value may be missing, one metadata key may hold values of
several kinds. Each slot gets the shapes that occur in it, each once, in the order in which they
first occur.
-/

namespace EnumExport.Script

/-- How a label's type is written. -/
def labelType : Label → String
  | .text _ => "string"
  | .localized _ => "Record<string, string>"

/-- The types of the labels. -/
def labelTypes (cases : List Case) : List String :=
  (cases.map fun c => labelType c.label).eraseDups

/-- Whether some label depends on the locale. -/
def hasLocalizedLabel (cases : List Case) : Bool :=
  cases.any fun c => c.label.isLocalized

/-- The kinds of values found under each key of some bags of fields. -/
def collectTypes (bags : List (List (Value × Value))) : List (Value × List TypeExpr) :=
  bags.flatten.foldl
    (fun found p => Assoc.put p.1 ((Assoc.get? p.1 found).getD [] ++ [infer p.2]) found) []

/-- The types found under each key of some bags of fields, keys and types in the order of their
first occurrence. -/
def fieldTypes (bags : List (List (Value × Value))) : List (Value × List TypeExpr) :=
  (collectTypes bags).map fun p => (p.1, p.2.eraseDups)

/-- The types of the metadata. -/
def metaTypes (cases : List Case) : List (Value × List TypeExpr) :=
  fieldTypes (cases.map Case.data)

/-- The types of the results of exported methods. -/
def extraTypes (cases : List Case) : List (Value × List TypeExpr) :=
  fieldTypes (cases.map Case.extra)

/-- The keys as alternatives. -/
def keyAlternatives (cases : List Case) : List String :=
  cases.map fun c => textLiteral c.key

/-- Whether some case has no value. -/
def hasNullValue (cases : List Case) : Bool :=
  cases.any fun c => c.value matches .null

/-- The values that are not null. -/
def presentValues (cases : List Case) : List Value :=
  (cases.map Case.value).filter fun v => !(v matches .null)

/-- The values as alternatives, each once. -/
def valueAlternatives (cases : List Case) : Except Json.Unwritable (List String) := do
  let literals ← (presentValues cases).mapM literal
  return literals.eraseDups

/-- Alternatives in one type; without any, no value is of the type. -/
def unionOrNever (alternatives : List String) : String :=
  if alternatives.isEmpty then "never" else unionText alternatives

/-- The type that a scalar kind has in the script. -/
def baseType : Option BackingKind → String
  | none => "null"
  | some .string => "string"
  | some .int => "number"

/-- The alternatives of the type of a case's value. -/
def valueTypes (backing : Option BackingKind) (cases : List Case) : List String :=
  match backing with
  | none => [baseType none]
  | some k => if hasNullValue cases then [baseType (some k), "null"] else [baseType (some k)]

end EnumExport.Script
