import EnumExport.Wording.Placeholder
import EnumExport.Value.Equality

/-!
# Catalogs

A catalog is a nested map of localized texts. A key is looked up as a whole first, and then part by
part through the nesting, its parts standing between points.
-/

namespace EnumExport.Wording

/-- The texts of a locale. -/
abbrev Catalog := List (Value × Value)

/-- What the parts of a key lead to from a value. -/
def follow? (v : Value) : List String → Option Value
  | [] => some v
  | part :: parts =>
    match v.pairs? with
    | none => none
    | some ps => (Value.field? part ps).bind fun w => follow? w parts

/-- The line of a key. -/
def Catalog.find? (c : Catalog) (key : String) : Option String :=
  match (Value.field? key c).bind Value.asText? with
  | some line => some line
  | none => (follow? (.map c) (Text.split '.' key)).bind Value.asText?

/-- Why a key cannot be translated. -/
inductive Untranslatable
  /-- what should be a map of texts is of this kind -/
  | notMap (kind : String)
  /-- the name of a parameter is of this kind, and no text -/
  | namelessParam (kind : String)
  /-- the locale is of this kind, which can be no key -/
  | changeableLocale (kind : String)
  /-- the locale is of this kind, which can name no folder -/
  | namelessLocale (kind : String)
  deriving DecidableEq, Repr

/-- The kind of the first name that is no text. -/
def badParam? (params : List (Value × Value)) : Option String :=
  params.findSome? fun p => if p.1.asText?.isNone then some p.1.kindName else none

/-- The text of a key: its line with the placeholders filled in, or the key itself. -/
def Catalog.translate (c : Catalog) (key : String) (params : List (Value × Value)) :
    Except Untranslatable String :=
  match c.find? key with
  | none => .ok key
  | some line =>
    if params.isEmpty then .ok line
    else match params? params with
      | some ps => .ok (fill ps line)
      | none => .error (.namelessParam ((badParam? params).getD ""))

/-- A key without a line is its own text. -/
theorem Catalog.translate_of_find?_none {c : Catalog} {key : String}
    (h : c.find? key = none) (params : List (Value × Value)) :
    c.translate key params = .ok key := by
  simp [Catalog.translate, h]

end EnumExport.Wording
