import EnumExport.Script.Literal
import EnumExport.Script.TypeExpr

/-!
# Modules as trees

A generated module is a list of items: comments, type aliases, constants and the like. `render` is
the only place where items become text, so what a module declares can be read off its items.
-/

namespace EnumExport.Script

/-- A field of a record type. -/
structure Field where
  /-- the name as it is written -/
  name : String
  /-- whether a record may lack the field -/
  optional : Bool
  /-- the alternatives of its type -/
  alternatives : List String
  deriving DecidableEq, Repr

/-- What a type alias stands for. -/
inductive TypeBody
  /-- one of some alternatives -/
  | union (alternatives : List String)
  /-- a record with these fields -/
  | record (fields : List Field)
  deriving DecidableEq, Repr

/-- An expression that stands for data. -/
inductive Expr
  /-- a single-quoted text -/
  | text (s : String)
  /-- compact JSON -/
  | json (j : Json)
  /-- an expression whose value cannot be changed -/
  | frozen (e : Expr)
  deriving Repr

/-- A property of an object literal, with its name as it is written. -/
structure Property where
  /-- the name -/
  name : String
  /-- the value -/
  value : Expr
  deriving Repr

/-- An item of a module. -/
inductive Item
  /-- an empty line -/
  | blank
  /-- a comment to the end of the line -/
  | comment (text : String)
  /-- a block comment, given by its inner lines -/
  | docComment (lines : List String)
  /-- a function taken from another module -/
  | helperImport (name source : String)
  /-- a type alias -/
  | typeAlias (exported : Bool) (name : String) (body : TypeBody)
  /-- the list of frozen object literals, spread over lines -/
  | records (name : String) (rows : List (List Property))
  /-- the list of frozen object literals, one a line -/
  | choices (name type : String) (rows : List (List Property))
  /-- a constant with its declared type and its value -/
  | constant (name : String) (type : Option String) (value : String)
  /-- a constant that holds data -/
  | data (name : String) (value : Json)
  /-- a function, given by its lines -/
  | function (name : String) (lines : List String)
  /-- an exported object, given by the lines of its value -/
  | object (name : String) (first : String) (lines : List String)
  /-- the default export -/
  | defaultExport (name : String)
  deriving Repr

namespace Expr

/-- How an expression is written. -/
def render : Expr → String
  | .text s => textLiteral s
  | .json j => Json.render .compact j
  | .frozen e => "Object.freeze(" ++ e.render ++ ")"

end Expr

namespace Field

/-- The line of a field. -/
def line (f : Field) : String :=
  "  readonly " ++ f.name ++ (if f.optional then "?" else "") ++ ": " ++
    unionText f.alternatives ++ ";"

end Field

namespace Property

/-- A property as it is written. -/
def render (p : Property) : String := p.name ++ ": " ++ p.value.render

end Property

namespace Item

/-- The opening of a declaration, exported or not. -/
def opening (exported : Bool) (rest : String) : String :=
  if exported then "export " ++ rest else rest

/-- The lines of an item. -/
def lines : Item → List String
  | .blank => [""]
  | .comment t => ["// " ++ t]
  | .docComment ls => "/**" :: ls.map (fun l => if l = "" then " *" else " * " ++ l) ++ [" */"]
  | .helperImport name source =>
    ["import \x7b " ++ name ++ " \x7d from " ++ textLiteral source ++ ";"]
  | .typeAlias exported name (.union alternatives) =>
    [opening exported ("type " ++ name ++ " = " ++ unionText alternatives ++ ";")]
  | .typeAlias exported name (.record fields) =>
    opening exported ("type " ++ name ++ " = \x7b") :: fields.map Field.line ++ ["\x7d;"]
  | .records name rows =>
    ("const " ++ name ++ " = Object.freeze([") ::
      rows.flatMap (fun row =>
        "  Object.freeze(\x7b" :: row.map (fun p => "    " ++ p.render ++ ",") ++
          ["  \x7d as const),"]) ++
      ["] as const);"]
  | .choices name type rows =>
    ("const " ++ name ++ ": " ++ type ++ " = Object.freeze([") ::
      rows.map (fun row =>
        "  Object.freeze(\x7b " ++ ", ".intercalate (row.map Property.render) ++
          " \x7d as const),") ++
      ["]);"]
  | .constant name type value =>
    ["const " ++ name ++ (match type with | some t => ": " ++ t | none => "") ++ " = " ++ value ++
      ";"]
  | .data name value =>
    ["const " ++ name ++ " = " ++ Json.render (.indented 2) value ++ " as const;"]
  | .function _ ls => ls
  | .object name first ls => ("export const " ++ name ++ " = " ++ first) :: ls
  | .defaultExport name => ["export default " ++ name ++ ";"]

/-- The name of a value that an item declares. -/
def declares? : Item → Option String
  | .helperImport name _ | .records name _ | .choices name _ _ | .constant name _ _
  | .data name _ | .function name _ | .object name _ _ => some name
  | .blank | .comment _ | .docComment _ | .typeAlias .. | .defaultExport _ => none

end Item

/-- The text of a module: the lines of its items, each ended by a line feed. -/
def render (items : List Item) : String :=
  "\n".intercalate (items.flatMap Item.lines) ++ "\n"

/-- The names of the values that a module declares, in order. -/
def declaredNames (items : List Item) : List String :=
  items.filterMap Item.declares?

end EnumExport.Script
