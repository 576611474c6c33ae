import EnumExport.Value.Basic

/-!
# Type expressions

The TypeScript types that data values are given, and which type a value gets: the type of a list is
that of its first item, and empty containers are records of unknown contents.
-/

namespace EnumExport.Script

/-- A type of generated code. -/
inductive TypeExpr
  /-- the type of null -/
  | null
  /-- truth values -/
  | boolean
  /-- numbers -/
  | number
  /-- texts -/
  | string
  /-- anything -/
  | unknown
  /-- records with any contents -/
  | anyRecord
  /-- records with unknown contents -/
  | unknownRecord
  /-- arrays of one type -/
  | array (item : TypeExpr)
  deriving DecidableEq, Repr

namespace TypeExpr

/-- How a type is written. -/
def text : TypeExpr → String
  | .null => "null"
  | .boolean => "boolean"
  | .number => "number"
  | .string => "string"
  | .unknown => "unknown"
  | .anyRecord => "Record<string, any>"
  | .unknownRecord => "Record<string, unknown>"
  | .array t => t.text ++ "[]"

end TypeExpr

mutual

/-- The type of a value. -/
def infer : Value → TypeExpr
  | .null => .null
  | .bool _ => .boolean
  | .int _ | .float _ => .number
  | .text _ => .string
  | .bytes [] => .unknownRecord
  | .bytes (_ :: _) => .array .number
  | .list xs | .tuple xs => inferItems xs
  | .map ps | .readOnly ps => if ps.isEmpty then .unknownRecord else .anyRecord
  | .member tag _ =>
    match tag.data with
    | .text => .string
    | .integer | .real => .number
    | .plain => .unknown
  | .set _ _ | .moment _ _ | .foreign => .unknown

/-- The type of a row of items. -/
def inferItems : List Value → TypeExpr
  | [] => .unknownRecord
  | x :: _ => .array (infer x)

end

/-- Alternatives in one type. -/
def unionText (alternatives : List String) : String :=
  " | ".intercalate alternatives

end EnumExport.Script
