import EnumExport.Json.Basic
import EnumExport.Text.Quoted

/-!
# Printing JSON

Two layouts: compact, without any space, and indented, with one item a line. Both write characters
beyond ASCII as they are.
-/

namespace EnumExport.Json

/-- How to lay out arrays and objects. -/
inductive Layout
  /-- everything on one line, without spaces -/
  | compact
  /-- one item a line, each level that many spaces further in -/
  | indented (width : Nat)
  deriving DecidableEq, Repr

/-- The layout for an indentation: compact when none is given. A negative one counts as zero. -/
def Layout.ofIndent : Option Int → Layout
  | none => .compact
  | some width => .indented width.toNat

/-- A character inside a JSON text. -/
def escapedChar (c : Char) : List Char :=
  if c = '"' ∨ c = '\\' then ['\\', c]
  else if c = '\n' then ['\\', 'n']
  else if c = '\r' then ['\\', 'r']
  else if c = '\t' then ['\\', 't']
  else if c = '\x08' then ['\\', 'b']
  else if c = '\x0c' then ['\\', 'f']
  else if c.toNat < 32 then '\\' :: 'u' :: Text.hexDigits 4 c.toNat
  else [c]

/-- A text between double quotes. -/
def textChars (s : String) : List Char :=
  '"' :: s.toList.flatMap escapedChar ++ ['"']

/-- The break before an item at a depth: none in the compact layout. -/
def Layout.break : Layout → Nat → List Char
  | .compact, _ => []
  | .indented width, depth => '\n' :: List.replicate (width * depth) ' '

/-- What stands between a key and its value. -/
def Layout.colon : Layout → List Char
  | .compact => [':']
  | .indented _ => [':', ' ']

mutual

/-- The characters of a JSON value at a depth. -/
def chars (layout : Layout) (depth : Nat) : Json → List Char
  | .null => "null".toList
  | .bool b => (if b then "true" else "false").toList
  | .int i => (toString i).toList
  | .float x => floatText x
  | .text s => textChars s
  | .array [] => ['[', ']']
  | .array (x :: xs) =>
    '[' :: layout.break (depth + 1) ++ chars layout (depth + 1) x ++
      itemsChars layout (depth + 1) xs ++ layout.break depth ++ [']']
  | .object [] => ['\x7b', '\x7d']
  | .object ((k, x) :: fields) =>
    '\x7b' :: layout.break (depth + 1) ++ textChars k ++ layout.colon ++
      chars layout (depth + 1) x ++ fieldsChars layout (depth + 1) fields ++
      layout.break depth ++ ['\x7d']

/-- The characters of the further items of an array. -/
def itemsChars (layout : Layout) (depth : Nat) : List Json → List Char
  | [] => []
  | x :: xs => ',' :: layout.break depth ++ chars layout depth x ++ itemsChars layout depth xs

/-- The characters of the further fields of an object. -/
def fieldsChars (layout : Layout) (depth : Nat) : List (String × Json) → List Char
  | [] => []
  | (k, x) :: fields =>
    ',' :: layout.break depth ++ textChars k ++ layout.colon ++ chars layout depth x ++
      fieldsChars layout depth fields

end

/-- The text of a JSON value. -/
def render (layout : Layout) (j : Json) : String :=
  String.ofList (chars layout 0 j)

/-- The JSON text of a data value. -/
def renderValue (layout : Layout) (v : Value) : Except Unwritable String := do
  return render layout (← ofValue v)

end EnumExport.Json
