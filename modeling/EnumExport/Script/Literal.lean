import EnumExport.Json.Printer
import EnumExport.Text.Identifier
import EnumExport.Text.Split

/-!
# Literals of TypeScript

How texts and values are written in generated code: single-quoted text literals, property names,
value literals, and texts inside comments.
-/

namespace EnumExport.Script

/-- A character inside a single-quoted literal: the quote, the backslash and every line terminator
are escaped, and so are the other control characters below the space. -/
def escapedChar (c : Char) : List Char :=
  if c = '\\' ∨ c = '\'' then ['\\', c]
  else if c = '\n' then ['\\', 'n']
  else if c = '\r' then ['\\', 'r']
  else if c = '\t' then ['\\', 't']
  else if c = '\u2028' then "\\u2028".toList
  else if c = '\u2029' then "\\u2029".toList
  else if c.toNat < 32 then '\\' :: 'x' :: Text.hexDigits 2 c.toNat
  else [c]

/-- A single-quoted literal. -/
def literalChars (cs : List Char) : List Char :=
  '\'' :: cs.flatMap escapedChar ++ ['\'']

/-- A text as a single-quoted literal. -/
def textLiteral (s : String) : String :=
  String.ofList (literalChars s.toList)

/-- A name of a property: bare when it is an identifier of ASCII letters, a literal otherwise. -/
def propertyName (s : String) : String :=
  if Text.isIdentifier s && Text.isAscii s then s else textLiteral s

/-- A value in compact JSON. -/
def jsonText (v : Value) : Except Json.Unwritable String :=
  Json.renderValue .compact v

/-- A value as a literal: null, a single-quoted text, or compact JSON. -/
def literal (v : Value) : Except Json.Unwritable String :=
  match v with
  | .null => .ok "null"
  | v => match v.asText? with
    | some s => .ok (textLiteral s)
    | none => jsonText v

/-- Characters as they stand inside a comment: the comment's end loses its meaning, and a line
break becomes a space. -/
def commentChars (cs : List Char) : List Char :=
  Text.replaceChars ['\n'] [' '] (Text.replaceChars ['*', '/'] ['*', '\\', '/'] cs)

/-- A text as it stands inside a comment. -/
def commentText (s : String) : String :=
  String.ofList (commentChars s.toList)

end EnumExport.Script
