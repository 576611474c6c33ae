import EnumExport.Console.Markup
import EnumExport.Console.Table
import EnumExport.Json.Printer

/-!
# The console

Printing adds lines to what has been printed so far. It can fail, and what was printed before stays.
-/

namespace EnumExport

/-- Why something cannot be printed. -/
inductive PrintFault
  /-- the tags of a text do not fit together -/
  | markup (fault : Console.MarkupFault)
  /-- a value has no JSON form -/
  | unwritable (error : Json.Unwritable)
  deriving DecidableEq, Repr

/-- A computation that prints, and may fail. -/
abbrev Printing (α : Type) := EStateM PrintFault String α

namespace Console

/-- The number of columns of the console. -/
def columns : Nat := 1000

/-- Prints lines. -/
def writeLines (lines : List String) : Printing Unit :=
  modify fun out => lines.foldl (fun out line => out ++ line ++ "\n") out

/-- What is left of a text without its tags. -/
def plainOr (s : String) : Printing (List Char) := fun out =>
  match plain s with
  | .ok cs => .ok cs out
  | .error e => .error (.markup e) out

/-- Prints a text with tags. -/
def print (s : String) : Printing Unit := do
  let cs ← plainOr s
  writeLines ((layOut columns true cs).map fun line =>
    String.ofList (if width line ≤ columns then line else cut columns line))

/-- Prints an empty line. -/
def printBlank : Printing Unit := writeLines [""]

/-- Prints a table, whose cells are texts with tags. -/
def printTable (heads : List String) (rows : List (List String)) : Printing Unit := do
  let heads ← heads.mapM plainOr
  let rows ← rows.mapM fun row => row.mapM plainOr
  writeLines ((tableLines columns heads rows).map String.ofList)

/-- Prints a value as JSON. -/
def printJson (v : Value) : Printing Unit := fun out =>
  match Json.renderValue (.indented 2) v with
  | .ok s => .ok () (out ++ s ++ "\n")
  | .error e => .error (.unwritable e) out

end Console

end EnumExport
