import EnumExport.Console.Basic

/-!
# Reports

What became of a command is reported as text for people or as JSON for programs. Paths in the
project's folder are shown as seen from there.
-/

namespace EnumExport

/-- How a report is written. -/
inductive ReportFormat
  /-- as text -/
  | text
  /-- as JSON -/
  | json
  deriving DecidableEq, Repr

/-- How a format is spelled. -/
def ReportFormat.name : ReportFormat → String
  | .text => "text"
  | .json => "json"

/-- The format with a spelling. -/
def ReportFormat.ofName? : String → Option ReportFormat
  | "text" => some .text
  | "json" => some .json
  | _ => none

/-- A spelled format is read back. -/
theorem ReportFormat.ofName?_name (f : ReportFormat) : ofName? f.name = some f := by
  cases f <;> rfl

namespace Report

/-- A text between the tags of a style. -/
def styled (style s : String) : String := "[" ++ style ++ "]" ++ s ++ "[/" ++ style ++ "]"

/-- A map from names. -/
def fields (pairs : List (String × Value)) : Value :=
  .map (pairs.map fun p => (.text p.1, p.2))

/-- A list of texts. -/
def texts (xs : List String) : Value := .list (xs.map .text)

/-- Errors by the names of what has them. -/
def errorFields (errors : List (String × String)) : Value :=
  fields (errors.map fun e => (e.1, .text e.2))

/-- Prints what could not be exported, and why. -/
def printErrors (errors : List (String × String)) : Printing Unit := do
  if !errors.isEmpty then
    Console.print ("\n" ++ styled "red"
      (toString errors.length ++ " enum(s) could not be exported:"))
    for e in errors do
      Console.print ("  " ++ styled "red" "x" ++ " " ++ styled "cyan" (Console.escape e.1) ++
        ": " ++ Console.escape e.2)

end Report

end EnumExport
