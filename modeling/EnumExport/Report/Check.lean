import EnumExport.Project.Check
import EnumExport.Project.Init
import EnumExport.Report.Basic

/-!
# Reports on checks

Which enumerations were found, whether the candidates can be exported, whether the files are in
order, and how a project was started.
-/

namespace EnumExport

open Report

/-! ## Found enumerations -/

/-- The enumerations found in some paths. -/
structure FoundResult where
  /-- the paths -/
  paths : List Path
  /-- the enumerations -/
  enums : List FoundEnum
  deriving Repr

namespace FoundResult

/-- Reports what was found as text. -/
def printText (r : FoundResult) (dir : Path) : Printing Unit := do
  if r.enums.isEmpty then
    Console.print (styled "yellow" "No exportable enums found.")
    Console.print "Make sure your enums:"
    Console.print "  - Subclass Enum (or IntEnum, StrEnum, ...)"
    Console.print "  - Use the enumshare.normalizer.SharesWithFrontend mixin"
    Console.print "  - Are located in the configured paths"
  else
    Console.print ("\n" ++
      styled "bold" ("Found " ++ toString r.enums.length ++ " enum(s):") ++ "\n")
    for e in r.enums do
      Console.print ("  " ++ styled "cyan" e.qualifiedName ++ "  " ++
        styled "dim" (dir.textUnder e.file ++ ":" ++ toString e.line))
    Console.printBlank

/-- Reports what was found. -/
def report (r : FoundResult) (format : ReportFormat) (dir : Path) : Printing Unit :=
  match format with
  | .json => Console.printJson (fields
      [("command", .text "discover"), ("paths", texts (r.paths.map dir.textUnder)),
        ("enums", .list (r.enums.map fun e =>
          fields [("name", .text e.qualifiedName), ("file", .text (dir.textUnder e.file)),
            ("line", .int e.line)]))])
  | .text => r.printText dir

end FoundResult

/-! ## Candidates -/

/-- What testing the candidates tells, in words. -/
structure CandidatesSummary where
  /-- the names of the candidates -/
  candidates : List String
  /-- the names of those that can be exported -/
  valid : List String
  /-- the names of those that cannot, and why -/
  errors : List (String × String)
  deriving DecidableEq, Repr

/-- What testing the candidates tells, in words. -/
def CandidatesResult.summary (r : CandidatesResult) : CandidatesSummary :=
  { candidates := r.candidates, valid := r.report.valid.map Prod.fst
    errors := r.report.errors.map fun e => (e.1, e.2.message) }

namespace CandidatesSummary

/-- The row of a candidate in the table. -/
def row (s : CandidatesSummary) (name : String) : List String :=
  [Console.escape name,
    match Assoc.get? name s.errors with
    | some reason => styled "red" (Console.escape reason)
    | none => styled "green" "ok"]

/-- Reports the candidates as text. -/
def printText (s : CandidatesSummary) : Printing Unit := do
  if s.candidates.isEmpty then
    Console.print (styled "yellow" "No enums configured or discovered.")
  else
    Console.printTable ["Enum", "Status"] (s.candidates.map s.row)
    if s.errors.isEmpty then
      Console.print ("\n" ++
        styled "green" ("All " ++ toString s.valid.length ++ " enum(s) are valid"))
    else
      Console.print ("\n" ++ styled "red" (toString s.errors.length ++ " of " ++
        toString s.candidates.length ++ " enum(s) are invalid"))

/-- Reports the candidates. -/
def report (s : CandidatesSummary) (format : ReportFormat) : Printing Unit :=
  match format with
  | .json => Console.printJson (fields
      [("command", .text "validate"),
        ("valid", texts (s.valid.mergeSort fun a b => decide (a ≤ b))),
        ("errors", errorFields s.errors)])
  | .text => s.printText

end CandidatesSummary

/-! ## Files -/

namespace FilesResult

/-- Prints what is wrong with a file, or that it is in order. -/
def printFile (name : String) (errors : List String) : Printing Unit := do
  if errors.isEmpty then Console.print (styled "green" "v" ++ " " ++ name)
  else
    Console.print (styled "red" ("Errors in " ++ name ++ ":"))
    for e in errors do
      Console.print ("  - " ++ Console.escape e)

/-- Reports the files as text. -/
def printText (r : FilesResult) (dir : Path) : Printing Unit := do
  let name := dir.textUnder r.file
  if r.isThere then printFile name r.errors
  else Console.print (styled "yellow" (name ++ " not found, using defaults"))
  for (file, errors) in r.langErrors do
    printFile file errors
  if r.ok then Console.print ("\n" ++ styled "green" "Configuration is valid")

/-- Reports the files. -/
def report (r : FilesResult) (format : ReportFormat) (dir : Path) : Printing Unit :=
  match format with
  | .json => Console.printJson (fields
      [("command", .text "config validate"), ("config_file", .text (dir.textUnder r.file)),
        ("exists", .bool r.isThere), ("errors", texts r.errors),
        ("lang_errors", fields (r.langErrors.map fun e => (e.1, texts e.2)))])
  | .text => r.printText dir

end FilesResult

/-! ## A started project -/

/-- Reports how a project was started. -/
def InitResult.report (r : InitResult) (dir : Path) : Printing Unit := do
  let name := dir.textUnder r.file
  if r.isNew then
    Console.print ("  " ++ styled "green" "Created" ++ " " ++ name)
    Console.printBlank
    Console.print (styled "dim" "Next steps:")
    Console.print "  1. List your enums or autodiscovery paths in the config"
    Console.print "  2. Run 'enumshare discover' to check what will be exported"
    Console.print "  3. Run 'enumshare export'"
    Console.printBlank
  else
    Console.print (styled "yellow" (name ++ " already exists"))
    Console.print (styled "dim" "Delete it first if you want to reinitialize.")

end EnumExport
