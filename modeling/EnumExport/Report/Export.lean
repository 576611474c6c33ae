import EnumExport.Project.Export
import EnumExport.Report.Basic

/-!
# Reports on exports

Which modules were written, for one locale or for several, and what could not be exported.
-/

namespace EnumExport

open Report

namespace ExportResult

/-- The data of an export, with paths as seen from a folder. -/
def data (r : ExportResult) (dir : Path) : List (String × Value) :=
  [("output_path", .text (dir.textUnder r.output)),
    ("locale", r.locale),
    ("strategy", .text r.strategy.text),
    ("files", .list (r.files.map fun f =>
      fields [("enum", .text f.1), ("path", .text (dir.textUnder f.2))])),
    ("runtime", match r.helper with
      | some p => .text (dir.textUnder p)
      | none => .null),
    ("errors", errorFields r.errors)]

/-- Reports an export as text. -/
def printText (r : ExportResult) (dir : Path) : Printing Unit := do
  if r.files.isEmpty && r.errors.isEmpty then
    Console.print (styled "yellow" "No enums found to export.")
    Console.print
      (styled "dim" "Add enums to .enumshare/config.yaml or enable autodiscovery.")
  else
    for f in r.files do
      Console.print ("  " ++ styled "green" "Wrote" ++ " " ++ dir.textUnder f.2 ++ "  " ++
        styled "dim" ("(" ++ f.1 ++ ")"))
    if let some p := r.helper then
      Console.print ("  " ++ styled "green" "Copied" ++ " " ++ dir.textUnder p)
    if !r.files.isEmpty then
      Console.print ("\n" ++
        styled "bold green" ("Exported " ++ toString r.files.length ++ " enum(s)") ++ " to " ++
        dir.textUnder r.output)
    printErrors r.errors

/-- Reports an export. -/
def report (r : ExportResult) (format : ReportFormat) (dir : Path) : Printing Unit :=
  match format with
  | .json => Console.printJson (fields (("command", .text "export") :: r.data dir))
  | .text => r.printText dir

end ExportResult

namespace LocalesResult

/-- Reports the export for one of several locales as text. -/
def printLocale (r : ExportResult) (dir : Path) : Printing Unit := do
  Console.print ("\n" ++ styled "bold" ("Locale " ++ r.locale.display))
  if r.files.isEmpty then
    Console.print ("  " ++ styled "yellow" ("No enums found for locale: " ++ r.locale.display))
  else
    Console.print ("  " ++ toString r.files.length ++ " enum(s) exported to " ++
      dir.textUnder r.output)

/-- Reports exports for several locales as text. -/
def printText (r : LocalesResult) (dir : Path) : Printing Unit := do
  if r.results.isEmpty then
    Console.print (styled "yellow" "No locales configured.")
    Console.print (styled "dim" "Add export.locales to the config or pass --locales.")
  else
    for e in r.results do
      printLocale e dir
    printErrors r.errors
    Console.print ("\n" ++ styled "bold green" "Multi-locale export completed")

/-- Reports exports for several locales. -/
def report (r : LocalesResult) (format : ReportFormat) (dir : Path) : Printing Unit :=
  match format with
  | .json => Console.printJson (fields
      [("command", .text "export-all-locales"), ("base_path", .text (dir.textUnder r.base)),
        ("locales", .list (r.results.map fun e => fields (e.data dir)))])
  | .text => r.printText dir

end LocalesResult

end EnumExport
