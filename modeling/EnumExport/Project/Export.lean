import EnumExport.Project.Basic
import EnumExport.Script.Helper

/-!
# Exporting a project

Every enumeration of the manifest becomes a module in a file of its own. What cannot be exported is
reported, and the others are written all the same. With the shared strategy the helper is written
next to the modules; where there is no module, nothing is written.
-/

namespace EnumExport

/-- What is asked for by an export. -/
structure ExportRequest where
  /-- the folder to write to; the one that is set where it is empty -/
  path : String := ""
  /-- the locale of labels; the one that is set where it is absent or empty -/
  locale : Option String := none
  /-- whether types are exported; as it is set where it is absent -/
  types : Option Bool := none
  /-- how modules are built; as it is set where it is absent -/
  strategy : Option Script.Strategy := none
  deriving Repr

/-- What became of an export. -/
structure ExportResult where
  /-- the folder that was written to -/
  output : Path
  /-- the locale of labels -/
  locale : Value
  /-- how modules are built -/
  strategy : Script.Strategy
  /-- the written modules, by the name of the enumeration -/
  files : List (String × Path) := []
  /-- what could not be exported, and why -/
  errors : List (String × String) := []
  /-- the file of the helper -/
  helper : Option Path := none
  /-- what was noted on the way -/
  notices : List Notice := []
  deriving Repr

/-- What became of the exports for several locales. -/
structure LocalesResult where
  /-- the folder that holds those of the locales -/
  base : Path
  /-- the results, in the order of the locales -/
  results : List ExportResult := []
  deriving Repr

/-- What could not be exported for some locale, and why; the last reason counts. -/
def LocalesResult.errors (r : LocalesResult) : List (String × String) :=
  r.results.foldl (fun errors e => Assoc.update errors e.errors) []

namespace Project

variable (p : Project)

/-- The locale of labels that a request asks for. -/
def localeFor (request : ExportRequest) : Value :=
  match request.locale with
  | some l => if l = "" then p.settings.output.locale else .text l
  | none => p.settings.output.locale

/-- A folder given as seen from the project; the one that is set where it is empty. -/
def outputFor (path : String) : Path :=
  p.dir.join (if path = "" then p.settings.output.path else path)

/-- Writes modules into a folder, and answers their files. -/
def writeModules (output : Path) : List (String × String) → OnDisk (List (String × Path))
  | [] => return []
  | (name, source) :: rest => do
    let file := output.join (name ++ ".ts")
    OnDisk.change fun t => t.writeText file source
    return (name, file) :: (← writeModules output rest)

/-- Writes the helper into a folder, and answers its file. -/
def writeHelper (output : Path) : OnDisk Path := do
  let file := output.child Script.helperFile
  OnDisk.change fun t => t.makeFolders output
  OnDisk.change fun t => t.writeText file Script.helperText
  return file

/-- The errors with the failures of a batch, under the full names of the enumerations. -/
def withFailures (manifest : Manifest) (errors : List (String × String))
    (failures : List (String × Script.Failure)) : List (String × String) :=
  failures.foldl (fun errors f =>
    let name := ((Assoc.get? f.1 manifest).map Entry.qualifiedName).getD f.1
    Assoc.put name f.2.message errors) errors

/-- Exports the enumerations into a folder. -/
def exportTo (output : Path) (request : ExportRequest) : OnDisk ExportResult := do
  let locale := p.localeFor request
  let strategy := request.strategy.getD p.settings.output.strategy
  let built := (p.registry (← get)).build locale
  let result : ExportResult :=
    { output, locale, strategy
      errors := built.errors.map fun e => (e.1, e.2.message)
      notices := built.notices }
  if built.manifest.isEmpty then return result
  let options : Script.Options :=
    { exportTypes := request.types.getD p.settings.output.types, strategy
      locale := if locale.truthy then some locale.display else none }
  let batch ← OnDisk.reading .generation fun _ => Script.generateAll options built.manifest
  let result :=
    { result with errors := withFailures built.manifest result.errors batch.failures }
  if batch.sources.isEmpty then return result
  OnDisk.change fun t => t.makeFolders output
  let files ← writeModules output batch.sources
  let helper ← match strategy with
    | .shared => do pure (some (← writeHelper output))
    | .inline => pure none
  return { result with files, helper }

/-- Exports the enumerations. -/
def exportEnums (request : ExportRequest) : OnDisk ExportResult :=
  p.exportTo (p.outputFor request.path) request

/-- Exports the enumerations once for each of some locales, each time into a folder named for the
locale. -/
def exportLocales (base : Path) (types : Option Bool) : List String → OnDisk (List ExportResult)
  | [] => return []
  | locale :: rest => do
    let request : ExportRequest :=
      { locale := some locale, types, strategy := some .shared }
    let result ← p.exportTo (base.join locale) request
    return result :: (← exportLocales base types rest)

/-- Exports the enumerations for each of some locales, or for those of the project where none is
given. -/
def exportAll (locales : List String) (path : String) (types : Option Bool) :
    OnDisk LocalesResult := do
  let base := p.outputFor path
  let t ← get
  let locales := if locales.isEmpty then p.locales t else locales
  return { base, results := ← p.exportLocales base types locales }

end Project

end EnumExport
