import EnumExport.Project.Basic

/-!
# Checking a project

Whether its enumerations can be exported, and whether its settings and language files are in
order.
-/

namespace EnumExport

/-- What testing the enumerations tells. -/
structure CandidatesResult where
  /-- the names of the candidates -/
  candidates : List String
  /-- what the tests tell -/
  report : ValidationReport
  deriving Repr

/-- What is wrong with the files of a project. -/
structure FilesResult where
  /-- the settings file -/
  file : Path
  /-- whether it exists -/
  isThere : Bool
  /-- what is wrong with it -/
  errors : List String := []
  /-- what is wrong with the language files, by their paths as seen from the project -/
  langErrors : List (String × List String) := []
  deriving Repr

/-- Whether nothing is wrong. -/
def FilesResult.ok (r : FilesResult) : Bool :=
  r.errors.isEmpty && r.langErrors.all fun e => e.2.isEmpty

namespace Project

variable (p : Project)

/-- Tests every candidate. -/
def validate (t : FileTree) : CandidatesResult :=
  let r := p.registry t
  { candidates := r.candidates.map Candidate.name, report := r.validate }

/-- The language files, in order. -/
def langFiles (t : FileTree) : List Path :=
  if t.isFolder p.langFolder then
    ((t.everything p.langFolder).map Prod.fst).filter fun f => Wording.isYamlName f.name
  else []

/-- What is wrong with a language file, with its path as seen from the project. -/
def langFileErrors (t : FileTree) (file : Path) : Except ProjectFault (String × List String) :=
  match Path.under? p.dir file with
  | none => .error .outside
  | some parts =>
    match Wording.checkFile t file with
    | .ok errors => .ok (Path.partsText parts, errors)
    | .error e => .error (.wording e)

/-- Checks the settings file and every language file. -/
def checkFiles (t : FileTree) : Except ProjectFault FilesResult := do
  let file := Settings.file p.dir
  let isThere := t.has file
  let errors ← if isThere then
      match Settings.checkFile t file with
      | .ok errors => pure errors
      | .error e => throw (ProjectFault.settings e)
    else pure []
  let langErrors ← (p.langFiles t).mapM (p.langFileErrors t)
  return { file, isThere, errors, langErrors }

end Project

end EnumExport
