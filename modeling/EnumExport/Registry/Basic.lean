import EnumExport.Class.Entry
import EnumExport.Class.Validity

/-!
# The registry

The candidates of a project, configured and discovered, become a manifest. A candidate that cannot
be exported is reported under its own name and keeps none of the others from being exported; of
several classes of one name the last one counts, in the place of the first.
-/

namespace EnumExport

/-- What a registry works with. -/
structure Registry where
  /-- the modules that can be imported -/
  modules : Modules := []
  /-- what the disk holds -/
  files : FileTree := {}
  /-- the configured candidates -/
  configured : List Candidate := []
  /-- the names of the discovered ones -/
  discovered : List String := []
  /-- how labels are resolved -/
  resolver : LabelResolver := {}
  deriving Repr

/-- Why a candidate is not in the manifest. -/
inductive ExportFault
  /-- it cannot be exported -/
  | invalid (reason : InvalidClass)
  /-- the class of this name has no entry -/
  | noEntry (name : String) (fault : EntryFault)
  deriving Repr

/-- The reason in words. -/
def ExportFault.message : ExportFault → String
  | .invalid r => r.message
  | .noEntry name f => "Failed to generate enum '" ++ name ++ "': " ++ f.reason

/-- What becomes of the candidates. -/
structure RegistryResult where
  /-- the entries, by the name of the class -/
  manifest : Manifest := []
  /-- the reasons why others are missing, by the name of the candidate -/
  errors : List (String × ExportFault) := []
  /-- what was noted on the way -/
  notices : List Notice := []
  deriving Repr

namespace Registry

/-- The candidates whose names have not come before. -/
def distinctFrom (seen : List String) : List Candidate → List Candidate
  | [] => []
  | c :: cs =>
    if seen.contains c.name then distinctFrom seen cs
    else c :: distinctFrom (c.name :: seen) cs

/-- The names of the discovered candidates in order. -/
def discoveredInOrder (r : Registry) : List String :=
  r.discovered.mergeSort fun a b => decide (a ≤ b)

/-- The candidates: the configured ones and then the discovered ones in order, each name once. -/
def candidates (r : Registry) : List Candidate :=
  distinctFrom [] (r.configured ++ r.discoveredInOrder.map .named)

/-- Tests every candidate. -/
def validate (r : Registry) : ValidationReport := r.modules.validateAll r.candidates

/-- The entry of a class that passed the tests under a name. -/
def entryOf (r : Registry) (locale : Value) (name : String) (c : ClassDef) :
    List Notice × Except EntryFault Entry :=
  if c.isMarked then c.entry r.files r.resolver locale (some name)
  else c.describe r.files {} locale

/-- The result with the entry of one more class. -/
def addEntry (r : Registry) (locale : Value) (result : RegistryResult)
    (p : String × ClassDef) : RegistryResult :=
  let (name, c) := p
  match r.entryOf locale name c with
  | (notes, .error e) =>
    { result with
      errors := Assoc.put name (.noEntry c.name e) result.errors
      notices := result.notices ++ notes }
  | (notes, .ok entry) =>
    let collision := match Assoc.get? c.name result.manifest with
      | some previous => [Notice.replaced name previous.qualifiedName]
      | none => []
    { result with
      manifest := Assoc.put c.name entry result.manifest
      notices := result.notices ++ notes ++ collision }

/-- Builds the manifest. -/
def build (r : Registry) (locale : Value) : RegistryResult :=
  let report := r.validate
  report.valid.foldl (r.addEntry locale)
    { errors := report.errors.map fun p => (p.1, .invalid p.2) }

end Registry

end EnumExport
