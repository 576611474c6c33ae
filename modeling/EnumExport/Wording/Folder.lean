import EnumExport.Wording.Catalog
import EnumExport.Yaml.Document
import EnumExport.Files.Text

/-!
# Folders of language files

The catalog of a locale comes from `locale.yaml`, whose keys are whole, and from the files in the
folder `locale`, each of which gives the texts below its own name. The flat file goes first.
-/

namespace EnumExport.Wording

/-- Why a file cannot be used. -/
inductive Unloadable
  /-- it cannot be read -/
  | file (fault : FileFault)
  /-- its text has no value -/
  | text (fault : Yaml.Unreadable)
  deriving DecidableEq, Repr

/-- The value of a YAML file. -/
def loadYaml (t : FileTree) (p : Path) : Except Unloadable Value :=
  match t.readText p with
  | .error e => .error (.file e)
  | .ok s => match Yaml.read s with
    | .error e => .error (.text e)
    | .ok v => .ok v

/-- The pairs of a YAML file; none when it holds no map. -/
def loadPairs (t : FileTree) (p : Path) : Except Unloadable (List (Value × Value)) := do
  return ((← loadYaml t p).pairs?).getD []

/-- Whether a name ends as YAML files do. -/
def isYamlName (name : String) : Bool := name.endsWith ".yaml"

/-- The YAML files in a folder, in order of their names. -/
def yamlFiles (t : FileTree) (dir : Path) : List Path :=
  ((t.items dir).filter fun i => isYamlName i.1).map (fun i => dir.child i.1)
    |>.mergeSort Path.le

/-- The pairs of a flat file, if there is one. -/
def flatPairs (t : FileTree) (dir : Path) (locale : String) : Except Unloadable Catalog :=
  let flat := dir.join (locale ++ ".yaml")
  if t.has flat then loadPairs t flat else .ok []

/-- The catalog of a locale. -/
def loadCatalog (t : FileTree) (dir : Path) (locale : String) : Except Unloadable Catalog := do
  let catalog := Assoc.ofList (← flatPairs t dir locale)
  let folder := dir.join locale
  if t.isFolder folder then
    (yamlFiles t folder).foldlM (fun c file => do
      return Assoc.putNew (.text file.stem) (.map (← loadPairs t file)) c) catalog
  else return catalog

/-- The locales that have a folder or a flat file, in order. -/
def availableLocales (t : FileTree) (dir : Path) : List String :=
  let items := t.items dir
  let folders := (items.filter fun i => i.2 == .folder).map Prod.fst
  let files := (items.filter fun i => isYamlName i.1).map fun i => (Path.splitName i.1).1
  ((folders ++ files).eraseDups).mergeSort fun a b => decide (a ≤ b)

end EnumExport.Wording
