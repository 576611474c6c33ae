import EnumExport.Discovery.Basic
import EnumExport.Registry.Basic
import EnumExport.Settings.Check

/-!
# Projects

A project is a folder with its settings and the modules that can be imported from it. What is done
with a project works on the files around it: `OnDisk` is a computation that may change files and may
fail; what it wrote before it failed stays.
-/

namespace EnumExport

/-- Why something cannot be done with a project. -/
inductive ProjectFault
  /-- its settings cannot be used -/
  | settings (fault : SettingsFault)
  /-- a file or folder stands in the way -/
  | file (fault : FileFault)
  /-- a language file cannot be read -/
  | wording (fault : Wording.Unloadable)
  /-- no module can be generated -/
  | generation (error : GenerateError)
  /-- enumerations are not to be discovered -/
  | notDiscovering
  /-- the language files are not in the project's folder -/
  | outside
  deriving Repr

/-- A computation that may change files, and may fail. -/
abbrev OnDisk (α : Type) := EStateM ProjectFault FileTree α

namespace OnDisk

/-- The outcome of something that only reads files. -/
def reading {ε α : Type} (fault : ε → ProjectFault) (f : FileTree → Except ε α) : OnDisk α :=
  fun t => match f t with
    | .ok x => .ok x t
    | .error e => .error (fault e) t

/-- Changes the files. -/
def change (f : FileTree → Except FileFault FileTree) : OnDisk Unit :=
  fun t => match f t with
    | .ok u => .ok () u
    | .error e => .error (.file e) t

end OnDisk

/-- A project. -/
structure Project where
  /-- its folder -/
  dir : Path
  /-- its settings -/
  settings : Settings := {}
  /-- the modules that can be imported from it -/
  modules : Modules := []
  deriving Repr

namespace Project

/-- The project in a folder, with the settings found there. -/
def load (dir : Path) (modules : Modules) (environment : List (Value × Value)) :
    OnDisk Project := do
  let settings ← OnDisk.reading .settings fun t => Settings.load t dir environment
  return { dir, settings, modules }

variable (p : Project)

/-- The folder of the language files. -/
def langFolder : Path := p.dir.join p.settings.langPath

/-- Where localized texts come from. -/
def translator : Wording.Translator :=
  { source := .folder p.langFolder, locale := p.settings.defaultLocale }

/-- How labels are resolved. -/
def resolver : LabelResolver :=
  { translator := p.translator, namespaceKey := p.settings.langNamespace
    locales := p.settings.output.locales }

/-- Where enumerations are discovered. -/
def discovery : Discovery :=
  { paths := p.settings.discovery.paths.map p.dir.join
    namespaces := p.settings.discovery.namespaces, root := some p.dir
    markers := p.settings.markers }

/-- The registry of the enumerations that are configured and, if that is asked for, discovered. -/
def registry (t : FileTree) : Registry :=
  { modules := p.modules, files := t, configured := p.settings.enums.map .named
    discovered := if p.settings.discovery.enabled then p.discovery.names t else []
    resolver := p.resolver }

/-- The locales to export: those that are set, or else those with language files, or else the
default one. -/
def locales (t : FileTree) : List String :=
  if p.settings.output.locales.isEmpty then
    let available := Wording.availableLocales t p.langFolder
    if available.isEmpty then [p.settings.defaultLocale] else available
  else p.settings.output.locales

/-- What is said where enumerations are not to be discovered. -/
def notDiscoveringMessage : String :=
  "Enum autodiscovery is not enabled. Enable it in .enumshare/config.yaml"

/-- What is told where enumerations are not to be discovered. -/
def notDiscovering : Problem := .ofSetting notDiscoveringMessage "autodiscovery.enabled"

/-- The enumerations that are discovered. -/
def discover (t : FileTree) : Except ProjectFault (List FoundEnum) :=
  if p.settings.discovery.enabled then .ok (p.discovery.scan t) else .error .notDiscovering

end Project

end EnumExport
