import EnumExport.Script.Module
import EnumExport.Text.Case
import EnumExport.Text.Blank
import EnumExport.Wording.Folder

/-!
# Settings

What a project sets in its settings file. A setting that is absent, null or empty takes its
default; texts are made of whatever scalar stands where a text is expected.
-/

namespace EnumExport

/-- Where and how the modules are written. -/
structure ExportSettings where
  /-- the folder they are written to -/
  path : String := "frontend/src/enums"
  /-- the locale of labels, whatever is set there -/
  locale : Value := .null
  /-- the locales of translated labels -/
  locales : List String := []
  /-- whether the types are exported -/
  types : Bool := false
  /-- how the modules are built -/
  strategy : Script.Strategy := .inline
  deriving Repr

/-- Where enumerations are discovered. -/
structure DiscoverySettings where
  /-- whether they are -/
  enabled : Bool := true
  /-- the files and folders that are searched -/
  paths : List String := ["app/enums"]
  /-- the patterns of the names that count -/
  namespaces : List String := []
  deriving Repr

/-- The settings of a project. -/
structure Settings where
  /-- the names of the enumerations to export -/
  enums : List String := []
  /-- where and how modules are written -/
  output : ExportSettings := {}
  /-- where enumerations are discovered -/
  discovery : DiscoverySettings := {}
  /-- the part of a text key before an enumeration's name -/
  langNamespace : String := "enums"
  /-- the folder of the language files -/
  langPath : String := "lang"
  /-- the locale that counts where none is asked for -/
  defaultLocale : String := "en"
  /-- the names of the marks -/
  markers : List String := ["SharesWithFrontend"]
  deriving Repr

/-- Why settings cannot be used. -/
inductive SettingsFault
  /-- the file cannot be loaded -/
  | load (fault : Wording.Unloadable)
  /-- something that should have items is of this kind -/
  | notItems (kind : String)
  /-- unknown names have no order -/
  | unordered
  deriving DecidableEq, Repr

namespace Settings

/-- The variable that says whether enumerations are discovered. -/
def discoveryVariable : String := "ENUMSHARE_AUTODISCOVERY"

/-- The folder of the settings file, and its name. -/
def fileNames : List String := [".enumshare", "config.yaml"]

/-- The settings file of a project. -/
def file (dir : Path) : Path := { dir with parts := dir.parts ++ fileNames }

/-- A truth value in words, spaces around it and letter case aside. -/
def parseBool? (s : String) : Option Bool :=
  let w := Text.lower (Text.strip s)
  if ["1", "true", "yes", "on"].contains w then some true
  else if ["0", "false", "no", "off"].contains w then some false
  else none

/-- A section: the pairs of a map, or none. -/
def sectionOf (name : String) (pairs : List (Value × Value)) : List (Value × Value) :=
  ((Value.field? name pairs).bind Value.pairs?).getD []

/-- The value of a setting unless it counts as false. -/
def truthy? (name : String) (pairs : List (Value × Value)) : Option Value :=
  (Value.field? name pairs).filter Value.truthy

/-- A setting as a text. -/
def textOr (name default : String) (pairs : List (Value × Value)) : String :=
  ((truthy? name pairs).map Value.display).getD default

/-- A setting as a list of texts. -/
def textsOr (name : String) (default : List String) (pairs : List (Value × Value)) :
    Except SettingsFault (List String) :=
  match truthy? name pairs with
  | none => .ok default
  | some v => match v.items? with
    | some xs => .ok (xs.map Value.display)
    | none => .error (.notItems v.kindName)

/-- A setting as a truth value. -/
def flagOr (name : String) (default : Bool) (pairs : List (Value × Value)) : Bool :=
  ((Value.field? name pairs).map Value.truthy).getD default

/-- The strategy of a setting, in any letter case; one that is unknown is the first. -/
def strategyOf (pairs : List (Value × Value)) : Script.Strategy :=
  ((Value.field? "strategy" pairs).bind fun v =>
    Script.Strategy.ofText? (Text.lower v.display)).getD .inline

/-- Whether enumerations are discovered: as the variable says, or else as is set. -/
def enabledOf (environment : List (Value × Value)) (pairs : List (Value × Value)) : Bool :=
  match ((Value.field? discoveryVariable environment).bind Value.asText?).bind parseBool? with
  | some b => b
  | none => flagOr "enabled" true pairs

/-- The settings that a map of values makes. -/
def ofPairs (environment pairs : List (Value × Value)) : Except SettingsFault Settings := do
  let exportPairs := sectionOf "export" pairs
  let discoveryPairs := sectionOf "autodiscovery" pairs
  let enums ← textsOr "enums" [] pairs
  let locales ← textsOr "locales" [] exportPairs
  let paths ← textsOr "paths" ["app/enums"] discoveryPairs
  let namespaces ← textsOr "namespaces" [] discoveryPairs
  let markers ← textsOr "markers" ["SharesWithFrontend"] pairs
  return {
    enums
    output :=
      { path := textOr "path" "frontend/src/enums" exportPairs
        locale := (Value.field? "locale" exportPairs).getD .null
        locales
        types := flagOr "types" false exportPairs
        strategy := strategyOf exportPairs }
    discovery := { enabled := enabledOf environment discoveryPairs, paths, namespaces }
    langNamespace := textOr "lang_namespace" "enums" pairs
    langPath := textOr "lang_path" "lang" pairs
    defaultLocale := textOr "default_locale" "en" pairs
    markers }

/-- The settings of a project, the file being optional; a file that holds no map sets nothing. -/
def load (files : FileTree) (dir : Path) (environment : List (Value × Value)) :
    Except SettingsFault Settings :=
  let p := file dir
  if files.has p then
    match Wording.loadYaml files p with
    | .error e => .error (.load e)
    | .ok v => ofPairs environment (v.pairs?.getD [])
  else ofPairs environment []

end Settings

end EnumExport
