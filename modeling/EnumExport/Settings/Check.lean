import EnumExport.Settings.Basic
import EnumExport.Wording.Check
import EnumExport.Value.Order

/-!
# Checking settings

What is wrong with a settings file: names that are not known, and values that are not of the kind
their setting needs.
-/

namespace EnumExport.Settings

/-- The names that are known at the top. -/
def topNames : List String :=
  ["enums", "export", "autodiscovery", "lang_namespace", "lang_path", "default_locale", "markers"]

/-- The names that are known in the section on exporting. -/
def exportNames : List String := ["path", "locale", "locales", "types", "strategy"]

/-- The names that are known in the section on discovery. -/
def discoveryNames : List String := ["enabled", "paths", "namespaces"]

/-- The names that are not known, in order. -/
def unknownNames (known : List String) (pairs : List (Value × Value)) :
    Except SettingsFault (List Value) :=
  match Value.sort? ((Assoc.keys pairs).filter fun k => !known.any fun n => k == .text n) with
  | some ks => .ok ks
  | none => .error .unordered

/-- An error for each name that is not known. -/
def unknownErrors (known : List String) (front : String) (pairs : List (Value × Value)) :
    Except SettingsFault (List String) := do
  return (← unknownNames known pairs).map fun k => "Unknown key '" ++ front ++ k.display ++ "'"

/-- Whether a value is a list of texts. -/
def isTextList : Value → Bool
  | .list xs => xs.all Value.isText
  | _ => false

/-- An error unless a setting is absent, null or a list of texts. -/
def listErrors (name front : String) (pairs : List (Value × Value)) : List String :=
  match (Value.field? name pairs).getD .null with
  | .null => []
  | v => if isTextList v then [] else ["'" ++ front ++ name ++ "' must be a list of strings"]

/-- An error when a setting is there and fails a test. -/
def kindErrors (test : Value → Bool) (name front need : String) (pairs : List (Value × Value)) :
    List String :=
  match Value.field? name pairs with
  | none => []
  | some v => if test v then [] else ["'" ++ front ++ name ++ "' must be " ++ need]

/-- Whether a value is null or a text. -/
def isTextOrNull (v : Value) : Bool := v.isNull || v.isText

/-- Whether a value is null or the name of a strategy. -/
def isStrategyOrNull (v : Value) : Bool :=
  v.isNull || [Script.Strategy.inline, .shared].any fun s => v == .text s.text

/-- What is wrong with the section on exporting. -/
def exportErrors (pairs : List (Value × Value)) : Except SettingsFault (List String) := do
  let unknown ← unknownErrors exportNames "export." pairs
  return unknown ++ kindErrors Value.isText "path" "export." "a string" pairs ++
    kindErrors isTextOrNull "locale" "export." "a string or null" pairs ++
    listErrors "locales" "export." pairs ++
    kindErrors Value.isBool "types" "export." "a boolean" pairs ++
    kindErrors isStrategyOrNull "strategy" "export." "one of: inline, shared" pairs

/-- What is wrong with the section on discovery. -/
def discoveryErrors (pairs : List (Value × Value)) : Except SettingsFault (List String) := do
  let unknown ← unknownErrors discoveryNames "autodiscovery." pairs
  return unknown ++ kindErrors Value.isBool "enabled" "autodiscovery." "a boolean" pairs ++
    listErrors "paths" "autodiscovery." pairs ++ listErrors "namespaces" "autodiscovery." pairs

/-- What is wrong with a section, which may be absent or null. -/
def sectionErrors (name : String)
    (check : List (Value × Value) → Except SettingsFault (List String))
    (pairs : List (Value × Value)) : Except SettingsFault (List String) :=
  match (Value.field? name pairs).getD .null with
  | .null => .ok []
  | .map ps => check ps
  | _ => .ok ["'" ++ name ++ "' must be a dictionary"]

/-- What is wrong with the value of a settings file. -/
def contentErrors : Value → Except SettingsFault (List String)
  | .null => .ok []
  | .map pairs => do
    let unknown ← unknownErrors topNames "" pairs
    let exporting ← sectionErrors "export" exportErrors pairs
    let discovery ← sectionErrors "autodiscovery" discoveryErrors pairs
    return unknown ++ listErrors "enums" "" pairs ++ listErrors "markers" "" pairs ++
      ["lang_namespace", "lang_path", "default_locale"].flatMap
        (fun n => kindErrors Value.isText n "" "a string" pairs) ++ exporting ++ discovery
  | _ => .ok ["Root must be a dictionary"]

/-- What is wrong with a settings file. A malformed text is one of the errors. -/
def checkFile (files : FileTree) (p : Path) : Except SettingsFault (List String) :=
  match Wording.loadYaml files p with
  | .ok v => contentErrors v
  | .error (.text .malformed) => .ok [Wording.syntaxError]
  | .error e => .error (.load e)

end EnumExport.Settings
