import EnumExport.Wording.Folder
import EnumExport.Value.Text

/-!
# Checking language files

A language file holds nothing, or a map whose values are texts and further such maps.
-/

namespace EnumExport.Wording

mutual

/-- What is wrong with the values of a map, `path` leading to it. -/
def pairErrors (path : String) : List (Value × Value) → List String
  | [] => []
  | (k, v) :: rest =>
    let here := if path = "" then k.display else path ++ "." ++ k.display
    valueErrors here v ++ pairErrors path rest

/-- What is wrong with a value, `path` leading to it. -/
def valueErrors (path : String) : Value → List String
  | .map ps => pairErrors path ps
  | v => if v.isText then [] else ["'" ++ path ++ "' must be a string or a mapping"]

end

/-- What is wrong with the value of a language file. -/
def contentErrors : Value → List String
  | .null => []
  | .map ps => pairErrors "" ps
  | _ => ["Root must be a dictionary"]

/-- The entry of an error list for a text that is malformed. -/
def syntaxError : String := "YAML syntax error: malformed document"

/-- What is wrong with a file whose value is to be checked. A malformed text is one of the errors;
whatever else keeps the file from being loaded is a fault. -/
def fileErrors (check : Value → List String) (t : FileTree) (p : Path) :
    Except Unloadable (List String) :=
  match loadYaml t p with
  | .ok v => .ok (check v)
  | .error (.text .malformed) => .ok [syntaxError]
  | .error e => .error e

/-- What is wrong with a language file. -/
def checkFile (t : FileTree) (p : Path) : Except Unloadable (List String) :=
  fileErrors contentErrors t p

end EnumExport.Wording
