import EnumExport.Discovery.ModuleName
import EnumExport.Files.Text
import EnumExport.Source.Declaration
import EnumExport.Text.Case
import EnumExport.Text.Glob

/-!
# Discovery

Finds the enumerations declared for export in the source files below some paths. Nothing is run: a
file counts only by its text. Of several declarations of one name the first one counts, in the
order of the paths and then of the files.
-/

namespace EnumExport

/-- Where and how to look. -/
structure Discovery where
  /-- the files and folders to look in -/
  paths : List Path
  /-- the patterns for names, of which one must match; none for all names -/
  namespaces : List String := []
  /-- the folder that names start from, unless each path has its own -/
  root : Option Path := none
  /-- the classes that mark an enumeration -/
  markers : List String := ["SharesWithFrontend"]
  /-- the folders that are passed over -/
  excluded : List String :=
    ["__pycache__", ".venv", "venv", "site-packages", "node_modules", ".git", "dist", "build"]
  deriving Repr

/-- An enumeration found in a file. -/
structure FoundEnum where
  /-- the name of its module and its path in there -/
  qualifiedName : String
  /-- the file -/
  file : Path
  /-- the line of the class -/
  line : Nat
  /-- the dotted names of its bases -/
  bases : List String
  deriving DecidableEq, Repr

/-- The last part of the name. -/
def FoundEnum.name (e : FoundEnum) : String := Source.lastPart e.qualifiedName

/-- The enumerations that a file declares, as a module of a name; none where the file cannot be
read. -/
def FileTree.declaredIn (t : FileTree) (markers : List String) (file : Path) (module : String) :
    List FoundEnum :=
  match t.readText file with
  | .error _ => []
  | .ok source => (Source.declarationsOf markers source).map fun d =>
    { qualifiedName := module ++ "." ++ d.path, file, line := d.line, bases := d.bases }

namespace Discovery

/-- Whether a name matches a pattern, upper and lower case being the same. -/
def accepts (d : Discovery) (name : String) : Bool :=
  d.namespaces.isEmpty ||
    d.namespaces.any fun p => Text.matchesGlob (Text.lower p) (Text.lower name)

/-- Whether a folder is passed over: an excluded one, or a hidden one. -/
def passesOver (d : Discovery) (folder : String) : Bool :=
  d.excluded.contains folder || (folder.startsWith "." && folder != "." && folder != "..")

/-- The source files to read for a path, in order. -/
def sourceFiles (d : Discovery) (t : FileTree) (p : Path) : List Path :=
  if t.isFile p then if p.ending = ".py" then [p] else []
  else ((t.everything p).map Prod.fst).filter fun f =>
    f.name.endsWith ".py" &&
      !(((Path.under? p f).getD []).dropLast.any d.passesOver)

/-- The enumerations declared below a path. -/
def foundAt (d : Discovery) (t : FileTree) (p : Path) : List FoundEnum :=
  if !t.has p then []
  else
    let root := d.root.getD (t.packageRoot p)
    (d.sourceFiles t p).flatMap fun file =>
      match moduleName? root file with
      | none => []
      | some module => t.declaredIn d.markers file module

/-- The found enumerations of which the name has not come before. -/
def firstOfEach (seen : List String) : List FoundEnum → List FoundEnum
  | [] => []
  | e :: es =>
    if seen.contains e.qualifiedName then firstOfEach seen es
    else e :: firstOfEach (e.qualifiedName :: seen) es

/-- The declared enumerations, each name once, in the order of the names. -/
def scan (d : Discovery) (t : FileTree) : List FoundEnum :=
  let all := (d.paths.flatMap (d.foundAt t)).filter fun e => d.accepts e.qualifiedName
  (firstOfEach [] all).mergeSort fun a b => a.qualifiedName ≤ b.qualifiedName

/-- The names of the declared enumerations, in order. -/
def names (d : Discovery) (t : FileTree) : List String :=
  (d.scan t).map FoundEnum.qualifiedName

end Discovery

end EnumExport
