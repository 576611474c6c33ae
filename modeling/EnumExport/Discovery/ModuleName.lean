import EnumExport.Files.Tree

/-!
# Names of modules

A source file is a module, and a folder with a file `__init__.py` in it is a package. The folder
above the outermost package is the root that names start from; the name of a module is its path
from there, with points between the parts and without the ending of the file.
-/

namespace EnumExport

/-- The file that makes a folder a package, and stands for it as a module. -/
def packageFile : String := "__init__.py"

/-- The folder, or the next one above it, that is no package; a path is given up to the front of
its names. -/
def FileTree.rootFrom (t : FileTree) : List String → Path
  | [] => { parts := [] }
  | front@(_ :: _) =>
    let p : Path := { parts := front.reverse }
    if t.has (p.child packageFile) then t.rootFrom (front.drop 1) else p
  termination_by front => front.length

/-- The folder from which the package around a path can be imported. -/
def FileTree.packageRoot (t : FileTree) (p : Path) : Path :=
  let folder := if t.isFolder p then p else p.parent
  t.rootFrom folder.parts.reverse

/-- The name of the module in a file, seen from a root; nothing when the file is not below the
root. -/
def moduleName? (root file : Path) : Option String := do
  let parts ← Path.under? root.normal file.normal
  let last ← parts.getLast?
  let stem := (Path.splitName last).1
  let front := parts.dropLast
  return ".".intercalate (if stem = "__init__" then front else front ++ [stem])

end EnumExport
