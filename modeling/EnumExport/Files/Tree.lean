import EnumExport.Files.Path
import EnumExport.Assoc

/-!
# Trees of files

What a disk holds: folders, and files with their bytes.

* `locate` finds the place that a path leads to. Every folder on the way must exist, also one that
  the next name leaves again.
* `write`, `makeFolder`, `makeFolders` and `remove` answer the tree that is left, or what stood in
  the way.
-/

namespace EnumExport

/-- What lies at a place. -/
inductive FileNode
  /-- a folder -/
  | folder
  /-- a file with its bytes -/
  | file (content : List UInt8)
  deriving DecidableEq, Repr

/-- A place in a tree: the names from the root, none of them `..`. -/
abbrev Place := List String

/-- What a disk holds, by place. The root is a folder. -/
structure FileTree where
  /-- the folders and files -/
  nodes : List (Place × FileNode) := []
  deriving Repr, Inhabited

/-- What stands in the way of using a path. -/
inductive FileFault
  /-- nothing lies there -/
  | missing
  /-- a folder lies there -/
  | isFolder
  /-- something on the way is no folder -/
  | notFolder
  /-- something lies there already -/
  | exists
  /-- the bytes of a file are no text -/
  | notText
  deriving DecidableEq, Repr

namespace FileTree

/-- What lies at a place. -/
def at? (t : FileTree) (place : Place) : Option FileNode :=
  if place.isEmpty then some .folder else Assoc.get? place t.nodes

/-- Whether a folder lies at a place. -/
def isFolderAt (t : FileTree) (place : Place) : Bool := t.at? place == some .folder

/-- The place that names lead to from a place; what lies there may be nothing. -/
def walk (t : FileTree) (here : Place) : List String → Except FileFault Place
  | [] => .ok here
  | name :: rest =>
    match t.at? here with
    | none => .error .missing
    | some (.file _) => .error .notFolder
    | some .folder => t.walk (if name = ".." then here.dropLast else here ++ [name]) rest

/-- The place that a path leads to. -/
def locate (t : FileTree) (p : Path) : Except FileFault Place := t.walk [] p.parts

/-- What lies where a path leads. -/
def find? (t : FileTree) (p : Path) : Option FileNode :=
  match t.locate p with
  | .ok place => t.at? place
  | .error _ => none

/-- Whether anything lies where a path leads. -/
def has (t : FileTree) (p : Path) : Bool := (t.find? p).isSome

/-- Whether a folder lies where a path leads. -/
def isFolder (t : FileTree) (p : Path) : Bool := t.find? p == some .folder

/-- Whether a file lies where a path leads. -/
def isFile (t : FileTree) (p : Path) : Bool :=
  match t.find? p with
  | some (.file _) => true
  | _ => false

/-- The bytes of a file. -/
def read (t : FileTree) (p : Path) : Except FileFault (List UInt8) := do
  match t.at? (← t.locate p) with
  | none => throw .missing
  | some .folder => throw .isFolder
  | some (.file content) => return content

/-- The tree with a node at a place. -/
def put (t : FileTree) (place : Place) (n : FileNode) : FileTree :=
  { t with nodes := Assoc.put place n t.nodes }

/-- The tree with a file written where a path leads; its folder must exist. -/
def write (t : FileTree) (p : Path) (content : List UInt8) : Except FileFault FileTree := do
  let place ← t.locate p
  if t.isFolderAt place then throw .isFolder
  return t.put place (.file content)

/-- The tree with a new folder where a path leads. -/
def makeFolder (t : FileTree) (p : Path) : Except FileFault FileTree := do
  let place ← t.locate p
  if (t.at? place).isSome then throw .exists
  return t.put place .folder

/-- The tree with a folder along all names of a path, from the outermost on; folders that are there
stay. -/
def makeAlong (t : FileTree) (front : List String) : List String → Except FileFault FileTree
  | [] => .ok t
  | name :: rest => do
    let p : Path := { parts := front ++ [name] }
    let t ← match t.makeFolder p with
      | .ok t => pure t
      | .error .exists =>
        if t.isFolder p then pure t else throw (if rest.isEmpty then .exists else .notFolder)
      | .error e => throw e
    t.makeAlong (front ++ [name]) rest

/-- The tree with a folder where a path leads, and with those around it. -/
def makeFolders (t : FileTree) (p : Path) : Except FileFault FileTree :=
  if t.isFolder p then .ok t else t.makeAlong [] p.parts

/-- The tree without a file. -/
def remove (t : FileTree) (p : Path) : Except FileFault FileTree := do
  let place ← t.locate p
  match t.at? place with
  | none => throw .missing
  | some .folder => throw .isFolder
  | some (.file _) => return { t with nodes := t.nodes.filter fun n => n.1 ≠ place }

/-- The names from a place to those below it, with what lies there. -/
def below (t : FileTree) (place : Place) : List (List String × FileNode) :=
  t.nodes.filterMap fun n =>
    match Path.dropFront? place n.1 with
    | some (name :: rest) => some (name :: rest, n.2)
    | _ => none

/-- The names of the items in the folder where a path leads, with what they are. -/
def items (t : FileTree) (p : Path) : List (String × FileNode) :=
  match t.locate p with
  | .error _ => []
  | .ok place => (t.below place).filterMap fun n =>
    match n.1 with
    | [name] => some (name, n.2)
    | _ => none

/-- The paths of all that lies below the folder where a path leads, in order. -/
def everything (t : FileTree) (p : Path) : List (Path × FileNode) :=
  match t.locate p with
  | .error _ => []
  | .ok place =>
    let found := (t.below place).map fun n => ({ p with parts := p.parts ++ n.1 }, n.2)
    found.mergeSort fun a b => a.1.le b.1

/-- The files below a folder as seen from it, in the order of their texts. -/
def fileTexts (t : FileTree) (p : Path) : List String :=
  let files := (t.everything p).filter fun f => f.2 != .folder
  (files.map fun f => p.textUnder f.1).mergeSort fun a b => decide (a ≤ b)

end FileTree

end EnumExport
