import EnumExport.Command.Basic

/-!
# The command line

Reads the files of the directory that a command line names, runs the command on them, and writes
what it changed. A class exists only where the surroundings of a command declare it, and a program
on its own has none to declare: it starts projects, finds enumerations in their files and checks
settings, and reports every class as missing.
-/

namespace EnumExport.Command

/-- The names in the path of a text, as a place. -/
def placeOf (text : String) : Place := (Path.ofText text).normal.parts

/-- The text of a place. -/
def textOf (place : Place) : String := Path.text { parts := place }

/-- The folders that lead to a place, and the place itself. -/
def foldersTo (place : Place) : List Place :=
  (List.range place.length).map fun n => place.take (n + 1)

/-- What lies below a folder. What cannot be read is left out. -/
partial def nodesBelow (place : Place) : IO (List (Place × FileNode)) := do
  let entries ← (← IO.FS.realPath (textOf place)).readDir
  let nodes ← entries.toList.mapM fun entry => do
    let inner := place ++ [entry.fileName]
    if ← entry.path.isDir then
      return (inner, FileNode.folder) :: (← nodesBelow inner)
    try
      return [(inner, .file (← IO.FS.readBinFile (textOf inner)).toList)]
    catch _ => return []
  return nodes.flatten

/-- The tree of all that lies below a folder. -/
def treeBelow (place : Place) : IO FileTree := do
  let folders := (foldersTo place).map fun p => (p, FileNode.folder)
  try
    return { nodes := folders ++ (← nodesBelow place) }
  catch _ => return { nodes := (foldersTo place.dropLast).map fun p => (p, .folder) }

/-- Writes what was not there before. -/
def writeChanges (before after : FileTree) : IO Unit := do
  for (place, node) in after.nodes do
    if before.at? place ≠ some node then
      match node with
      | .folder => IO.FS.createDirAll (textOf place)
      | .file content => IO.FS.writeBinFile (textOf place) ⟨content.toArray⟩

/-- The directory that a command line is about, as seen from another. -/
def directoryOf (cwd : Path) (arguments : List String) : Path :=
  match Request.ofArguments arguments with
  | .invoke i => (cwd.join i.directory).normal
  | _ => cwd

/-- The variables that settings heed. -/
def readVariables : IO (List (Value × Value)) := do
  match ← IO.getEnv Settings.discoveryVariable with
  | some text => return [(.text Settings.discoveryVariable, .text text)]
  | none => return []

/-- Runs a command line on the disk, and answers its exit code. -/
def runOnDisk (arguments : List String) : IO UInt32 := do
  let cwd : Path := { parts := placeOf (← IO.currentDir).toString }
  let before ← treeBelow (directoryOf cwd arguments).parts
  let outcome := run { cwd, environment := ← readVariables } arguments before
  writeChanges before outcome.files
  IO.print outcome.output
  if let some fault := outcome.fault then
    IO.eprintln (fault.message?.getD "The command could not be carried out.")
  return UInt32.ofNat outcome.code

end EnumExport.Command

/-- Runs the command line. -/
def main (arguments : List String) : IO UInt32 := EnumExport.Command.runOnDisk arguments
