import EnumExport.Files.Tree

/-!
# Text files

A text file holds UTF-8. A line may end in a line feed, a carriage return or both; in the text that
is read each of these is a line feed.
-/

namespace EnumExport

/-- The characters with every kind of line end as a line feed. -/
def plainLineEnds : List Char → List Char
  | [] => []
  | '\r' :: '\n' :: rest => '\n' :: plainLineEnds rest
  | '\r' :: rest => '\n' :: plainLineEnds rest
  | c :: rest => c :: plainLineEnds rest

/-- The text of some bytes, unless they are no UTF-8. -/
def textOfBytes? (bytes : List UInt8) : Option String :=
  (String.fromUTF8? (ByteArray.mk bytes.toArray)).map fun s =>
    String.ofList (plainLineEnds s.toList)

/-- The bytes of a text. -/
def bytesOfText (s : String) : List UInt8 := s.toUTF8.toList

namespace FileTree

/-- The text of a file. -/
def readText (t : FileTree) (p : Path) : Except FileFault String := do
  match textOfBytes? (← t.read p) with
  | some s => return s
  | none => throw .notText

/-- The tree with a text file written. -/
def writeText (t : FileTree) (p : Path) (s : String) : Except FileFault FileTree :=
  t.write p (bytesOfText s)

end FileTree

end EnumExport
