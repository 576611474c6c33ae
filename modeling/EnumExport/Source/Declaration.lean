import EnumExport.Source.Statement
import EnumExport.Text.Split

/-!
# Declared enumerations

The classes of a module that declare an enumeration for export. Such a class has a base that makes
it an enumeration and a base that marks it; both are passed on from class to class within the
module, under the names of the classes around. A class counts only with members of its own, and not
inside a function, where nobody could import it; but what it passes on counts also there.
-/

namespace EnumExport.Source

/-- The classes that make an enumeration. -/
def enumBases : List String := ["Enum", "IntEnum", "StrEnum", "Flag", "IntFlag", "ReprEnum"]

/-- The last part of a dotted name. -/
def lastPart (name : String) : String := (Text.split '.' name).getLast?.getD ""

/-- Whether a simple statement declares a member. -/
def Simple.declaresMember : Simple → Bool
  | .assignment => true
  | .typed hasValue => hasValue
  | .other => false

/-- Whether a statement stands for simple statements, one of which declares a member. -/
def Statement.declaresMember : Statement → Bool
  | .simple parts => parts.any Simple.declaresMember
  | _ => false

/-- Whether a block on lines of its own declares a member. -/
def Block.declaresMember : Block → Bool
  | .inline _ => false
  | .indented statements => statements.any Statement.declaresMember

/-- A declared enumeration. -/
structure Declaration where
  /-- the names of the classes around and its own, with points between them -/
  path : String
  /-- the line of the class -/
  line : Nat
  /-- the dotted names of its bases -/
  bases : List String
  deriving DecidableEq, Repr

/-- What is known of a module once a part of it is read. -/
structure Survey where
  /-- the paths of the classes that are enumerations -/
  enums : List String := []
  /-- the paths of the classes that are marked -/
  marked : List String := []
  /-- the declared enumerations -/
  found : List Declaration := []
  deriving Repr

namespace Survey

/-- Whether a base is a class of one of some names, or a class of the module that counts. -/
def reaches (names known : List String) (base : String) : Bool :=
  names.contains (lastPart base) || known.contains base

/-- Takes note of a class. -/
def declare (s : Survey) (markers : List String) (d : Declaration) (counts : Bool) : Survey :=
  let isEnum := d.bases.any (reaches enumBases s.enums)
  let isMarked := d.bases.any (reaches markers s.marked)
  { enums := if isEnum then d.path :: s.enums else s.enums
    marked := if isMarked then d.path :: s.marked else s.marked
    found := if isEnum && isMarked && counts then s.found ++ [d] else s.found }

/-- The path of a class inside others. -/
def pathOf (outer : List String) (name : String) : String := ".".intercalate (outer ++ [name])

mutual

/-- Reads a statement inside the classes of some names. -/
def readStatement (markers outer : List String) (inFunction : Bool) (s : Survey) :
    Statement → Survey
  | .simple _ => s
  | .function body => readBlock markers outer true s body
  | .classDecl line name bases body =>
    let d : Declaration := ⟨pathOf outer name, line, bases⟩
    let s := s.declare markers d (!inFunction && body.declaresMember)
    readBlock markers (outer ++ [name]) inFunction s body
  | .compound blocks => readBlocks markers outer inFunction s blocks

/-- Reads a block. -/
def readBlock (markers outer : List String) (inFunction : Bool) (s : Survey) : Block → Survey
  | .inline _ => s
  | .indented statements => readStatements markers outer inFunction s statements

/-- Reads statements, one after the other. -/
def readStatements (markers outer : List String) (inFunction : Bool) (s : Survey) :
    List Statement → Survey
  | [] => s
  | x :: xs =>
    readStatements markers outer inFunction (readStatement markers outer inFunction s x) xs

/-- Reads blocks, one after the other. -/
def readBlocks (markers outer : List String) (inFunction : Bool) (s : Survey) :
    List Block → Survey
  | [] => s
  | x :: xs => readBlocks markers outer inFunction (readBlock markers outer inFunction s x) xs

end

end Survey

/-- The declared enumerations of a module, in order. -/
def declarations (markers : List String) (statements : List Statement) : List Declaration :=
  (Survey.readStatements markers [] false {} statements).found

/-- The declared enumerations of a source text; none where it is malformed. -/
def declarationsOf (markers : List String) (source : String) : List Declaration :=
  match module? source with
  | some statements => declarations markers statements
  | none => []

end EnumExport.Source
