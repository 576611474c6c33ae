import EnumExport.Label.Annotation

/-!
# Class declarations

A class as it is declared: its name and place, what it builds on, its members, what is annotated
about them, and its methods, given by what they answer for each member.
-/

namespace EnumExport

/-- A class that others build on. -/
inductive Ancestor
  /-- the mark of what is exported -/
  | marker
  /-- the root of all classes -/
  | object
  /-- texts -/
  | text
  /-- whole numbers -/
  | integer
  /-- doubles -/
  | real
  /-- enumerations -/
  | enumeration
  /-- enumerations whose members show their values -/
  | valueEnumeration
  /-- enumerations of whole numbers -/
  | integerEnumeration
  /-- enumerations of texts -/
  | textEnumeration
  /-- enumerations of bits -/
  | flag
  /-- enumerations of bits that are whole numbers -/
  | integerFlag
  /-- a declared class -/
  | declared (name : String)
  deriving DecidableEq, Repr

namespace Ancestor

/-- The order of the ancestors that are not declared, each with itself in front. -/
def line : Ancestor → List Ancestor
  | .marker => [.marker, .object]
  | .object => [.object]
  | .text => [.text, .object]
  | .integer => [.integer, .object]
  | .real => [.real, .object]
  | .enumeration => [.enumeration, .object]
  | .valueEnumeration => [.valueEnumeration, .enumeration, .object]
  | .integerEnumeration =>
    [.integerEnumeration, .integer, .valueEnumeration, .enumeration, .object]
  | .textEnumeration => [.textEnumeration, .text, .valueEnumeration, .enumeration, .object]
  | .flag => [.flag, .enumeration, .object]
  | .integerFlag => [.integerFlag, .integer, .valueEnumeration, .flag, .enumeration, .object]
  | .declared name => [.declared name, .object]

/-- Whether it is a kind of plain data. -/
def isData : Ancestor → Bool
  | .text | .integer | .real => true
  | _ => false

end Ancestor

/-- The value that a member is declared with. -/
inductive MemberValue
  /-- the next one -/
  | auto
  /-- this one -/
  | given (v : Value)
  deriving Repr

/-- A parameter of a method behind the member itself. -/
inductive Parameter
  /-- must be given -/
  | required
  /-- may be left out -/
  | optional
  /-- takes all further ones -/
  | rest
  /-- takes all further named ones -/
  | namedRest
  /-- must be given by name -/
  | namedRequired
  /-- may be given by name -/
  | namedOptional
  deriving DecidableEq, Repr

/-- Whether a method can be called without giving the parameter. -/
def Parameter.mayBeLeft : Parameter → Bool
  | .required | .namedRequired => false
  | .optional | .rest | .namedRest | .namedOptional => true

/-- How a method is marked for export. -/
inductive ExportMark
  /-- not at all -/
  | unmarked
  /-- under its own name -/
  | plain
  /-- under a name, or its own when that is empty -/
  | named (name : String)
  deriving DecidableEq, Repr

/-- What a method answers. -/
inductive Answer
  /-- a value -/
  | value (v : Value)
  /-- the member of this name -/
  | member (name : String)
  deriving Repr

/-- A method. -/
structure Method where
  /-- its name -/
  name : String
  /-- how it is marked for export -/
  mark : ExportMark
  /-- whether it belongs to the class and not to its members -/
  ofClass : Bool := false
  /-- its parameters behind the member -/
  params : List Parameter := []
  /-- its answers for some members -/
  answers : List (String × Answer) := []
  /-- its answer for every other member -/
  otherwise : Answer := .value .null
  /-- the members for which it fails -/
  failsFor : List String := []
  deriving Repr

/-- The name under which a method is exported, when it is marked. -/
def Method.property? (m : Method) : Option String :=
  match m.mark with
  | .unmarked => none
  | .plain => some m.name
  | .named n => some (if n = "" then m.name else n)

/-- Whether the exported results of a method can be had: it is marked, belongs to the members and
needs nothing else. -/
def Method.isExported (m : Method) : Bool :=
  m.property?.isSome && !m.ofClass && m.params.all Parameter.mayBeLeft

/-- How a class that is not marked describes itself. -/
inductive SelfDescription
  /-- in the standard way -/
  | standard
  /-- not at all, failing with a message -/
  | failing (message : String)
  deriving DecidableEq, Repr

/-- A class as it is declared. -/
structure ClassDecl where
  /-- its name -/
  name : String
  /-- its name with those of the classes around it -/
  qualifiedName : String
  /-- the module it is declared in -/
  module : String
  /-- what it builds on, in order -/
  bases : List Ancestor
  /-- its members in order -/
  members : List (String × MemberValue) := []
  /-- whether the values of its members stay as they are declared -/
  keepsValues : Bool := false
  /-- what is said about its members, one list after the other -/
  notes : List (List (String × AnnotationSpec)) := []
  /-- its methods in order -/
  methods : List Method := []
  /-- how it describes itself, when it does so without the mark -/
  selfDescription : Option SelfDescription := none
  /-- the declarations that it may build on, in order -/
  parents : List ClassDecl := []
  deriving Repr

end EnumExport
