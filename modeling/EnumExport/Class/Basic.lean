import EnumExport.Class.Linearization
import EnumExport.Class.Member
import EnumExport.Manifest.Basic

/-!
# Classes

A class that has come into being: its ancestors in order, its members and what is said about them.

* `ClassDef.ofDecl` builds a class and the classes it builds on, or says what keeps it from coming
  into being.
* `exportedMethods` goes through the ancestors from the furthest to the nearest, so that the nearest
  definition of a method counts, in the place of the first.
-/

namespace EnumExport

/-- A class among the ancestors of another, or the class itself. -/
structure Layer where
  /-- which one it is -/
  self : Ancestor
  /-- the methods it declares -/
  methods : List Method := []
  /-- its plain attributes that are no members -/
  attributes : List (String × Value) := []
  /-- how it describes itself -/
  selfDescription : Option SelfDescription := none
  deriving Repr

/-- What a class itself says under a name, members apart. -/
inductive Definition
  /-- a method -/
  | method (m : Method)
  /-- a plain attribute of this value -/
  | value (v : Value)
  deriving Repr

namespace Layer

/-- The method of a name that a class declares; of several the last. -/
def method? (l : Layer) (name : String) : Option Method :=
  l.methods.reverse.find? fun m => m.name == name

/-- What a class itself says under a name. Methods are declared after plain attributes. -/
def definition? (l : Layer) (name : String) : Option Definition :=
  match l.method? name with
  | some m => some (.method m)
  | none => (Assoc.get? name l.attributes).map .value

end Layer

/-- A class. -/
structure ClassDef where
  /-- its name -/
  name : String
  /-- its name with those of the classes around it -/
  qualifiedName : String
  /-- the module it is declared in -/
  module : String
  /-- itself and its ancestors, in order -/
  line : List Layer
  /-- its members -/
  table : MemberTable
  /-- what is said about its members, by name -/
  notes : List (String × CaseNotes)
  /-- whether the values of its members stay as they are declared -/
  keepsValues : Bool
  deriving Repr

namespace ClassDef

/-- Whether a class is one of the class's ancestors. -/
def isA (c : ClassDef) (a : Ancestor) : Bool := c.line.any fun l => l.self == a

/-- Whether it is an enumeration. -/
def isEnum (c : ClassDef) : Bool := c.isA .enumeration

/-- Whether it bears the mark of what is exported. -/
def isMarked (c : ClassDef) : Bool := c.isA .marker

/-- The full name: module and name. -/
def fullName (c : ClassDef) : String := c.module ++ "." ++ c.qualifiedName

/-- The members that are gone through, in order. -/
def members (c : ClassDef) : List Member := c.table.listed

/-- The kind of plain data that its members count as. -/
def dataKind (c : ClassDef) : DataKind :=
  if c.isA .text then .text
  else if c.isA .integer then .integer
  else if c.isA .real then .real
  else .plain

/-- The scalar kind behind its cases; a class of neither texts nor whole numbers has none, whatever
its values are. -/
def backing (c : ClassDef) : Option BackingKind :=
  if c.isA .text then some .string
  else if c.isA .integer then some .int
  else none

/-- A member as a value. -/
def memberValue (c : ClassDef) (m : Member) : Value :=
  .member
    { owner := c.name, name := m.name, data := c.dataKind
      showsValue := c.isA .valueEnumeration, isFlag := c.isA .flag } m.value

/-- What is said about a member. -/
def notesFor (c : ClassDef) (m : Member) : CaseNotes := (Assoc.get? m.name c.notes).getD {}

/-- How it describes itself, when it or an ancestor says so. -/
def ownDescription (c : ClassDef) : Option SelfDescription :=
  c.line.findSome? Layer.selfDescription

/-- Whether it can describe itself to the frontend. -/
def describesItself (c : ClassDef) : Bool := c.isMarked || c.ownDescription.isSome

/-- What a class or the nearest of its ancestors says under a name, members apart. -/
def definition? (c : ClassDef) (name : String) : Option Definition :=
  c.line.findSome? fun l => l.definition? name

/-- The methods that are exported, each with the method's name. They come from the furthest ancestor
to the nearest, and a nearer definition takes the place of a further one. -/
def exportedMethods (c : ClassDef) : List Method :=
  let own (l : Layer) : List (String × Method) := Assoc.ofList (l.methods.map fun m => (m.name, m))
  let all := c.line.reverse.flatMap own
  Assoc.values (Assoc.ofList (all.filter fun p => p.2.isExported))

/-! ## Coming into being -/

/-- The order of an ancestor, itself included, given the classes built so far. -/
def lineOf (known : List ClassDef) : Ancestor → Option (List Layer)
  | .declared name => (known.reverse.find? fun c => c.name == name).map ClassDef.line
  | a => some (a.line.map fun x => { self := x })

/-- The first of the layers that is the given ancestor. -/
def layerOf (layers : List Layer) (a : Ancestor) : Layer :=
  (layers.find? fun l => l.self == a).getD { self := a }

/-- The line of a class with the given bases; a class without bases builds on the root. -/
def lineWith (self : Layer) (bases : List Ancestor) (lines : List (List Layer)) :
    Option (List Layer) := do
  let order ← Linearization.ofParents self.self bases (lines.map fun l => l.map Layer.self)
  return order.map (layerOf (self :: lines.flatten))

/-- Whether a line is that of an enumeration. -/
def isEnumLine (line : List Layer) : Bool := line.any fun l => l.self == .enumeration

/-- Whether one of the bases is an enumeration that lists members, and so is closed. -/
def extendsClosed (known : List ClassDef) (line : List Layer) : Bool :=
  line.any fun l => match l.self with
    | .declared name =>
      match known.reverse.find? fun c => c.name == name with
      | some c => c.isEnum && !c.members.isEmpty
      | none => false
    | _ => false

/-- Whether the bases go together: not two kinds of data, and an enumeration stands last and is not
closed. -/
def basesFit (known : List ClassDef) (lines : List (List Layer)) : Bool :=
  let kinds := ((lines.flatten.map Layer.self).filter Ancestor.isData).eraseDups
  let enums := lines.any isEnumLine
  decide (kinds.length ≤ 1) &&
    (!enums || ((lines.getLast?.map isEnumLine).getD false && !lines.any (extendsClosed known)))

/-- How the members of a line count on. -/
def countingOf (line : List Ancestor) : Counting :=
  if line.contains .flag then .doubling
  else if line.contains .textEnumeration then .naming
  else .upward

/-- What a line does to the values of its members. -/
def conversionOf (keeps : Bool) (line : List Ancestor) : Conversion :=
  if keeps then .part
  else if line.contains .textEnumeration then .textOnly
  else if line.contains .text then .text
  else if line.contains .integer then .integer
  else if line.contains .real then .real
  else .none

/-- The members of an enumeration with the values that they are declared with. No method may have
the name of a member. -/
def membersOf (d : ClassDecl) (counting : Counting) :
    Except ClassFault (List (String × Value)) := do
  let assigned ← assign counting (d.members.filter fun m => isMemberName d.name m.1)
  match d.methods.find? fun m => Assoc.has m.name assigned with
  | some m => throw (.nameTaken m.name)
  | none => pure ()
  match assigned.find? fun m => isBadName m.1 with
  | some m => throw (.badName m.1)
  | none => return assigned

/-- What is said in one go about the members of a class, put into what was said before. -/
def annotate (owner : String) (table : MemberTable) (before : List (String × CaseNotes))
    (specs : List (String × AnnotationSpec)) :
    Except AnnotationFault (List (String × CaseNotes)) := do
  let unknown := ((Assoc.keys specs).filter fun n => !(Assoc.has n table.names)).mergeSort
    fun a b => decide (a ≤ b)
  if !unknown.isEmpty then throw (.unknownCases owner unknown)
  specs.foldlM (fun notes s => do
    return Assoc.put s.1 (← CaseNotes.ofSpec s.1 s.2) notes) before

/-- All that is said about the members of a class. -/
def notesOf (d : ClassDecl) (isEnum : Bool) (table : MemberTable) :
    Except AnnotationFault (List (String × CaseNotes)) :=
  if !isEnum && !d.notes.isEmpty then .error .noCases
  else d.notes.foldlM (fun notes specs => annotate d.name table notes (Assoc.ofList specs)) []

/-- The value of a declared attribute. -/
def attributeOf : MemberValue → Value
  | .auto => .foreign
  | .given v => v

/-- The plain attributes of a class: what is declared like a member and is none. -/
def attributesOf (d : ClassDecl) (isEnum : Bool) : List (String × Value) :=
  Assoc.ofList ((d.members.filter fun m => !(isEnum && isMemberName d.name m.1)).map
    fun m => (m.1, attributeOf m.2))

/-- Builds a class from its declaration, given the classes that it may build on. -/
def ofDeclOver (known : List ClassDef) (d : ClassDecl) : Except ClassFault ClassDef := do
  let bases := if d.bases.isEmpty then [.object] else d.bases
  let lines ← match bases.mapM (lineOf known) with
    | some lines => pure lines
    | none => throw .shape
  if !basesFit known lines then throw .shape
  let isEnum := lines.any isEnumLine
  let assigned ← if isEnum then
      membersOf d (countingOf ((lines.getLast?.getD []).map Layer.self))
    else pure []
  let self : Layer :=
    { self := .declared d.name, methods := d.methods, attributes := attributesOf d isEnum
      selfDescription := d.selfDescription }
  let line ← match lineWith self bases lines with
    | some line => pure line
    | none => throw .shape
  let inherited := match bases.getLast? with
    | some (.declared name) =>
      ((known.reverse.find? fun c => c.name == name).map ClassDef.keepsValues).getD false
    | _ => false
  let keeps := d.keepsValues || inherited
  let ancestors := line.map Layer.self
  let ofBits := ancestors.contains .flag
  let table ← MemberTable.build ofBits (conversionOf keeps ancestors) {} assigned
  let notes ← match notesOf d isEnum table with
    | .ok notes => pure notes
    | .error e => throw (ClassFault.notes e)
  return { name := d.name, qualifiedName := d.qualifiedName, module := d.module, line, table
           notes, keepsValues := keeps }

/-- Builds further classes over those that are there, each after those it may build on. -/
def ofDeclsOver (known : List ClassDef) : List ClassDecl → Except ClassFault (List ClassDef)
  | [] => .ok known
  | d@⟨_, _, _, _, _, _, _, _, _, parents⟩ :: ds => do
    let c ← ofDeclOver (← ofDeclsOver known parents) d
    ofDeclsOver (known ++ [c]) ds

/-- Builds a class from its declaration, after those it may build on. -/
def ofDecl (d : ClassDecl) : Except ClassFault ClassDef := do
  ofDeclOver (← ofDeclsOver [] d.parents) d

end ClassDef

end EnumExport
