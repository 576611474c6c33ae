import EnumExport.Class.Basic

/-!
# Modules and importing

The modules that can be imported, and what a dotted name leads to: the longest front that names a
module is imported, and the rest is followed through attributes. A front that does not exist gives
way to a shorter one; any other failure of an import stands.
-/

namespace EnumExport

/-- Why importing a module fails. -/
inductive ImportFault
  /-- the module of this name does not exist -/
  | noModule (name : String)
  /-- the name of the module is empty -/
  | emptyName
  /-- the name of the module begins with a point -/
  | relative (name : String)
  /-- the module itself fails, with this kind of error and message -/
  | failed (kind message : String)
  deriving DecidableEq, Repr

/-- The kind of the error. -/
def ImportFault.kind : ImportFault → String
  | .noModule _ => "ModuleNotFoundError"
  | .emptyName => "ValueError"
  | .relative _ => "TypeError"
  | .failed kind _ => kind

/-- The message of the error. -/
def ImportFault.message : ImportFault → String
  | .noModule n => "No module named " ++ Text.quoted n
  | .emptyName => "Empty module name"
  | .relative n =>
    "the 'package' argument is required to perform a relative import for " ++ Text.quoted n
  | .failed _ message => message

/-- A module. -/
structure ModuleDef where
  /-- its name -/
  name : String
  /-- its classes -/
  classes : List ClassDef := []
  /-- its further attributes -/
  attributes : List (String × Value) := []
  /-- what goes wrong when it is imported -/
  fault : Option ImportFault := none
  deriving Repr

/-- What a name leads to. -/
inductive Found
  /-- a class -/
  | class (c : ClassDef)
  /-- a plain class that holds others, by its module and name -/
  | holder (module name : String)
  /-- a member of an enumeration -/
  | member (c : ClassDef) (m : Member)
  /-- a value -/
  | value (v : Value)
  /-- something else -/
  | other
  deriving Repr

/-- The modules that can be imported. -/
abbrev Modules := List ModuleDef

namespace Modules

/-- Whether a module is there: it is declared, or one below it is. -/
def has (ms : Modules) (name : String) : Bool :=
  ms.any fun (m : ModuleDef) => m.name == name || (name ++ ".").isPrefixOf m.name

/-- The fronts of a dotted name, the shortest first. -/
def fronts (parts : List String) : List String :=
  (List.range parts.length).map fun n => ".".intercalate (parts.take (n + 1))

/-- The fault of importing one module whose packages are imported. -/
def ownFault? (ms : Modules) (name : String) : Option ImportFault :=
  if ms.has name then (ms.find? fun (m : ModuleDef) => m.name == name).bind ModuleDef.fault
  else some (.noModule name)

/-- The fault of importing a module: that of the first of its packages that has one, or its own. -/
def importFault? (ms : Modules) (name : String) : Option ImportFault :=
  if name = "" then some .emptyName
  else if name.startsWith "." then some (.relative name)
  else (fronts (Text.split '.' name)).findSome? ms.ownFault?

/-- Whether a fault says that the module itself is not there, and not something it needs. -/
def saysMissing (fault : ImportFault) (name : String) : Bool :=
  match fault with
  | .noModule n => n == name || (n ++ ".").isPrefixOf name
  | _ => false

/-- Whether a class is held by the plain class of a name. -/
def isHeldBy (name : String) (c : ClassDef) : Bool := (name ++ ".").isPrefixOf c.qualifiedName

/-- An attribute of a module. -/
def attribute? (m : ModuleDef) (name : String) : Option Found :=
  match Assoc.get? name m.attributes with
  | some v => some (.value v)
  | none =>
    match m.classes.reverse.find? fun c => c.qualifiedName == name with
    | some c => some (.class c)
    | none => if m.classes.any (isHeldBy name) then some (.holder m.name name) else none

/-- An attribute of a class: a member, what it or an ancestor says under the name, or the way in
which it describes itself. -/
def classAttribute? (c : ClassDef) (name : String) : Option Found :=
  match Assoc.get? name c.table.names with
  | some m => some (.member c m)
  | none =>
    match c.definition? name with
    | some (.value v) => some (.value v)
    | some (.method _) => some .other
    | none => if name == "for_frontend" && c.describesItself then some .other else none

/-- An attribute of what a name leads to; null counts as no attribute. -/
def follow? (ms : Modules) (f : Found) (name : String) : Option Found :=
  let found := match f with
    | .class c => classAttribute? c name
    | .holder module outer =>
      (ms.find? fun (m : ModuleDef) => m.name == module).bind fun m =>
        attribute? m (outer ++ "." ++ name)
    | .member c m =>
      if name = "value" then some (.value m.value)
      else if name = "name" then some (.value (.text m.name))
      else classAttribute? c name
    | .value _ | .other => none
  match found with
  | some (.value .null) => none
  | found => found

/-- What an attribute of a module leads to through further ones. -/
def lookup? (ms : Modules) (module : String) : List String → Option Found
  | [] => none
  | name :: rest =>
    match (ms.find? fun (m : ModuleDef) => m.name == module).bind fun m => attribute? m name with
    | none | some (.value .null) => none
    | some f => rest.foldlM ms.follow? f

/-- Looks a name up with its first `n` parts as the module, or fewer. -/
def resolveWithin (ms : Modules) (parts : List String) : Nat → Except ImportFault (Option Found)
  | 0 => .ok none
  | n + 1 =>
    let module := ".".intercalate (parts.take (n + 1))
    match ms.importFault? module with
    | none => .ok (ms.lookup? module (parts.drop (n + 1)))
    | some fault =>
      if saysMissing fault module then resolveWithin ms parts n else .error fault

/-- What a dotted name leads to; nothing where it leads nowhere. -/
def resolve (ms : Modules) (name : String) : Except ImportFault (Option Found) :=
  let parts := Text.split '.' name
  ms.resolveWithin parts (parts.length - 1)

/-- The class of a full name. -/
def class? (ms : Modules) (fullName : String) : Option ClassDef :=
  (ms.flatMap ModuleDef.classes).reverse.find? fun c => c.fullName == fullName

end Modules

end EnumExport
