import EnumExport.Catalog.Record
import EnumExport.Manifest.Structure

/-!
# Frozen enumerations

`EnumObject.ofEntry` builds from an entry the object that a generated module exposes: the records
of its cases, found by key and by value, the pairs of its choice list, and the collections derived
from them. A lookup answers the place of a record, so that two lookups answer the same record
exactly when they answer the same place.
-/

namespace EnumExport

/-- The attribute names that every enumeration object has. -/
def reservedAttributes : List String :=
  ["name", "qualified_name", "backing_kind", "count", "entries", "options", "keys", "values",
   "labels", "from_", "from_key", "is_valid", "has_key"]

/-- Whether a case key cannot be an attribute of an enumeration object. -/
def isReservedAttribute (key : String) : Bool :=
  reservedAttributes.contains key || key.toList.head? == some '_'

/-- A frozen enumeration. -/
structure EnumObject where
  /-- its name -/
  name : String
  /-- its name with the module it is declared in -/
  qualifiedName : String
  /-- the scalar kind behind its cases, if they have one -/
  backing : Option BackingKind
  /-- the records of its cases -/
  entries : List Record
  /-- the labels of its cases -/
  labelsOf : List Label
  /-- the records of its choice list -/
  options : List Record
  /-- the place of each case by its key -/
  byKey : List (Value × Nat)
  /-- the place of each case by its value; empty without a scalar kind -/
  byValue : List (Value × Nat)
  deriving Repr, Inhabited

namespace EnumObject

/-- The first case whose key cannot be an attribute. -/
def clash? (cases : List Case) : Option String :=
  (cases.find? fun c => isReservedAttribute c.key).map Case.key

/-- The places of the cases by key. -/
def placesByKey (cases : List Case) : List (Value × Nat) :=
  Assoc.ofList (cases.zipIdx.map fun (c, i) => (.text c.key, i))

/-- The places of the cases that have a value, by value. -/
def placesByValue (cases : List Case) : List (Value × Nat) :=
  Assoc.ofList ((cases.zipIdx.filter fun (c, _) => !(c.value matches .null)).map
    fun (c, i) => (c.value.freeze, i))

/-- The object of an entry. -/
def ofEntry (e : Entry) : Except GenerateError EnumObject := do
  e.check
  match clash? e.cases with
  | some key => throw (.rejected (.reservedKey key))
  | none =>
    return { name := e.name, qualifiedName := e.qualifiedName, backing := e.backing
             entries := e.cases.map fun c => Record.ofFields c.fields
             labelsOf := e.cases.map Case.label
             options := e.choices.map fun c =>
               Record.ofFields (choiceFields (c.value, .text c.label))
             byKey := placesByKey e.cases
             byValue := if e.backing.isSome then placesByValue e.cases else [] }

/-- The number of cases. -/
def count (o : EnumObject) : Nat := o.entries.length

/-- The keys in order. -/
def keys (o : EnumObject) : List Value := Assoc.keys o.byKey

/-- The values that are not null; the keys without a scalar kind. -/
def values (o : EnumObject) : List Value :=
  if o.backing.isSome then Assoc.keys o.byValue else o.keys

/-- The labels for a reader of a locale. -/
def labels (o : EnumObject) (locale : Option String) : List String :=
  o.labelsOf.map fun l => l.resolve locale

/-- Whether a value is of the kind that cases are looked up by. -/
def matchesKind (o : EnumObject) (v : Value) : Bool :=
  !v.isBool && match o.backing with
    | some .int => v.isInteger
    | _ => v.isText

/-- The map that cases are looked up in. -/
def lookup (o : EnumObject) : List (Value × Nat) :=
  if o.backing.isSome then o.byValue else o.byKey

/-- The place of the case of a value; of a key without a scalar kind. -/
def find? (o : EnumObject) (v : Value) : Option Nat :=
  if o.matchesKind v then Assoc.get? v o.lookup else none

/-- The place of the case of a key. -/
def findKey? (o : EnumObject) (v : Value) : Option Nat :=
  if v.isText then Assoc.get? v o.byKey else none

/-- Whether some case has the value. -/
def isValid (o : EnumObject) (v : Value) : Bool := (o.find? v).isSome

/-- Whether some case has the key. -/
def hasKey (o : EnumObject) (v : Value) : Bool := (o.findKey? v).isSome

/-- The methods of an enumeration object. -/
def methodNames : List String :=
  ["keys", "values", "labels", "from_", "from_key", "is_valid", "has_key", "_matches_kind"]

/-- What an attribute of an enumeration object is. -/
inductive Attribute
  /-- a method -/
  | method
  /-- a text -/
  | text (s : String)
  /-- the scalar kind -/
  | kind (k : Option BackingKind)
  /-- a number -/
  | number (n : Nat)
  /-- a row of values -/
  | row (xs : List Value)
  /-- a row of records -/
  | records (rs : List Record)
  /-- a map from values to places of records -/
  | places (ps : List (Value × Nat))
  /-- the record at a place -/
  | place (i : Nat)
  deriving Repr

/-- The attribute of a name: a part of the object, or the record of the case of that key. -/
def attribute? (o : EnumObject) (name : String) : Option Attribute :=
  match Assoc.get? (.text name) o.byKey with
  | some i => some (.place i)
  | none =>
    match name with
    | "name" => some (.text o.name)
    | "qualified_name" => some (.text o.qualifiedName)
    | "backing_kind" => some (.kind o.backing)
    | "count" => some (.number o.count)
    | "entries" => some (.records o.entries)
    | "options" => some (.records o.options)
    | "_keys" => some (.row o.keys)
    | "_values" => some (.row o.values)
    | "_by_key" => some (.places o.byKey)
    | "_lookup" => some (.places o.lookup)
    | _ => if methodNames.contains name then some .method else none

/-- The unambiguous text of an enumeration object. -/
def quoted (o : EnumObject) : String :=
  "<EnumObject " ++ o.qualifiedName ++ " (" ++ toString o.count ++ " cases)>"

/-- What is said to someone who would change an attribute of the object. -/
def frozenMessage (o : EnumObject) (change : Change) (name : String) : String :=
  EnumExport.frozenMessage o.name change name

/-- The objects of a manifest by name; the first entry that has none ends the building. -/
def ofManifest : Manifest → Except GenerateError (List (String × EnumObject))
  | [] => .ok []
  | (name, e) :: rest => do
    let o ← ofEntry e
    return (name, o) :: (← ofManifest rest)

end EnumObject

end EnumExport
