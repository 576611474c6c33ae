import EnumExport.Value.Frozen
import EnumExport.Value.Text
import EnumExport.Value.Equality

/-!
# Frozen records

A record is a frozen map from field names to values. Its fields are found by name, as items and as
attributes; the attributes that every record has come first.
-/

namespace EnumExport

/-- A frozen record. -/
structure Record where
  /-- its fields in order -/
  fields : List (Value × Value)
  deriving Repr, Inhabited

/-- What cannot be done to an attribute of something frozen. -/
inductive Change
  /-- give it a value -/
  | set
  /-- take it away -/
  | delete
  deriving DecidableEq, Repr

/-- The change in a word. -/
def Change.word : Change → String
  | .set => "set"
  | .delete => "delete"

/-- What is said to someone who would change an attribute of something frozen. -/
def frozenMessage (owner : String) (change : Change) (name : String) : String :=
  owner ++ " is immutable, cannot " ++ change.word ++ " '" ++ name ++ "'"

namespace Record

/-- The record of some fields. -/
def ofFields (fields : List (Value × Value)) : Record := ⟨Value.freezePairs fields⟩

/-- The value of a field. -/
def item? (r : Record) (name : String) : Option Value :=
  Value.field? name r.fields

/-- The names of the fields in order. -/
def names (r : Record) : List Value := r.fields.map Prod.fst

/-- What an attribute of a record is. -/
inductive Attribute
  /-- a method, or something else that is no data -/
  | method
  /-- the map of all fields -/
  | all
  /-- data: the value of a field, or data that all records share -/
  | field (v : Value)
  deriving Repr

/-- The names of what every record has besides its fields and is no data: methods, operators, and how
records are made, compared and shown. -/
def methodNames : List String :=
  ["get", "items", "keys", "values", "__class__", "__class_getitem__", "__contains__",
   "__delattr__", "__dir__", "__eq__", "__format__", "__ge__", "__getattr__", "__getattribute__",
   "__getitem__", "__getstate__", "__gt__", "__init__", "__init_subclass__", "__iter__", "__le__",
   "__len__", "__lt__", "__ne__", "__new__", "__orig_bases__", "__reduce__", "__reduce_ex__",
   "__repr__", "__setattr__", "__sizeof__", "__str__", "__subclasshook__", "_abc_impl"]

/-- The data that every record has besides its fields. -/
def sharedData : List (String × Value) :=
  [("__doc__", .text "A read-only record with attribute access to its fields."),
   ("__module__", .text "enumshare.runtime"), ("__slots__", .tuple [.text "_data"]),
   ("__abstractmethods__", .set true []), ("__hash__", .null), ("__reversed__", .null)]

/-- The attribute of a name that every record has besides its fields. -/
def ownAttribute? (name : String) : Option Attribute :=
  if methodNames.contains name then some .method
  else if name = "_data" then some .all
  else (Assoc.get? name sharedData).map .field

/-- The attribute of a name. What every record has comes before fields. -/
def attribute? (r : Record) (name : String) : Option Attribute :=
  (ownAttribute? name).or ((r.item? name).map .field)

/-- The unambiguous text of a record. -/
def quoted (r : Record) : String :=
  "EnumRecord(" ++ (Value.map r.fields).quoted ++ ")"

/-- What is said to someone who would change an attribute of a record. -/
def frozenMessage (change : Change) (name : String) : String :=
  EnumExport.frozenMessage "EnumRecord" change name

/-- Whether a value is a map with the same fields. -/
def equals (r : Record) (v : Value) : Bool :=
  (Value.readOnly r.fields).same v

end Record

end EnumExport
