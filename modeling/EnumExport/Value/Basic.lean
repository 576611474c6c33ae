import EnumExport.Number.Decimal

/-!
# Data values

What the cases of an enumeration carry, what language files hold and what settings are made
of: scalars, containers and members of enumerations. A map keeps its pairs in order of insertion.
-/

namespace EnumExport

/-- A day of the calendar. -/
structure Day where
  /-- the year -/
  year : Nat
  /-- the month, from one -/
  month : Nat
  /-- the day of the month, from one -/
  day : Nat
  deriving DecidableEq, Repr

/-- A time of the day. -/
structure Clock where
  /-- the hour -/
  hour : Nat
  /-- the minute -/
  minute : Nat
  /-- the second -/
  second : Nat
  /-- the millionths of a second -/
  micro : Nat
  /-- minutes ahead of universal time, when the zone is known -/
  offset : Option Int
  deriving DecidableEq, Repr

/-- How a member of an enumeration also counts as plain data. -/
inductive DataKind
  /-- it does not -/
  | plain
  /-- as a text -/
  | text
  /-- as a whole number -/
  | integer
  /-- as a double -/
  | real
  deriving DecidableEq, Repr

/-- Who a member of an enumeration is. -/
structure MemberTag where
  /-- the name of its class -/
  owner : String
  /-- its own name -/
  name : String
  /-- how it counts as plain data -/
  data : DataKind
  /-- whether its text is that of its value, and not `owner.name` -/
  showsValue : Bool
  /-- whether it stands for a set of bits, so that it is false when none is set -/
  isFlag : Bool := false
  deriving DecidableEq, Repr

/-- A data value. -/
inductive Value
  /-- no value -/
  | null
  /-- a truth value -/
  | bool (b : Bool)
  /-- a whole number -/
  | int (i : Int)
  /-- a double -/
  | float (x : Binary64)
  /-- a text -/
  | text (s : String)
  /-- a row of bytes -/
  | bytes (bs : List UInt8)
  /-- a list, which may be changed in place -/
  | list (xs : List Value)
  /-- a tuple, which may not -/
  | tuple (xs : List Value)
  /-- a set; a frozen one may not be changed in place -/
  | set (frozen : Bool) (xs : List Value)
  /-- a map in order of insertion -/
  | map (pairs : List (Value × Value))
  /-- a view of a map that may not be changed through it -/
  | readOnly (pairs : List (Value × Value))
  /-- a member of an enumeration and the value it stands for -/
  | member (tag : MemberTag) (value : Value)
  /-- a day, and a time on it -/
  | moment (day : Day) (clock : Option Clock)
  /-- something of which only its kind is known -/
  | foreign
  deriving Repr, Inhabited

namespace Value

/-- The characters of a value that counts as a text. -/
def asText? : Value → Option String
  | .text s => some s
  | .member ⟨_, _, .text, _, _⟩ (.text s) => some s
  | _ => none

/-- The number of a value that counts as a whole number; the truth values count as 0 and 1. -/
def asInt? : Value → Option Int
  | .bool b => some (if b then 1 else 0)
  | .int i => some i
  | .member ⟨_, _, .integer, _, _⟩ (.int i) => some i
  | .member ⟨_, _, .integer, _, _⟩ (.bool b) => some (if b then 1 else 0)
  | _ => none

/-- The double of a value that counts as one. -/
def asFloat? : Value → Option Binary64
  | .float x => some x
  | .member ⟨_, _, .real, _, _⟩ (.float x) => some x
  | _ => none

/-- Whether a value is null. -/
def isNull : Value → Bool
  | .null => true
  | _ => false

/-- Whether a value is a truth value. -/
def isBool : Value → Bool
  | .bool _ => true
  | _ => false

/-- Whether a value counts as a text. -/
def isText (v : Value) : Bool := v.asText?.isSome

/-- Whether a value counts as a whole number; the truth values do. -/
def isInteger (v : Value) : Bool := v.asInt?.isSome

/-- The pairs of a map, whether it may be changed or not. -/
def pairs? : Value → Option (List (Value × Value))
  | .map ps | .readOnly ps => some ps
  | _ => none

/-- Whether a value is a map that may be changed. -/
def isMap : Value → Bool
  | .map _ => true
  | _ => false

/-- Whether a value counts as true: not when it is null, zero or empty. -/
def truthy : Value → Bool
  | .null => false
  | .bool b => b
  | .int i => i != 0
  | .float x => !x.isZero
  | .text s => s != ""
  | .bytes bs => !bs.isEmpty
  | .list xs | .tuple xs | .set _ xs => !xs.isEmpty
  | .map ps | .readOnly ps => !ps.isEmpty
  | .member tag v => if tag.data == .plain && !tag.isFlag then true else v.truthy
  | .moment _ _ | .foreign => true

/-- The name of a value's kind, as messages give it. -/
def kindName : Value → String
  | .null => "NoneType"
  | .bool _ => "bool"
  | .int _ => "int"
  | .float _ => "float"
  | .text _ => "str"
  | .bytes _ => "bytes"
  | .list _ => "list"
  | .tuple _ => "tuple"
  | .set false _ => "set"
  | .set true _ => "frozenset"
  | .map _ => "dict"
  | .readOnly _ => "mappingproxy"
  | .member tag _ => tag.owner
  | .moment _ none => "date"
  | .moment _ (some _) => "datetime"
  | .foreign => "object"

/-- The items that going through a value yields: the characters of a text, the keys of a map. Values
that are no container yield nothing at all. -/
def items? : Value → Option (List Value)
  | .text s => some (s.toList.map fun c => .text (String.singleton c))
  | .bytes bs => some (bs.map fun b => .int b.toNat)
  | .list xs | .tuple xs | .set _ xs => some xs
  | .map ps | .readOnly ps => some (ps.map Prod.fst)
  | .member tag v =>
    match tag.data, v with
    | .text, .text s => some (s.toList.map fun c => .text (String.singleton c))
    | _, _ => none
  | _ => none

mutual

/-- The kind of the part that keeps a value from being a key, if there is one: lists, sets and maps
may change, and so can be neither keys nor elements of sets. -/
def unhashable? : Value → Option String
  | .list _ => some "list"
  | .set false _ => some "set"
  | .map _ => some "dict"
  | .readOnly _ => some "mappingproxy"
  | .tuple xs => unhashableIn? xs
  | _ => none

/-- The first of the values that cannot be a key. -/
def unhashableIn? : List Value → Option String
  | [] => none
  | x :: xs => (unhashable? x).or (unhashableIn? xs)

end

end Value

end EnumExport
