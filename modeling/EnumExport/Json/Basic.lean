import EnumExport.Value.Text

/-!
# Data as JSON

A `Json` is what JSON can say. `ofValue` turns a data value into one: members stand for their
values, tuples and sets become arrays (a set in the order of its elements' quoted texts), and keys
that are scalars become texts. What has no JSON form is an error.
-/

namespace EnumExport

/-- A JSON value. Objects keep their pairs in order, and doubles stay apart from whole numbers. -/
inductive Json
  /-- no value -/
  | null
  /-- a truth value -/
  | bool (b : Bool)
  /-- a whole number -/
  | int (i : Int)
  /-- a double -/
  | float (x : Binary64)
  /-- a text -/
  | text (s : String)
  /-- an array -/
  | array (xs : List Json)
  /-- an object -/
  | object (fields : List (String × Json))
  deriving Repr, Inhabited

namespace Json

/-- Why a value has no JSON form. -/
inductive Unwritable
  /-- a value of this kind is nothing that JSON can say -/
  | value (kind : String)
  /-- a key of this kind is no text and no scalar -/
  | key (kind : String)
  deriving DecidableEq, Repr

/-- The message of the error. -/
def Unwritable.message : Unwritable → String
  | .value kind => "Value of type " ++ kind ++ " is not JSON serializable"
  | .key kind => "keys must be str, int, float, bool or None, not " ++ kind

/-- The text of a double; infinities and no number have words of their own. -/
def floatText : Binary64 → List Char
  | .nan => "NaN".toList
  | .infinite s => (if s then "-Infinity" else "Infinity").toList
  | x => x.text

/-- The text a key becomes. -/
def keyText (k : Value) : Except Unwritable String :=
  match k.asText?, k with
  | some s, _ => .ok s
  | none, .null => .ok "null"
  | none, .bool b => .ok (if b then "true" else "false")
  | none, k =>
    match k.asFloat?, k.asInt? with
    | some x, _ => .ok (String.ofList (floatText x))
    | none, some i => .ok (toString i)
    | none, none => .error (.key k.kindName)

/-- An element put among others that are in the order of their texts, behind those of the same
text. -/
def insertByText {α : Type} (t : String) (x : α) : List (String × α) → List (String × α)
  | [] => [(t, x)]
  | (u, y) :: rest => if t < u then (t, x) :: (u, y) :: rest else (u, y) :: insertByText t x rest

mutual

/-- The JSON form of a value. -/
def ofValue : Value → Except Unwritable Json
  | .null => .ok .null
  | .bool b => .ok (.bool b)
  | .int i => .ok (.int i)
  | .float x => .ok (.float x)
  | .text s => .ok (.text s)
  | .list xs | .tuple xs => do return .array (← ofList xs)
  | .set _ xs => do
    let ordered := (ofSet xs).foldl (fun acc p => insertByText p.1 p.2 acc) []
    return .array (← ordered.mapM Prod.snd)
  | .map ps => do return .object (← ofPairs ps)
  | .member _ v => ofValue v
  | v => .error (.value v.kindName)

/-- The JSON forms of values. -/
def ofList : List Value → Except Unwritable (List Json)
  | [] => .ok []
  | x :: xs => do
    let j ← ofValue x
    return j :: (← ofList xs)

/-- The JSON forms of a set's elements, each with its quoted text. -/
def ofSet : List Value → List (String × Except Unwritable Json)
  | [] => []
  | x :: xs => (x.quoted, ofValue x) :: ofSet xs

/-- The JSON fields of pairs. -/
def ofPairs : List (Value × Value) → Except Unwritable (List (String × Json))
  | [] => .ok []
  | (k, v) :: ps => do
    let key ← keyText k
    let j ← ofValue v
    return (key, j) :: (← ofPairs ps)

end

end Json

end EnumExport
