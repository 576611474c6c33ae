import EnumExport.Yaml.Node
import EnumExport.Number.Integer
import EnumExport.Text.Case
import EnumExport.Text.Split
import EnumExport.Value.Text
import EnumExport.Value.Equality

/-!
# Documents

The value that a text stands for.

* `Node.value` turns a node into a value by its tag. Of several faults in one document the one that
  lies nearest to the root is reported, and of those the first.
* A mapping takes in the pairs of the mappings it merges, before its own.
* `read` is the way from a text to its value.
-/

namespace EnumExport.Yaml

/-- Why a text has no value. -/
inductive Unreadable
  /-- it is not the text of one document, or a node does not fit its tag -/
  | malformed
  /-- a node that is marked as a truth value is spelled like none -/
  | notBool (word : String)
  /-- a node that is marked as a number has no digits -/
  | noDigits
  /-- a whole number does not read in its base -/
  | notInt (base : Nat) (text : String)
  /-- a double does not read -/
  | notFloat (text : String)
  /-- a node that is marked as a time does not look like one -/
  | notMoment
  /-- a day or a time that does not exist -/
  | noSuchMoment (reason : String)
  deriving DecidableEq, Repr

/-- The message of the fault, where it has one. -/
def Unreadable.message? : Unreadable → Option String
  | .malformed | .noDigits | .notMoment => none
  | .notBool w => some (Text.quoted w)
  | .notInt base t =>
    some ("invalid literal for int() with base " ++ toString base ++ ": " ++ Text.quoted t)
  | .notFloat t => some ("could not convert string to float: " ++ Text.quoted t)
  | .noSuchMoment reason => some reason

/-! ## Scalars -/

/-- A whole number in a base. -/
def readInt (base : Nat) (s : String) : Except Unreadable Int :=
  match Integer.ofText? base s with
  | some i => .ok i
  | none => .error (.notInt base s)

/-- A double. -/
def readFloat (s : String) : Except Unreadable Binary64 :=
  match Binary64.ofText? (Text.plainDigits s) with
  | some x => .ok x
  | none => .error (.notFloat s)

/-- The characters without underscores. -/
def dropUnderscores (s : String) : List Char := s.toList.filter (· ≠ '_')

/-- The whole number of a scalar: in base two, eight, ten, sixteen, or in base sixty with colons. -/
def intOf (text : String) : Except Unreadable Int := do
  let cs := dropUnderscores text
  if cs.isEmpty then throw .noDigits
  let negative := cs.head? = some '-'
  let cs := dropSign cs
  let n ← match cs with
    | [] => throw .noDigits
    | ['0'] => pure 0
    | '0' :: 'b' :: r => readInt 2 (String.ofList r)
    | '0' :: 'x' :: r => readInt 16 (String.ofList r)
    | '0' :: _ => readInt 8 (String.ofList cs)
    | cs =>
      if cs.contains ':' then do
        let parts ← ((Text.splitChars ':' cs).map String.ofList).mapM (readInt 10)
        pure (parts.foldl (fun n d => 60 * n + d) 0)
      else readInt 10 (String.ofList cs)
  return if negative then -n else n

/-- The sum of parts in base sixty, the last one first. -/
def sexagesimalSum (base : Nat) (sum : Binary64) : List Binary64 → Binary64
  | [] => sum
  | x :: xs => sexagesimalSum (60 * base) (sum.add (x.scale base)) xs

/-- The double of a scalar, in base sixty when it has colons. -/
def floatOf (text : String) : Except Unreadable Binary64 := do
  let cs := (Text.lower (String.ofList (dropUnderscores text))).toList
  if cs.isEmpty then throw .noDigits
  let negative := cs.head? = some '-'
  let cs := dropSign cs
  let s := String.ofList cs
  if s = ".inf" then return .infinite negative
  if s = ".nan" then return .nan
  let x ←
    if cs.contains ':' then do
      let parts ← ((Text.splitChars ':' cs).map String.ofList).mapM readFloat
      pure (sexagesimalSum 1 (.zero false) parts.reverse)
    else readFloat s
  return if negative then x.neg else x

/-- The truth value of a scalar. -/
def boolOf (text : String) : Except Unreadable Bool :=
  let w := Text.lower text
  if trueWords.contains w then .ok true
  else if falseWords.contains w then .ok false
  else .error (.notBool w)

/-- Whether a year has a leap day. -/
def isLeap (year : Nat) : Bool :=
  year % 4 = 0 && (year % 100 ≠ 0 || year % 400 = 0)

/-- The number of days of a month. -/
def monthLength (year month : Nat) : Nat :=
  if month = 2 then (if isLeap year then 29 else 28)
  else if [4, 6, 9, 11].contains month then 30
  else 31

/-- What keeps a day from existing. -/
def dayFault? (d : Day) : Option String :=
  if d.year = 0 then some "year 0 is out of range"
  else if d.month = 0 || 12 < d.month then some "month must be in 1..12"
  else if d.day = 0 || monthLength d.year d.month < d.day then some "day is out of range for month"
  else none

/-- What keeps a time from existing. -/
def clockFault? (c : Clock) : Option String :=
  if 23 < c.hour then some "hour must be in 0..23"
  else if 59 < c.minute then some "minute must be in 0..59"
  else if 59 < c.second then some "second must be in 0..59"
  else none

/-- A number of minutes as days and a time of the day. -/
def offsetText (minutes : Int) : String :=
  let days := minutes / 1440
  let seconds := minutes % 1440 * 60
  let parts := (if days = 0 then [] else ["days=" ++ toString days]) ++
    (if seconds = 0 then [] else ["seconds=" ++ toString seconds])
  "datetime.timedelta(" ++ ", ".intercalate parts ++ ")"

/-- What keeps a zone from existing: it is a day or more away. -/
def zoneFault? : Option Int → Option String
  | some m =>
    if -1440 < m ∧ m < 1440 then none
    else some ("offset must be a timedelta strictly between -timedelta(hours=24) and " ++
      "timedelta(hours=24), not " ++ offsetText m ++ ".")
  | none => none

/-- The day or time of a scalar. A single day may be written without leading zeros. -/
def momentOf (text : String) : Except Unreadable Value := do
  let plain : Option (Day × Option Clock) := do
    let (year, r) ← takeNumber 4 4 text.toList
    let (month, r) ← takeNumber 1 2 (← expect '-' r)
    let (day, r) ← takeNumber 1 2 (← expect '-' r)
    if r.isEmpty then some (⟨year, month, day⟩, none) else none
  match plain.or (readMoment text.toList) with
  | none => throw .notMoment
  | some (d, c) =>
    match (c.bind fun c => zoneFault? c.offset).or ((dayFault? d).or (c.bind clockFault?)) with
    | some reason => throw (.noSuchMoment reason)
    | none => return .moment d c

/-- The value of a character in base sixty-four. -/
def sixBits? (c : Char) : Option Nat :=
  if c.isUpper then some (c.toNat - 65)
  else if c.isLower then some (c.toNat - 71)
  else if c.isDigit then some (c.toNat + 4)
  else if c = '+' then some 62
  else if c = '/' then some 63
  else none

/-- The bytes of characters in base sixty-four. `place` counts the characters of the current four,
`left` holds the bits of them that are not yet given out, and `pads` the equals signs in a row.
Characters of no meaning are passed over. -/
def bytesOf (place left pads : Nat) : List Char → Option (List UInt8)
  | [] => if place = 0 then some [] else none
  | c :: rest =>
    if c = '=' then
      if 2 ≤ place && 4 ≤ place + (pads + 1) then some []
      else bytesOf place left (if 2 ≤ place then pads + 1 else pads) rest
    else match sixBits? c with
      | none => bytesOf place left pads rest
      | some d =>
        match place with
        | 0 => bytesOf 1 d 0 rest
        | 1 => (bytesOf 2 (d % 16) 0 rest).map (UInt8.ofNat (left * 4 + d / 16) :: ·)
        | 2 => (bytesOf 3 (d % 4) 0 rest).map (UInt8.ofNat (left * 16 + d / 4) :: ·)
        | _ => (bytesOf 0 0 0 rest).map (UInt8.ofNat (left * 64 + d) :: ·)

/-! ## Nodes -/

/-- A fault and its distance from the root. -/
structure Fault where
  /-- what is wrong -/
  reason : Unreadable
  /-- how far from the root it lies -/
  depth : Nat

/-- A value, or the fault in its node. -/
abbrev Reading (α : Type) := Except Fault α

/-- Both of two values; of two faults the one nearer to the root, the first when they are equally
near. -/
def both {α β : Type} : Reading α → Reading β → Reading (α × β)
  | .ok a, .ok b => .ok (a, b)
  | .error e, .ok _ => .error e
  | .ok _, .error f => .error f
  | .error e, .error f => .error (if f.depth < e.depth then f else e)

/-- All of several values, or of their faults the one nearest to the root. -/
def all {α : Type} : List (Reading α) → Reading (List α)
  | [] => .ok []
  | r :: rs => (both r (all rs)).map fun p => p.1 :: p.2

/-- A fault at a depth. -/
def failAt {α : Type} (depth : Nat) (reason : Unreadable) : Reading α := .error ⟨reason, depth⟩

/-- The outcome of reading a scalar at a depth. -/
def atDepth {α : Type} (depth : Nat) : Except Unreadable α → Reading α
  | .ok x => .ok x
  | .error e => failAt depth e

/-- The pairs of a mapping in which the key of a default value counts as a text. -/
def defaultKey (k : Node) : Node :=
  match k with
  | .scalar .value t => .scalar .str t
  | k => k

mutual

/-- The pairs of a mapping with those of the mappings that it merges in front; nothing where what
it merges is no mapping. -/
def mergedPairs : List (Node × Node) → Option (List (Node × Node) × List (Node × Node))
  | [] => some ([], [])
  | (k, v) :: rest =>
    if k.tag = .merge then do
      let here ← mergeSource v
      let (merged, own) ← mergedPairs rest
      return (here ++ merged, own)
    else do
      let (merged, own) ← mergedPairs rest
      return (merged, (defaultKey k, v) :: own)

/-- The pairs that merging a node brings in. -/
def mergeSource : Node → Option (List (Node × Node))
  | .map _ pairs => (mergedPairs pairs).map fun p => p.1 ++ p.2
  | .seq _ items => mergeSources items
  | .scalar _ _ => none

/-- The pairs that merging a sequence of mappings brings in, those of the last one first. -/
def mergeSources : List Node → Option (List (Node × Node))
  | [] => some []
  | .map _ pairs :: rest => do
    let (merged, own) ← mergedPairs pairs
    let more ← mergeSources rest
    return more ++ (merged ++ own)
  | _ :: _ => none

end

/-- The pairs of a mapping as they count. -/
def Node.flatPairs (pairs : List (Node × Node)) : Option (List (Node × Node)) :=
  (mergedPairs pairs).map fun p => p.1 ++ p.2

/-- The text of a node that stands for one: that of a scalar, or of the default value of a
mapping. -/
def Node.text? : Node → Option String
  | .scalar _ t => some t
  | .seq _ _ => none
  | .map _ pairs => defaultText pairs
where
  /-- The text of the first default value. -/
  defaultText : List (Node × Node) → Option String
    | [] => none
    | (k, v) :: rest => if k.tag = .value then v.text? else defaultText rest

/-- A pair put into a map. -/
def putPair (m : Reading (List (Value × Value))) (p : Reading Value × Reading Value) :
    Reading (List (Value × Value)) :=
  (both m (both p.1 p.2)).map fun q => Assoc.put q.2.1 q.2.2 q.1

/-- Whether a tag is one of values that may change, and so can be no keys. -/
def Tag.isChangeable : Tag → Bool
  | .seq | .map | .set | .omap | .pairs => true
  | _ => false

mutual

/-- The value of a node at a depth. -/
def Node.valueAt : Nat → Nat → Node → Reading Value
  | 0, depth, _ => failAt depth .malformed
  | fuel + 1, depth, n =>
    let scalar (f : String → Except Unreadable Value) : Reading Value :=
      match n.text? with
      | some t => atDepth depth (f t)
      | none => failAt depth .malformed
    match n.tag with
    | .null => scalar fun _ => .ok .null
    | .bool => scalar fun t => (boolOf t).map .bool
    | .int => scalar fun t => (intOf t).map .int
    | .float => scalar fun t => (floatOf t).map .float
    | .timestamp => scalar momentOf
    | .str => scalar fun t => .ok (.text t)
    | .binary => scalar fun t =>
      if t.toList.all fun c => decide (c.toNat < 128) then
        match bytesOf 0 0 0 t.toList with
        | some bs => .ok (.bytes bs)
        | none => .error .malformed
      else .error .malformed
    | .seq =>
      match n with
      | .seq _ items => (all (items.map (Node.valueAt fuel (depth + 1)))).map .list
      | _ => failAt (depth + 1) .malformed
    | .map => (Node.mapAt fuel (depth + 1) n).map .map
    | .set => (Node.mapAt fuel (depth + 1) n).map fun ps => .set false (ps.map Prod.fst)
    | .omap | .pairs =>
      match n with
      | .seq _ items => (all (items.map (Node.pairAt fuel (depth + 1)))).map .list
      | _ => failAt (depth + 1) .malformed
    | .merge | .value | .other _ => failAt depth .malformed

/-- The pairs of a mapping at a depth. -/
def Node.mapAt : Nat → Nat → Node → Reading (List (Value × Value))
  | 0, depth, _ => failAt depth .malformed
  | fuel + 1, depth, n =>
    match n with
    | .map _ pairs =>
      match Node.flatPairs pairs with
      | none => failAt depth .malformed
      | some ps =>
        (ps.map fun p =>
          (if p.1.tag.isChangeable then failAt depth .malformed else Node.valueAt fuel depth p.1,
            Node.valueAt fuel depth p.2)).foldl putPair (.ok [])
    | _ => failAt depth .malformed

/-- A pair of a sequence of single pairs. -/
def Node.pairAt : Nat → Nat → Node → Reading Value
  | 0, depth, _ => failAt depth .malformed
  | fuel + 1, depth, n =>
    match n with
    | .map _ [(k, v)] =>
      (both (Node.valueAt fuel depth k) (Node.valueAt fuel depth v)).map fun p =>
        .tuple [p.1, p.2]
    | _ => failAt depth .malformed

end

mutual

/-- The number of levels of a node. -/
def Node.height : Node → Nat
  | .scalar _ _ => 1
  | .seq _ items => Node.heights items + 1
  | .map _ pairs => Node.pairHeights pairs + 1

/-- The number of levels of the highest node. -/
def Node.heights : List Node → Nat
  | [] => 0
  | n :: ns => max (Node.height n) (Node.heights ns)

/-- The number of levels of the highest node of the pairs. -/
def Node.pairHeights : List (Node × Node) → Nat
  | [] => 0
  | (k, v) :: ps => max (max (Node.height k) (Node.height v)) (Node.pairHeights ps)

end

/-- The value of a node. -/
def Node.value (n : Node) : Except Unreadable Value :=
  match n.valueAt (2 * n.height + 2) 0 with
  | .ok v => .ok v
  | .error f => .error f.reason

/-- The value of a text; the empty text stands for null. -/
def read (s : String) : Except Unreadable Value :=
  match document? s with
  | none => .error .malformed
  | some none => .ok .null
  | some (some n) => n.value

end EnumExport.Yaml
