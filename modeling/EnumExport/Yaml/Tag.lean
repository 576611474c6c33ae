import EnumExport.Yaml.Text
import EnumExport.Value.Basic

/-!
# Tags

A tag says what a node stands for. A plain scalar without a tag gets one from how it looks:
truth values in many spellings, whole numbers in five notations, doubles, null, days and times.
-/

namespace EnumExport.Yaml

/-- What a node stands for. -/
inductive Tag
  /-- null -/
  | null
  /-- a truth value -/
  | bool
  /-- a whole number -/
  | int
  /-- a double -/
  | float
  /-- a day, or a day and a time -/
  | timestamp
  /-- a text -/
  | str
  /-- bytes -/
  | binary
  /-- a sequence -/
  | seq
  /-- a mapping -/
  | map
  /-- a mapping whose values do not count -/
  | set
  /-- a sequence of single pairs, each key once -/
  | omap
  /-- a sequence of single pairs -/
  | pairs
  /-- the key under which other mappings are merged -/
  | merge
  /-- the key of a default value -/
  | value
  /-- something unknown -/
  | other (uri : String)
  deriving DecidableEq, Repr

/-- The tag of a resource name. -/
def Tag.ofUri (uri : String) : Tag :=
  match uri with
  | "tag:yaml.org,2002:null" => .null
  | "tag:yaml.org,2002:bool" => .bool
  | "tag:yaml.org,2002:int" => .int
  | "tag:yaml.org,2002:float" => .float
  | "tag:yaml.org,2002:timestamp" => .timestamp
  | "tag:yaml.org,2002:str" => .str
  | "tag:yaml.org,2002:binary" => .binary
  | "tag:yaml.org,2002:seq" => .seq
  | "tag:yaml.org,2002:map" => .map
  | "tag:yaml.org,2002:set" => .set
  | "tag:yaml.org,2002:omap" => .omap
  | "tag:yaml.org,2002:pairs" => .pairs
  | "tag:yaml.org,2002:merge" => .merge
  | "tag:yaml.org,2002:value" => .value
  | uri => .other uri

/-! ## Numbers -/

/-- The spellings of true. -/
def trueWords : List String := ["yes", "true", "on"]

/-- The spellings of false. -/
def falseWords : List String := ["no", "false", "off"]

/-- A word in small letters, with one capital, and in capitals. -/
def spellings (w : String) : List String :=
  [w, w.capitalize, w.toUpper]

/-- Whether a text is a spelling of a truth value. -/
def isBoolText (s : String) : Bool :=
  (trueWords ++ falseWords).any fun w => (spellings w).contains s

/-- Whether a character is a digit of a base, or an underscore. -/
def isDigitOf (base : Nat) (c : Char) : Bool :=
  c == '_' || (isHex c && decide (hexValue [c] < base))

/-- The text without a leading sign. -/
def dropSign : List Char → List Char
  | '+' :: r | '-' :: r => r
  | r => r

/-- Whether the characters are one or more groups, each a colon and one or two digits, the first of
two being less than six; then what `last` accepts. -/
def isSexagesimalTail (last : List Char → Bool) : List Char → Bool
  | ':' :: a :: ':' :: rest => a.isDigit && isSexagesimalTail last (':' :: rest)
  | ':' :: a :: b :: ':' :: rest =>
    a.isDigit && a.toNat < 54 && b.isDigit && isSexagesimalTail last (':' :: rest)
  | ':' :: a :: b :: rest =>
    a.isDigit && ((a.toNat < 54 && b.isDigit && last rest) || last (b :: rest))
  | [':', a] => a.isDigit && last []
  | _ => false

/-- Whether the characters behind the sign are a whole number. -/
def isUnsignedInt : List Char → Bool
  | ['0'] => true
  | '0' :: 'b' :: c :: r => (c :: r).all (isDigitOf 2)
  | '0' :: 'x' :: c :: r => (c :: r).all (isDigitOf 16)
  | '0' :: r => r.all (isDigitOf 8)
  | c :: r =>
    c.isDigit && (r.all (isDigitOf 10) ||
      isSexagesimalTail List.isEmpty (r.dropWhile (isDigitOf 10)))
  | [] => false

/-- Whether a text is a whole number. -/
def isIntText (cs : List Char) : Bool := isUnsignedInt (dropSign cs)

/-- Whether the characters are an exponent with its sign, or nothing. -/
def isExponent : List Char → Bool
  | [] => true
  | e :: s :: d :: r =>
    (e == 'e' || e == 'E') && (s == '+' || s == '-') && (d :: r).all Char.isDigit
  | _ => false

/-- Whether the characters are a fraction behind the point, with or without an exponent. -/
def isFraction (cs : List Char) : Bool := isExponent (cs.dropWhile (isDigitOf 10))

/-- Whether the characters are the point and digits that end a double in base sixty. -/
def isSexagesimalEnd : List Char → Bool
  | '.' :: r => r.all (isDigitOf 10)
  | _ => false

/-- Whether the characters behind the sign are a double that starts with a digit. -/
def isUnsignedFloat : List Char → Bool
  | c :: r =>
    c.isDigit &&
      (match r.dropWhile (isDigitOf 10) with
        | '.' :: f => isFraction f
        | tail => isSexagesimalTail isSexagesimalEnd tail)
  | [] => false

/-- Whether a text is a double. -/
def isFloatText (cs : List Char) : Bool :=
  let body := dropSign cs
  isUnsignedFloat body ||
  (match cs with
    | '.' :: d :: r => d.isDigit && isFraction r
    | _ => false) ||
  [".inf", ".Inf", ".INF"].contains (String.ofList body) ||
  [".nan", ".NaN", ".NAN"].contains (String.ofList cs)

/-! ## Days and times -/

/-- The next one to `most` digits. -/
def takeNumber (least most : Nat) (cs : List Char) : Option (Nat × List Char) :=
  let ds := (cs.take most).takeWhile Char.isDigit
  if ds.length < least then none
  else some (ds.foldl (fun n d => 10 * n + (d.toNat - 48)) 0, cs.drop ds.length)

/-- The characters behind one that must be there. -/
def expect (x : Char) : List Char → Option (List Char)
  | c :: r => if c = x then some r else none
  | [] => none

/-- The zone at the end of a time: none, universal time, or minutes ahead of it. -/
def readZone (cs : List Char) : Option (Option Int) :=
  match cs.dropWhile fun c => c == ' ' || c == '\t' with
  | [] => if cs.isEmpty then some none else none
  | ['Z'] => some (some 0)
  | s :: r => do
    if s ≠ '+' ∧ s ≠ '-' then none
    let (h, r) ← takeNumber 1 2 r
    let m ← match r with
      | [] => some 0
      | r => do
        let (m, r) ← takeNumber 2 2 (← expect ':' r)
        if r.isEmpty then some m else none
    let total : Int := h * 60 + m
    return some (if s = '-' then -total else total)

/-- The time behind a day. -/
def readClock (cs : List Char) : Option Clock := do
  let blanks := cs.takeWhile fun c => c == ' ' || c == '\t'
  let r ← match cs with
    | 'T' :: r | 't' :: r => some r
    | cs => if blanks.isEmpty then none else some (cs.drop blanks.length)
  let (hour, r) ← takeNumber 1 2 r
  let (minute, r) ← takeNumber 2 2 (← expect ':' r)
  let (second, r) ← takeNumber 2 2 (← expect ':' r)
  let (digits, r) := match r with
    | '.' :: r => (r.takeWhile Char.isDigit, r.dropWhile Char.isDigit)
    | r => ([], r)
  let micro := ((digits ++ List.replicate 6 '0').take 6).foldl
    (fun n d => 10 * n + (d.toNat - 48)) 0
  return { hour, minute, second, micro, offset := ← readZone r }

/-- A day, or a day and a time, as it is spelled; it need not exist. -/
def readMoment (cs : List Char) : Option (Day × Option Clock) := do
  let (year, r) ← takeNumber 4 4 cs
  let (month, r') ← takeNumber 1 2 (← expect '-' r)
  let (day, r'') ← takeNumber 1 2 (← expect '-' r')
  if r''.isEmpty then
    if cs.length = 10 then return (⟨year, month, day⟩, none) else none
  else return (⟨year, month, day⟩, some (← readClock r''))

/-! ## The tag of a plain scalar -/

/-- The tag that a plain scalar has by its looks. -/
def Tag.ofPlain (s : String) : Tag :=
  let cs := s.toList
  if isBoolText s then .bool
  else if isFloatText cs then .float
  else if isIntText cs then .int
  else if s = "<<" then .merge
  else if ["", "~", "null", "Null", "NULL"].contains s then .null
  else if (readMoment cs).isSome then .timestamp
  else if s = "=" then .value
  else .str

end EnumExport.Yaml
