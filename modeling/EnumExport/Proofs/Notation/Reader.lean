import EnumExport.Text.Split
import EnumExport.Value.Basic

/-!
# Reading data back

What generated code embeds is read back here, from its characters. There are two ways to write data
down:

* `json` — texts stand between double quotes, property names are texts, and no comma is left over
  before a closing bracket;
* `script` — the literals of a script: single quotes do as well as double ones, a property name may
  be bare, a comma may be left over, and a value may be wrapped in `Object.freeze(… as const)`,
  which says how the value may be used and not what it is.

`readValue` reads one value and answers it with the characters behind it. Numbers are whole ones;
a fraction or an exponent is refused. Objects keep their properties as they are written: each under
the name that is written, whatever it is, and in the order in which they are written.
-/

namespace EnumExport.Notation

/-- A way to write data down. -/
inductive Dialect
  /-- JSON -/
  | json
  /-- literals of a script -/
  | script
  deriving DecidableEq, Repr

/-! ## Blanks and words -/

/-- Whether a character only separates. -/
def isBlank (c : Char) : Bool := c == ' ' || c == '\n' || c == '\r' || c == '\t'

/-- The characters from the first that is not blank. -/
def skipBlanks (cs : List Char) : List Char := cs.dropWhile isBlank

/-- Whether a character belongs to a word: a number, a constant or a dotted name. -/
def isWordChar (c : Char) : Bool :=
  c.isAlphanum || c == '_' || c == '$' || c == '.' || c == '-' || c == '+'

/-- Whether a character belongs to a bare property name. -/
def isNameChar (c : Char) : Bool := c.isAlphanum || c == '_' || c == '$'

/-- The natural number of some digits, which has no zero in front. -/
def natOf? (ds : List Char) : Option Nat :=
  if ds.isEmpty || !ds.all Char.isDigit then none
  else if ds.head? = some '0' ∧ ds.length ≠ 1 then none
  else some (Nat.ofDigitChars 10 ds 0)

/-- The whole number of a word. -/
def intOf? : List Char → Option Int
  | '-' :: ds => (natOf? ds).map fun n : Nat => -(n : Int)
  | ds => (natOf? ds).map fun n : Nat => (n : Int)

/-- The value of a word. -/
def wordValue? (word : List Char) : Option Value :=
  if word = "null".toList then some .null
  else if word = "true".toList then some (.bool true)
  else if word = "false".toList then some (.bool false)
  else (intOf? word).map .int

/-! ## Texts -/

/-- The value of a hexadecimal digit. -/
def hexDigit? (c : Char) : Option Nat :=
  if c.isDigit then some (c.toNat - 48)
  else if 'a' ≤ c ∧ c ≤ 'f' then some (c.toNat - 87)
  else if 'A' ≤ c ∧ c ≤ 'F' then some (c.toNat - 55)
  else none

/-- The number of some hexadecimal digits. -/
def hexNumber? (cs : List Char) : Option Nat :=
  cs.foldlM (fun n c => (hexDigit? c).map (16 * n + ·)) 0

/-- What a character behind a backslash stands for. -/
def unescape? (d : Dialect) (c : Char) : Option Char :=
  match c with
  | '"' | '\\' | '/' => some c
  | 'b' => some '\x08'
  | 'f' => some '\x0c'
  | 'n' => some '\n'
  | 'r' => some '\r'
  | 't' => some '\t'
  | '\'' => if d = .script then some c else none
  | _ => none

/-- Whether a character may stand in a text as it is. -/
def standsRaw (d : Dialect) (c : Char) : Bool :=
  match d with
  | .json => decide (32 ≤ c.toNat)
  | .script => c != '\n' && c != '\r'

/-- Whether a character opens a text. -/
def isQuote (d : Dialect) (c : Char) : Bool := c == '"' || (c == '\'' && d == .script)

/-- The character of two halves. -/
def pairOf? (high low : Nat) : Option Char :=
  if 0xd800 ≤ high ∧ high < 0xdc00 ∧ 0xdc00 ≤ low ∧ low < 0xe000 then
    some (Char.ofNat (0x10000 + (high - 0xd800) * 0x400 + (low - 0xdc00)))
  else none

/-- One more character in front of what has been read. -/
def push (c : Char) (read : Option (List Char × List Char)) : Option (List Char × List Char) :=
  read.map fun p => (c :: p.1, p.2)

/-- Reads a text up to its closing quote. -/
def readText (d : Dialect) (q : Char) : List Char → Option (List Char × List Char)
  | [] => none
  | c :: cs =>
    if c = q then some ([], cs)
    else if c = '\\' then
      match cs with
      | 'u' :: a :: b :: e :: f :: cs =>
        match hexNumber? [a, b, e, f] with
        | none => none
        | some n =>
          if n.isValidChar then push (Char.ofNat n) (readText d q cs)
          else match cs with
            | '\\' :: 'u' :: a :: b :: e :: f :: cs =>
              match (hexNumber? [a, b, e, f]).bind (pairOf? n) with
              | some c => push c (readText d q cs)
              | none => none
            | _ => none
      | 'x' :: a :: b :: cs =>
        match d, hexNumber? [a, b] with
        | .script, some n => push (Char.ofNat n) (readText d q cs)
        | _, _ => none
      | e :: cs =>
        match unescape? d e with
        | some c => push c (readText d q cs)
        | none => none
      | [] => none
    else if standsRaw d c then push c (readText d q cs)
    else none

/-- Reads the name of a property: a text, or a bare name in a script. -/
def readName (d : Dialect) (cs : List Char) : Option (String × List Char) :=
  match skipBlanks cs with
  | [] => none
  | c :: cs =>
    if isQuote d c then (readText d c cs).map fun p => (String.ofList p.1, p.2)
    else if d = .script ∧ isNameChar c ∧ ¬ c.isDigit then
      some (String.ofList (c :: cs.takeWhile isNameChar), cs.dropWhile isNameChar)
    else none

/-- The characters behind `as const`, when that comes next. -/
def skipAsConst (cs : List Char) : List Char :=
  (Text.dropPart? "as const".toList (skipBlanks cs)).getD cs

/-! ## Values -/

mutual

/-- Reads a value. -/
def readValue (d : Dialect) : Nat → List Char → Option (Value × List Char)
  | 0, _ => none
  | fuel + 1, cs =>
    match skipBlanks cs with
    | [] => none
    | '[' :: cs => (readItems d fuel true cs).map fun p => (.list p.1, p.2)
    | '\x7b' :: cs => (readFields d fuel true cs).map fun p => (.map p.1, p.2)
    | c :: cs =>
      if isQuote d c then (readText d c cs).map fun p => (.text (String.ofList p.1), p.2)
      else
        let word := (c :: cs).takeWhile isWordChar
        let rest := (c :: cs).dropWhile isWordChar
        if d = .script ∧ word = "Object.freeze".toList then
          match skipBlanks rest with
          | '(' :: inner =>
            match readValue d fuel inner with
            | some (v, rest) =>
              match skipBlanks (skipAsConst rest) with
              | ')' :: rest => some (v, rest)
              | _ => none
            | none => none
          | _ => none
        else (wordValue? word).map fun v => (v, rest)

/-- Reads the items of an array up to its end. -/
def readItems (d : Dialect) : Nat → Bool → List Char → Option (List Value × List Char)
  | 0, _, _ => none
  | fuel + 1, mayEnd, cs =>
    match skipBlanks cs with
    | ']' :: rest => if mayEnd then some ([], rest) else none
    | cs =>
      match readValue d fuel cs with
      | none => none
      | some (v, rest) =>
        match skipBlanks rest with
        | ']' :: rest => some ([v], rest)
        | ',' :: rest => (readItems d fuel (d == .script) rest).map fun p => (v :: p.1, p.2)
        | _ => none

/-- Reads the properties of an object up to its end. -/
def readFields (d : Dialect) : Nat → Bool → List Char → Option (List (Value × Value) × List Char)
  | 0, _, _ => none
  | fuel + 1, mayEnd, cs =>
    match skipBlanks cs with
    | '\x7d' :: rest => if mayEnd then some ([], rest) else none
    | cs =>
      match readName d cs with
      | none => none
      | some (name, rest) =>
        match skipBlanks rest with
        | ':' :: rest =>
          match readValue d fuel rest with
          | none => none
          | some (v, rest) =>
            match skipBlanks rest with
            | '\x7d' :: rest => some ([(.text name, v)], rest)
            | ',' :: rest =>
              (readFields d fuel (d == .script) rest).map fun p => ((.text name, v) :: p.1, p.2)
            | _ => none
        | _ => none

end

/-- The value that a text holds and nothing else. No value needs more steps than twice its
characters. -/
def read? (d : Dialect) (text : String) : Option Value :=
  match readValue d (2 * text.length) text.toList with
  | some (v, rest) => if (skipBlanks rest).isEmpty then some v else none
  | none => none

end EnumExport.Notation
