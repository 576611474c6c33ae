import EnumExport.Text.Digit

/-!
# Whole numbers in a base

Reading a whole number: a sign, a mark of the base where the base has one (`0b`, `0o`, `0x`), and
digits. One underscore may stand between two digits, and one behind the mark.
-/

namespace EnumExport.Integer

/-- The value of a digit or letter. -/
def digit? (c : Char) : Option Nat :=
  if c.isDigit then some (c.toNat - 48)
  else if c.isAlpha then some (c.toLower.toNat - 87)
  else none

/-- The value of a digit of a base. -/
def digitOf? (base : Nat) (c : Char) : Option Nat :=
  (digit? c).filter (· < base)

/-- Reads digits behind one of value `n`; an underscore must have a digit behind it. -/
def readDigits (base : Nat) (n : Nat) : List Char → Option Nat
  | [] => some n
  | '_' :: c :: rest => do
    let d ← digitOf? base c
    readDigits base (base * n + d) rest
  | c :: rest => do
    let d ← digitOf? base c
    readDigits base (base * n + d) rest

/-- Reads a row of one or more digits. -/
def readRow (base : Nat) : List Char → Option Nat
  | [] => none
  | c :: rest => do
    let d ← digitOf? base c
    readDigits base d rest

/-- The letter that marks a base behind a zero. -/
def baseMark? : Nat → Option Char
  | 2 => some 'b'
  | 8 => some 'o'
  | 16 => some 'x'
  | _ => none

/-- The digits behind the mark of the base, if it is there. -/
def dropMark (base : Nat) : List Char → List Char
  | '0' :: c :: rest =>
    if baseMark? base = some c.toLower then
      match rest with
      | '_' :: r => r
      | r => r
    else '0' :: c :: rest
  | cs => cs

/-- Reads a whole number in a base. -/
def ofText? (base : Nat) (s : String) : Option Int :=
  match Text.plainDigits s with
  | '-' :: cs => (readRow base (dropMark base cs)).map fun n => -(n : Int)
  | '+' :: cs => (readRow base (dropMark base cs)).map fun n => (n : Int)
  | cs => (readRow base (dropMark base cs)).map fun n => (n : Int)

end EnumExport.Integer
