import EnumExport.Number.Binary64

/-!
# Decimal texts of doubles

* `shortest` picks, among the decimals that read back to the same double, one with the fewest
  digits, and of those the nearest.
* `Binary64.text` writes it out: positionally from `0.0001` up to sixteen digits, with an exponent
  of at least two digits otherwise, and always with a mark that tells it from a whole number.
* `Binary64.ofText?` reads a decimal.
-/

namespace EnumExport

namespace Binary64

/-- The real numbers that round to `m · 2 ^ e`, as bounds on a common scale: `low / scale` and
`high / scale`, with `mid / scale` the number itself. The bounds themselves round to it when the
mantissa is even. -/
structure RoundingInterval where
  /-- four times the lower bound, scaled -/
  low : Nat
  /-- four times the number, scaled -/
  mid : Nat
  /-- four times the upper bound, scaled -/
  high : Nat
  /-- the common denominator -/
  scale : Nat
  /-- whether the bounds belong to the interval -/
  closed : Bool

/-- The interval of the reals that round to a positive double. Below a power of two the gap to the
next double is half as wide. -/
def roundingInterval (m : Nat) (e : Int) : RoundingInterval :=
  let below := if m = Nat.pow 2 52 ∧ minExponent < e then 1 else 2
  let up := Nat.pow 2 e.toNat
  { low := (4 * m - below) * up
    mid := 4 * m * up
    high := (4 * m + 2) * up
    scale := 4 * Nat.pow 2 (-e).toNat
    closed := m % 2 = 0 }

/-- Whether `n / d` lies in the interval. -/
def RoundingInterval.holds (r : RoundingInterval) (n d : Nat) : Bool :=
  if r.closed then decide (r.low * d ≤ n * r.scale) && decide (n * r.scale ≤ r.high * d)
  else decide (r.low * d < n * r.scale) && decide (n * r.scale < r.high * d)

/-- The number of digits before the point of a positive quotient; zero or less when it starts
behind the point. -/
def pointPosition (num den : Nat) : Int :=
  if den ≤ num then (Nat.toDigits 10 (num / den)).length
  else 1 - ((Nat.toDigits 10 ((den + num - 1) / num - 1)).length : Int)

/-- The neighbours of the number on the grid of multiples of `10 ^ place`, the nearer one when both
lie in the interval and the one with the even digit when they are equally near. -/
def RoundingInterval.onGrid? (r : RoundingInterval) (place : Int) : Option Nat :=
  let up := Nat.pow 10 place.toNat
  let down := Nat.pow 10 (-place).toNat
  let q := (r.mid * down) / (r.scale * up)
  let rest := (r.mid * down) % (r.scale * up)
  let lowOk := q != 0 && r.holds (q * up) down
  let highOk := r.holds ((q + 1) * up) down
  match lowOk, highOk with
  | false, false => none
  | true, false => some q
  | false, true => some (q + 1)
  | true, true =>
    if 2 * rest < r.scale * up then some q
    else if r.scale * up < 2 * rest then some (q + 1)
    else some (q + q % 2)

/-- The first grid that has a point in the interval, from coarse to fine. -/
def searchGrids (r : RoundingInterval) (point : Int) : Nat → Nat → Nat × Int
  | 0, n => (0, point - n)
  | fuel + 1, n =>
    match r.onGrid? (point - n) with
    | some digits => (digits, point - n)
    | none => searchGrids r point fuel (n + 1)

/-- The shortest decimal `digits · 10 ^ place` that rounds to `m · 2 ^ e`. Seventeen digits are
always enough. -/
def shortest (m : Nat) (e : Int) : Nat × Int :=
  let r := roundingInterval m e
  searchGrids r (pointPosition r.mid r.scale) 18 1

/-- Digits and the place of the point, without zeros at the end of the digits. -/
def trimZeros : Nat → Nat → Int → Nat × Int
  | 0, digits, place => (digits, place)
  | fuel + 1, digits, place =>
    if digits ≠ 0 ∧ digits % 10 = 0 then trimZeros fuel (digits / 10) (place + 1)
    else (digits, place)

/-- The exponent part of a decimal: its sign and at least two digits. -/
def exponentText (e : Int) : List Char :=
  let ds := Nat.toDigits 10 e.natAbs
  'e' :: (if e < 0 then '-' else '+') :: (if ds.length < 2 then '0' :: ds else ds)

/-- A decimal `digits · 10 ^ place` written positionally from `10 ^ (-4)` up to `10 ^ 16`, and with
an exponent otherwise. -/
def decimalText (digits : Nat) (place : Int) : List Char :=
  let ds := Nat.toDigits 10 digits
  let point := (ds.length : Int) + place
  if -4 < point ∧ point ≤ 16 then
    if point ≤ 0 then '0' :: '.' :: List.replicate (-point).toNat '0' ++ ds
    else if place ≥ 0 then ds ++ List.replicate place.toNat '0' ++ ['.', '0']
    else ds.take point.toNat ++ '.' :: ds.drop point.toNat
  else
    let tail := if ds.length = 1 then [] else '.' :: ds.tail
    ds.take 1 ++ tail ++ exponentText (point - 1)

/-- The shortest decimal text that reads back to the double. -/
def text : Binary64 → List Char
  | .nan => "nan".toList
  | .infinite s => (if s then "-inf" else "inf").toList
  | .finite s m e =>
    let (digits, place) :=
      if m = 0 then (0, 0)
      else
        let (d, p) := shortest m e
        trimZeros 18 d p
    (if s then ['-'] else []) ++ decimalText digits place

/-- The digits at the front, single underscores between digits left out, and what follows.
`after` says that a digit stands just before. -/
def takeDigits (after : Bool) : List Char → List Char × List Char
  | [] => ([], [])
  | c :: rest =>
    if c.isDigit then
      let (ds, tail) := takeDigits true rest
      (c :: ds, tail)
    else if c = '_' ∧ after = true ∧ rest.head?.any Char.isDigit = true then takeDigits false rest
    else ([], c :: rest)

/-- The number a row of digits spells. -/
def digitsValue (ds : List Char) : Nat :=
  ds.foldl (fun n c => 10 * n + (c.toNat - 48)) 0

/-- The exponent part at the front: none counts as zero. -/
def takeExponent? : List Char → Option Int
  | [] => some 0
  | c :: rest =>
    if c = 'e' ∨ c = 'E' then
      let (negative, ds) := match rest with
        | '-' :: r => (true, r)
        | '+' :: r => (false, r)
        | r => (false, r)
      match takeDigits false ds with
      | (d :: ds, []) =>
        let n : Int := digitsValue (d :: ds)
        some (if negative then -n else n)
      | _ => none
    else none

/-- Reads an unsigned decimal: digits with an optional point and exponent. -/
def ofUnsigned? (negative : Bool) (cs : List Char) : Option Binary64 :=
  match cs.map Char.toLower with
  | ['i', 'n', 'f'] | ['i', 'n', 'f', 'i', 'n', 'i', 't', 'y'] => some (.infinite negative)
  | ['n', 'a', 'n'] => some .nan
  | _ =>
    let (whole, rest) := takeDigits false cs
    let (fraction, rest) := match rest with
      | '.' :: r => takeDigits false r
      | r => ([], r)
    if whole.isEmpty && fraction.isEmpty then none
    else (takeExponent? rest).map fun e =>
      ofDecimal negative (digitsValue (whole ++ fraction)) (e - fraction.length)

/-- Reads a decimal with an optional sign, or the name of an infinity or of no number. -/
def ofText? (cs : List Char) : Option Binary64 :=
  match cs with
  | '-' :: r => ofUnsigned? true r
  | '+' :: r => ofUnsigned? false r
  | r => ofUnsigned? false r

end Binary64

end EnumExport
