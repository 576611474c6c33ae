/-!
# Double-precision numbers

A double is kept as what it stands for: a sign, a whole mantissa and a power of two, an infinity,
or no number at all. The finite ones are brought to one form, so that equal data means an equal
number with an equal sign of zero.

* `ofRatio` rounds a quotient of whole numbers to the nearest double, a tie to the even mantissa;
  every other way in goes through it.
* `compare?` orders doubles, and `toInt?` says which of them are whole, both exactly.
-/

namespace EnumExport

/-- A number of the IEEE binary64 format. -/
inductive Binary64
  /-- plus or minus `mantissa · 2 ^ exponent` -/
  | finite (negative : Bool) (mantissa : Nat) (exponent : Int)
  /-- plus or minus infinity -/
  | infinite (negative : Bool)
  /-- not a number -/
  | nan
  deriving DecidableEq, Repr, Inhabited

namespace Binary64

/-- The least exponent of a double. -/
def minExponent : Int := -1074

/-- The greatest exponent of a finite double. -/
def maxExponent : Int := 971

/-- Zero with a sign. -/
def zero (negative : Bool) : Binary64 := .finite negative 0 minExponent

/-- The double of a rounded mantissa: one that grew past 53 bits is halved, and one past the
largest exponent is infinite. -/
def assemble (negative : Bool) (m : Nat) (e : Int) : Binary64 :=
  let (m, e) := if m = Nat.pow 2 53 then (Nat.pow 2 52, e + 1) else (m, e)
  if m = 0 then zero negative
  else if maxExponent < e then .infinite negative
  else .finite negative m e

/-- A quotient rounded to the nearest whole number, a tie to the even one. -/
def divNearestEven (num den : Nat) : Nat :=
  let q := num / den
  let r := num % den
  if 2 * r < den then q
  else if den < 2 * r then q + 1
  else q + q % 2

/-- `num · 2 ^ (-e) / den` as a quotient of whole numbers. -/
def scaled (num den : Nat) (e : Int) : Nat × Nat :=
  (num * Nat.pow 2 (-e).toNat, den * Nat.pow 2 e.toNat)

/-- The exponent at which a positive quotient has a mantissa of 53 bits, no less than the least
one. -/
def exponentFor (num den : Nat) : Int :=
  let guess : Int := (num.log2 : Int) - den.log2 - 52
  let (n, d) := scaled num den guess
  max minExponent (if n / d < Nat.pow 2 52 then guess - 1 else guess)

/-- The double nearest to a quotient of whole numbers, a tie going to the even mantissa. -/
def ofRatio (negative : Bool) (num den : Nat) : Binary64 :=
  if num = 0 then zero negative
  else
    let e := exponentFor num den
    let (n, d) := scaled num den e
    assemble negative (divNearestEven n d) e

/-- The double nearest to a whole number. -/
def ofInt (i : Int) : Binary64 :=
  ofRatio (i < 0) i.natAbs 1

/-- The double nearest to `digits · 10 ^ exponent`. Past the ends of the range the power of ten is
not computed. -/
def ofDecimal (negative : Bool) (digits : Nat) (exponent : Int) : Binary64 :=
  let size : Int := (Nat.toDigits 10 digits).length + exponent
  if digits = 0 then zero negative
  else if 400 < size then .infinite negative
  else if size < -400 then zero negative
  else ofRatio negative (digits * Nat.pow 10 exponent.toNat) (Nat.pow 10 (-exponent).toNat)

/-- The number without its sign turned over. -/
def neg : Binary64 → Binary64
  | .finite s m e => .finite (!s) m e
  | .infinite s => .infinite (!s)
  | .nan => .nan

/-- The value of a finite double as a quotient of a whole number by a positive one. -/
def toRatio? : Binary64 → Option (Int × Nat)
  | .finite s m e =>
    let n : Int := (m * Nat.pow 2 e.toNat : Nat)
    some (if s then -n else n, Nat.pow 2 (-e).toNat)
  | _ => none

/-- The whole number a double is equal to. -/
def toInt? (x : Binary64) : Option Int :=
  match x.toRatio? with
  | some (n, d) => if n % d = 0 then some (n / d) else none
  | none => none

/-- The whole number next to a finite double in the direction of zero. -/
def truncate? (x : Binary64) : Option Int :=
  x.toRatio?.map fun (n, d) => n.tdiv d

/-- Whether two doubles are equal as numbers: zeros of both signs are, and what is no number is
equal to nothing. -/
def same : Binary64 → Binary64 → Bool
  | .finite s m e, .finite s' m' e' =>
    (m == 0 && m' == 0) || (s == s' && m == m' && e == e')
  | .infinite s, .infinite s' => s == s'
  | _, _ => false

/-- Whether the double is a zero of either sign. -/
def isZero : Binary64 → Bool
  | .finite _ m _ => m == 0
  | _ => false

/-- The double nearest to the sum of two. -/
def add (x y : Binary64) : Binary64 :=
  match x, y with
  | .nan, _ | _, .nan => .nan
  | .infinite s, .infinite t => if s == t then .infinite s else .nan
  | .infinite s, _ | _, .infinite s => .infinite s
  | .finite s _ _, .finite t _ _ =>
    match x.toRatio?, y.toRatio? with
    | some (a, b), some (c, d) =>
      let n := a * d + c * b
      if n = 0 then zero (s && t) else ofRatio (n < 0) n.natAbs (b * d)
    | _, _ => .nan

/-- The double nearest to a double times a whole number that is not negative. -/
def scale (x : Binary64) (k : Nat) : Binary64 :=
  match x with
  | .finite s m e => ofRatio s (m * k * Nat.pow 2 e.toNat) (Nat.pow 2 (-e).toNat)
  | .infinite s => if k = 0 then .nan else .infinite s
  | .nan => .nan

/-- A double is the same as itself exactly when it is a number. -/
theorem same_self_iff {x : Binary64} : x.same x = true ↔ x ≠ .nan := by
  cases x <;> simp [same]

end Binary64

end EnumExport
