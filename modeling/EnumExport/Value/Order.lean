import EnumExport.Value.Basic

/-!
# Order of values

Numbers of all kinds are ordered among each other, and so are texts, bytes, days, and times with or
without a known zone. Values of different sorts have no order.
-/

namespace EnumExport

/-- A day as a number of days since the start of the calendar. -/
def Day.number (d : Day) : Int :=
  let y := d.year - 1
  let before := [0, 31, 59, 90, 120, 151, 181, 212, 243, 273, 304, 334].getD (d.month - 1) 0
  let leap := d.year % 4 = 0 ∧ (d.year % 100 ≠ 0 ∨ d.year % 400 = 0)
  365 * y + y / 4 - y / 100 + y / 400 + before + (if 2 < d.month ∧ leap then 1 else 0) + d.day

/-- A day and time as a number of millionths of a second, in universal time when the zone is
known. -/
def Clock.number (d : Day) (c : Clock) : Int :=
  let minutes : Int := (d.number * 24 + c.hour) * 60 + c.minute - c.offset.getD 0
  (minutes * 60 + c.second) * 1000000 + c.micro

namespace Value

/-- The value of a number as a quotient by a positive whole number; infinities and no number have
none. -/
def ratio? (v : Value) : Option (Int × Nat) :=
  match v.asInt? with
  | some i => some (i, 1)
  | none => v.asFloat?.bind Binary64.toRatio?

/-- Whether an infinity is the negative one. -/
def infinite? (v : Value) : Option Bool :=
  match v.asFloat? with
  | some (.infinite s) => some s
  | _ => none

/-- Whether one number comes before another; what is no number comes before nothing. -/
def numberLt (v w : Value) : Bool :=
  match v.ratio?, w.ratio? with
  | some (a, b), some (c, d) => decide (a * d < c * b)
  | some _, none => w.infinite? == some false
  | none, some _ => v.infinite? == some true
  | none, none => v.infinite? == some true && w.infinite? == some false

/-- Whether a value counts as a number. -/
def isNumber (v : Value) : Bool := v.asInt?.isSome || v.asFloat?.isSome

/-- Whether bytes come before others, byte by byte. -/
def bytesLt : List UInt8 → List UInt8 → Bool
  | _, [] => false
  | [], _ :: _ => true
  | a :: as, b :: bs => if a < b then true else if a = b then bytesLt as bs else false

/-- Whether one value comes before another; nothing where they have no order. -/
def lt? (v w : Value) : Option Bool :=
  if v.isNumber && w.isNumber then some (numberLt v w)
  else match v.asText?, w.asText? with
    | some s, some t => some (decide (s < t))
    | _, _ => match v, w with
      | .bytes a, .bytes b => some (bytesLt a b)
      | .moment d none, .moment e none => some (decide (d.number < e.number))
      | .moment d (some c), .moment e (some f) =>
        if c.offset.isSome == f.offset.isSome then some (decide (c.number d < f.number e)) else none
      | _, _ => none

/-- A value put among ordered ones, behind those that do not come after it; nothing where it has no
order with one of them. -/
def insert? (x : Value) : List Value → Option (List Value)
  | [] => some [x]
  | y :: ys => do
    let before ← lt? x y
    let _ ← ys.mapM (lt? x)
    if before then return x :: y :: ys else return y :: (← insert? x ys)

/-- The values in order; nothing where two of them have none. -/
def sort? : List Value → Option (List Value)
  | [] => some []
  | x :: xs => do insert? x (← sort? xs)

end Value

end EnumExport
