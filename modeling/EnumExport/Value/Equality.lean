import EnumExport.Value.Basic
import EnumExport.Assoc

/-!
# Equality of values

`==` on values is the equality that map keys and set elements follow: numbers of all kinds are
equal when they stand for the same number (`1`, `true` and `1.0` are one key), a member that counts
as plain data is equal to that data, sets and maps do not mind their order, and a list is never
equal to a tuple.
-/

namespace EnumExport.Value

/-- A number in the form in which the kinds of numbers are compared. -/
inductive Numeral
  /-- a whole number -/
  | whole (i : Int)
  /-- a double that is no whole number -/
  | broken (x : Binary64)

/-- The number of a value that counts as one. -/
def numeral? (v : Value) : Option Numeral :=
  match v.asInt? with
  | some i => some (.whole i)
  | none =>
    match v.asFloat? with
    | some x =>
      match x.toInt? with
      | some i => some (.whole i)
      | none => some (.broken x)
    | none => none

/-- Whether two numbers are equal. -/
def Numeral.same : Numeral → Numeral → Bool
  | .whole i, .whole j => i == j
  | .broken x, .broken y => x.same y
  | _, _ => false

/-- Equality of two values that count as scalars, when either does. -/
def scalarSame? (v w : Value) : Option Bool :=
  match numeral? v, numeral? w with
  | some a, some b => some (a.same b)
  | some _, none | none, some _ => some false
  | none, none =>
    match v.asText?, w.asText? with
    | some a, some b => some (a == b)
    | some _, none | none, some _ => some false
    | none, none => none

mutual

/-- Whether two values are equal. -/
def same : Value → Value → Bool
  | .null, .null => true
  | .bytes a, .bytes b => a == b
  | .list xs, .list ys | .tuple xs, .tuple ys => sameList xs ys
  | .set _ xs, .set _ ys => xs.length == ys.length && subset xs ys
  | .map ps, .map qs | .map ps, .readOnly qs | .readOnly ps, .map qs
  | .readOnly ps, .readOnly qs => ps.length == qs.length && submap ps qs
  | .moment d c, .moment d' c' => d == d' && c == c'
  | .member tag v, .member tag' v' =>
    match scalarSame? (.member tag v) (.member tag' v') with
    | some b => b
    | none => tag == tag' && same v v'
  | v, w => (scalarSame? v w).getD false

/-- Whether two lists have equal values at the same places. -/
def sameList : List Value → List Value → Bool
  | [], [] => true
  | x :: xs, y :: ys => same x y && sameList xs ys
  | _, _ => false

/-- Whether each value of the first list occurs in the second. -/
def subset : List Value → List Value → Bool
  | [], _ => true
  | x :: xs, ys => ys.any (same x) && subset xs ys

/-- Whether each pair of the first list occurs in the second. -/
def submap : List (Value × Value) → List (Value × Value) → Bool
  | [], _ => true
  | (k, v) :: ps, qs => qs.any (fun q => same k q.1 && same v q.2) && submap ps qs

end

instance : BEq Value := ⟨same⟩

/-- The value of a text key. -/
def field? (name : String) (pairs : List (Value × Value)) : Option Value :=
  Assoc.get? (.text name) pairs

/-- The values without repetition, in order. -/
def distinct (xs : List Value) : List Value :=
  xs.foldl (fun seen x => if seen.any (same · x) then seen else seen ++ [x]) []

theorem beq_eq_same (v w : Value) : (v == w) = v.same w := rfl

theorem same_text (s t : String) : same (.text s) (.text t) = (s == t) := by
  rw [same]
  · rfl
  all_goals simp

end EnumExport.Value
