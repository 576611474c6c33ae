import EnumExport.Value.Basic

/-!
# Frozen values

`freeze` turns every map on the way down into a read-only view and every list into a tuple.
-/

namespace EnumExport.Value

mutual

/-- The value with its maps read-only and its lists as tuples, at every depth that lists, tuples and
maps lead to. -/
def freeze : Value → Value
  | .map ps | .readOnly ps => .readOnly (freezePairs ps)
  | .list xs | .tuple xs => .tuple (freezeList xs)
  | v => v

/-- Each value frozen. -/
def freezeList : List Value → List Value
  | [] => []
  | x :: xs => freeze x :: freezeList xs

/-- Each pair with its value frozen; keys are as they are. -/
def freezePairs : List (Value × Value) → List (Value × Value)
  | [] => []
  | (k, v) :: ps => (k, freeze v) :: freezePairs ps

end

/-- Freezing keeps the keys. -/
theorem freezePairs_keys (ps : List (Value × Value)) :
    (freezePairs ps).map Prod.fst = ps.map Prod.fst := by
  induction ps with
  | nil => rfl
  | cons p ps ih => obtain ⟨k, v⟩ := p; simp [freezePairs, ih]

/-- Freezing keeps the number of items. -/
theorem freezeList_length (xs : List Value) : (freezeList xs).length = xs.length := by
  induction xs with
  | nil => rfl
  | cons x xs ih => simp [freezeList, ih]

end EnumExport.Value
