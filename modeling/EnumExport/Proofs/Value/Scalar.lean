import EnumExport.Manifest.Basic
import EnumExport.Value.Frozen

/-!
# Scalars

A scalar is a value that counts as a text or as a whole number.

* Two scalars are equal exactly when they count as the same: `same_of_scalar`. So among scalars
  equality is an equivalence, which it need not be among other values.
* A scalar can be a key and is left alone by freezing.
-/

namespace EnumExport

/-- What a scalar counts as. -/
inductive Scalar
  /-- a text -/
  | text (s : String)
  /-- a whole number -/
  | number (i : Int)
  deriving DecidableEq, Repr

namespace Value

/-- What a value counts as, when it is a scalar; truth values count as numbers. -/
def scalar? (v : Value) : Option Scalar :=
  match v.asText? with
  | some s => some (.text s)
  | none => v.asInt?.map .number

section

variable {v w : Value} {a b : Scalar}

theorem asInt?_of_asText? {s : String} (h : v.asText? = some s) : v.asInt? = none := by
  cases v with
  | member tag v =>
    obtain ⟨owner, name, data, shows, isFlag⟩ := tag
    cases data <;> simp [asText?] at h
    rfl
  | text => rfl
  | _ => simp [asText?] at h

theorem asFloat?_of_asText? {s : String} (h : v.asText? = some s) : v.asFloat? = none := by
  cases v with
  | member tag v =>
    obtain ⟨owner, name, data, shows, isFlag⟩ := tag
    cases data <;> simp [asText?] at h
    rfl
  | text => rfl
  | _ => simp [asText?] at h

/-- A scalar is a text or a number, and not both. -/
theorem scalar?_eq_some (h : v.scalar? = some a) :
    (∃ s, a = .text s ∧ v.asText? = some s ∧ v.numeral? = none) ∨
      ∃ i, a = .number i ∧ v.asText? = none ∧ v.numeral? = some (.whole i) := by
  rw [scalar?] at h
  cases htext : v.asText? with
  | some s =>
    rw [htext] at h
    refine .inl ⟨s, (Option.some.inj h).symm, rfl, ?_⟩
    rw [numeral?, asInt?_of_asText? htext, asFloat?_of_asText? htext]
  | none =>
    rw [htext] at h
    obtain ⟨i, hi, rfl⟩ := Option.map_eq_some_iff.mp h
    exact .inr ⟨i, rfl, rfl, by rw [numeral?, hi]⟩

theorem scalarSame?_of_scalar (hv : v.scalar? = some a) (hw : w.scalar? = some b) :
    scalarSame? v w = some (decide (a = b)) := by
  -- a text and a number are never the same, two of a kind are when what they count as is
  rcases scalar?_eq_some hv with ⟨s, rfl, hvtext, hvnum⟩ | ⟨i, rfl, hvtext, hvnum⟩ <;>
    rcases scalar?_eq_some hw with ⟨t, rfl, hwtext, hwnum⟩ | ⟨j, rfl, hwtext, hwnum⟩ <;>
    simp [scalarSame?, hvnum, hwnum, hvtext, hwtext, Numeral.same, BEq.beq]

/-- Equality with a scalar goes by what the values count as. -/
theorem same_eq_scalarSame? (h : scalarSame? v w ≠ none) :
    v.same w = (scalarSame? v w).getD false := by
  cases v with
  | member tag v =>
    cases w with
    | member tag' v' =>
      rw [same]
      split
      · next hsame => rw [hsame]; rfl
      · next hnone => exact absurd hnone h
    | _ => simp [same]
  | _ => cases w <;> first | exact absurd rfl h | simp [same]

/-- Two scalars are equal exactly when they count as the same. -/
theorem same_of_scalar (hv : v.scalar? = some a) (hw : w.scalar? = some b) :
    v.same w = decide (a = b) := by
  have hscalar := scalarSame?_of_scalar hv hw
  rw [same_eq_scalarSame? (by simp [hscalar]), hscalar]
  rfl

/-- What counts as a text is equal only to what does, too. -/
theorem isText_of_same (h : v.same w = true) : v.isText = w.isText := by
  have hsame : scalarSame? v w ≠ none → scalarSame? v w = some true := by
    intro hne
    rw [same_eq_scalarSame? hne] at h
    cases hs : scalarSame? v w with
    | none => exact absurd hs hne
    | some b => rw [hs] at h; exact congrArg some h
  have hnum : ∀ {x : Value} {s : String}, x.asText? = some s → x.numeral? = none := by
    intro x s hx
    rw [numeral?, asInt?_of_asText? hx, asFloat?_of_asText? hx]
  rw [isText, isText]
  cases hv : v.asText? with
  | some s =>
    cases hw : w.asText? with
    | some t => rfl
    | none =>
      have hfalse : scalarSame? v w = some false := by
        rw [scalarSame?, hnum hv, hv, hw]
        cases w.numeral? <;> rfl
      rw [hfalse] at hsame
      simp at hsame
  | none =>
    cases hw : w.asText? with
    | none => rfl
    | some t =>
      have hfalse : scalarSame? v w = some false := by
        rw [scalarSame?, hnum hw, hv, hw]
        cases v.numeral? <;> rfl
      rw [hfalse] at hsame
      simp at hsame

theorem ne_null_of_scalar (h : v.scalar? = some a) : v ≠ .null := by
  rintro rfl
  cases h

theorem null_same_of_scalar (h : v.scalar? = some a) : same .null v = false := by
  have hfalse : scalarSame? .null v = some false := by
    rcases scalar?_eq_some h with ⟨s, -, htext, hnum⟩ | ⟨i, -, htext, hnum⟩
    · rw [scalarSame?, hnum, htext]
      rfl
    · rw [scalarSame?, hnum]
      rfl
  rw [same_eq_scalarSame? (by simp [hfalse]), hfalse]
  rfl

theorem unhashable?_of_scalar (h : v.scalar? = some a) : v.unhashable? = none := by
  cases v <;> first | rfl | simp [scalar?, asText?, asInt?] at h

theorem freeze_of_scalar (h : v.scalar? = some a) : v.freeze = v := by
  cases v <;> first | rfl | simp [scalar?, asText?, asInt?] at h

end

end Value

/-- A value of a scalar kind is a scalar. -/
theorem BackingKind.scalar?_of_ofValue? {v : Value} {k : BackingKind} (h : ofValue? v = some k) :
    ∃ a, v.scalar? = some a := by
  rw [Value.scalar?]
  cases htext : v.asText? with
  | some s => exact ⟨.text s, rfl⟩
  | none =>
    cases hint : v.asInt? with
    | some i => exact ⟨.number i, rfl⟩
    | none => simp [ofValue?, Value.isText, Value.isInteger, htext, hint] at h

end EnumExport
