import EnumExport.Proofs.Value.Scalar
import EnumExport.Value.Order
import Mathlib.Data.List.Pairwise

/-!
# Values that can be put in order

Two values have an order when they are of one kind, `isSome_lt?_iff`: numbers, texts, bytes, days, and
times with or without a zone. So values can be sorted when there is at most one of them or all are of
one kind, `exists_sort?_iff`; sorted, they are the same values, `perm_of_sort?`.
-/

namespace EnumExport

/-- The kinds of values that have an order among each other. -/
inductive OrderKind
  /-- numbers of all kinds -/
  | number
  /-- texts -/
  | text
  /-- bytes -/
  | bytes
  /-- days -/
  | day
  /-- times, with or without a known zone -/
  | time (zoned : Bool)
  deriving DecidableEq, Repr

namespace Value

/-- The values of each kind. -/
inductive OfKind : OrderKind → Value → Prop
  /-- a number -/
  | number {v : Value} (h : v.isNumber = true) : OfKind .number v
  /-- a text -/
  | text {v : Value} (h : v.isText = true) : OfKind .text v
  /-- bytes -/
  | bytes (bs : List UInt8) : OfKind .bytes (.bytes bs)
  /-- a day -/
  | day (d : Day) : OfKind .day (.moment d none)
  /-- a time -/
  | time (d : Day) (c : Clock) {zoned : Bool} (h : c.offset.isSome = zoned) :
    OfKind (.time zoned) (.moment d (some c))

/-- Any two of the values have an order: there are no two, or all are of one kind. -/
def Alike (vs : List Value) : Prop := vs.length ≤ 1 ∨ ∃ k, ∀ v ∈ vs, OfKind k v

variable {v w : Value}

/-! ## Two values -/

theorem isNumber_of_isText (h : v.isText = true) : v.isNumber = false := by
  obtain ⟨s, hs⟩ := Option.isSome_iff_exists.mp h
  rw [isNumber, asInt?_of_asText? hs, asFloat?_of_asText? hs]
  rfl

/-- A value is of one kind only. -/
theorem OfKind.unique {k l : OrderKind} (hk : OfKind k v) (hl : OfKind l v) : k = l := by
  cases hk with
  | number hnumber =>
    cases hl with
    | number => rfl
    | text htext =>
      rw [isNumber_of_isText htext] at hnumber
      cases hnumber
    | _ => cases hnumber
  | text htext =>
    cases hl with
    | number hnumber =>
      rw [isNumber_of_isText htext] at hnumber
      cases hnumber
    | text => rfl
    | _ => cases htext
  | bytes bs => cases hl <;> trivial
  | day d => cases hl <;> trivial
  | time d c hc =>
    cases hl with
    | time _ _ hc' => rw [← hc, ← hc']
    | number h | text h => cases h

/-- Two values have an order exactly when they are of one kind. -/
theorem isSome_lt?_iff : (lt? v w).isSome = true ↔ ∃ k, OfKind k v ∧ OfKind k w := by
  constructor
  · intro h
    unfold lt? at h
    split at h
    · next hnumber =>
      rw [Bool.and_eq_true] at hnumber
      exact ⟨.number, .number hnumber.1, .number hnumber.2⟩
    · split at h
      · next s t hs ht => exact ⟨.text, .text (by simp [isText, hs]), .text (by simp [isText, ht])⟩
      · split at h
        · exact ⟨.bytes, .bytes _, .bytes _⟩
        · exact ⟨.day, .day _, .day _⟩
        · split at h
          · next hzone => exact ⟨.time _, .time _ _ (beq_iff_eq.mp hzone), .time _ _ rfl⟩
          · cases h
        · cases h
  · rintro ⟨k, hv, hw⟩
    cases hv with
    | number hnumber =>
      cases hw with
      | number hnumber' => simp [lt?, hnumber, hnumber']
    | text htext =>
      cases hw with
      | text htext' =>
        obtain ⟨s, hs⟩ := Option.isSome_iff_exists.mp htext
        obtain ⟨t, ht⟩ := Option.isSome_iff_exists.mp htext'
        simp [lt?, isNumber_of_isText htext, hs, ht]
    | bytes a =>
      cases hw with
      | bytes b => rfl
    | day d =>
      cases hw with
      | day e => rfl
    | time d c hc =>
      cases hw with
      | time e f hf => simp [lt?, isNumber, asInt?, asFloat?, asText?, hc, hf]

/-! ## Several values -/

theorem isSome_mapM_iff {α β : Type} {f : α → Option β} {xs : List α} :
    (xs.mapM f).isSome = true ↔ ∀ x ∈ xs, (f x).isSome = true := by
  induction xs with
  | nil => simp
  | cons x xs ih =>
    rw [List.mapM_cons, List.forall_mem_cons, ← ih]
    cases f x <;> cases xs.mapM f <;> simp

/-- A value is put among others where it has an order with each of them. -/
theorem exists_insert?_iff {ys : List Value} :
    (∃ zs, insert? v ys = some zs) ↔ ∀ y ∈ ys, (lt? v y).isSome = true := by
  induction ys with
  | nil => simp [insert?]
  | cons y ys ih =>
    rw [insert?, List.forall_mem_cons, ← isSome_mapM_iff]
    rw [← isSome_mapM_iff] at ih
    cases lt? v y with
    | none => simp
    | some before =>
      cases hys : ys.mapM (lt? v) with
      | none => simp
      | some _ =>
        obtain ⟨zs, hzs⟩ := ih.mpr (by rw [hys]; rfl)
        cases before <;> simp [hzs]

theorem perm_of_insert? {ys zs : List Value} (h : insert? v ys = some zs) :
    zs.Perm (v :: ys) := by
  induction ys generalizing zs with
  | nil =>
    cases h
    exact .rfl
  | cons y ys ih =>
    obtain ⟨before, -, h⟩ := Option.bind_eq_some_iff.mp h
    obtain ⟨rest, -, h⟩ := Option.bind_eq_some_iff.mp h
    split at h
    · cases h
      exact .rfl
    · obtain ⟨us, hus, h⟩ := Option.bind_eq_some_iff.mp h
      cases h
      exact ((ih hus).cons y).trans (.swap v y ys)

theorem perm_of_sort? {vs ws : List Value} (h : sort? vs = some ws) : ws.Perm vs := by
  induction vs generalizing ws with
  | nil =>
    cases h
    exact .rfl
  | cons v vs ih =>
    obtain ⟨us, hus, h⟩ := Option.bind_eq_some_iff.mp h
    exact (perm_of_insert? h).trans ((ih hus).cons v)

/-- Each value is put among those behind it. -/
theorem exists_sort?_iff_pairwise {vs : List Value} :
    (∃ ws, sort? vs = some ws) ↔ vs.Pairwise fun v w => (lt? v w).isSome = true := by
  induction vs with
  | nil => simp [sort?]
  | cons v vs ih =>
    rw [List.pairwise_cons, ← ih, sort?]
    constructor
    · rintro ⟨ws, h⟩
      obtain ⟨us, hus, h⟩ := Option.bind_eq_some_iff.mp h
      refine ⟨fun w hw => ?_, us, hus⟩
      exact exists_insert?_iff.mp ⟨ws, h⟩ w ((perm_of_sort? hus).mem_iff.mpr hw)
    · rintro ⟨hall, us, hus⟩
      obtain ⟨ws, hws⟩ := exists_insert?_iff.mpr fun w hw =>
        hall w ((perm_of_sort? hus).mem_iff.mp hw)
      exact ⟨ws, Option.bind_eq_some_iff.mpr ⟨us, hus, hws⟩⟩

/-- Values can be sorted when any two of them have an order. -/
theorem exists_sort?_iff {vs : List Value} : (∃ ws, sort? vs = some ws) ↔ Alike vs := by
  rw [exists_sort?_iff_pairwise]
  constructor
  · intro h
    match vs, h with
    | [], _ => exact .inl (Nat.zero_le 1)
    | [_], _ => exact .inl (Nat.le_refl 1)
    | v :: w :: vs, h =>
      -- the kind of the first value is that of every other one
      obtain ⟨hfirst, -⟩ := List.pairwise_cons.mp h
      obtain ⟨k, hv, hw⟩ := isSome_lt?_iff.mp (hfirst w List.mem_cons_self)
      refine .inr ⟨k, fun u hu => ?_⟩
      rcases List.mem_cons.mp hu with rfl | hu
      · exact hv
      · obtain ⟨l, hl, hu⟩ := isSome_lt?_iff.mp (hfirst u hu)
        exact hv.unique hl ▸ hu
  · rintro (hfew | ⟨k, hall⟩)
    · match vs, hfew with
      | [], _ => exact .nil
      | [v], _ => exact List.pairwise_singleton _ v
    · exact List.pairwise_of_forall_mem_list fun v hv w hw =>
        isSome_lt?_iff.mpr ⟨k, hall v hv, hall w hw⟩

end Value

end EnumExport
