import EnumExport.Value.Frozen

/-!
# What can be changed in a frozen value

A value has parts: itself, the items of its containers, and the keys and values of its maps, at every
depth. A container gets at some of them by their hash, at the elements of a set and the keys of a map
(`hashed`), and just holds the others (`held`). Freezing goes through what is held and leaves alone
what is hashed, `held_freeze` and `hashed_freeze`.

That is where the cases of `isPart_freeze_iff` come from. Nothing can be changed in what is hashed,
`isChangeable_of_isHashable`; what is held is frozen in turn. The one container that freezing leaves
as it is, although it may be changed, is a set.
-/

namespace EnumExport.Value

/-! ## Parts -/

/-- Whether a value is a container that may be changed in place. -/
def isChangeable : Value → Bool
  | .list _ | .set false _ | .map _ => true
  | _ => false

/-- What a container gets at by its hash. -/
def hashed : Value → List Value
  | .set _ xs => xs
  | .map ps | .readOnly ps => ps.map Prod.fst
  | _ => []

/-- What a container holds otherwise. A member of an enumeration is no container. -/
def held : Value → List Value
  | .list xs | .tuple xs => xs
  | .map ps | .readOnly ps => ps.map Prod.snd
  | _ => []

/-- A value is part of another one. -/
inductive IsPart (w : Value) : Value → Prop
  /-- it is the other one -/
  | self : IsPart w w
  /-- it is part of something that the other one holds -/
  | held {v x : Value} (hx : x ∈ v.held) (h : IsPart w x) : IsPart w v
  /-- it is part of something that the other one gets at by its hash -/
  | hashed {v x : Value} (hx : x ∈ v.hashed) (h : IsPart w x) : IsPart w v

mutual

/-- Whether some part of a value passes a test. -/
def anyPart (test : Value → Bool) : Value → Bool
  | .list xs => test (.list xs) || anyPartOf test xs
  | .tuple xs => test (.tuple xs) || anyPartOf test xs
  | .set frozen xs => test (.set frozen xs) || anyPartOf test xs
  | .map ps => test (.map ps) || anyPartOfPairs test ps
  | .readOnly ps => test (.readOnly ps) || anyPartOfPairs test ps
  | v => test v

/-- Whether some part of several values passes a test. -/
def anyPartOf (test : Value → Bool) : List Value → Bool
  | [] => false
  | x :: xs => anyPart test x || anyPartOf test xs

/-- Whether some part of the keys and values of pairs passes a test. -/
def anyPartOfPairs (test : Value → Bool) : List (Value × Value) → Bool
  | [] => false
  | (k, v) :: ps => anyPart test k || anyPart test v || anyPartOfPairs test ps

end

section AnyPart

variable {test : Value → Bool}

theorem anyPartOf_iff {xs : List Value} :
    anyPartOf test xs = true ↔ ∃ x ∈ xs, anyPart test x = true := by
  induction xs with
  | nil => simp [anyPartOf]
  | cons x xs ih => simp [anyPartOf, ih]

theorem anyPartOfPairs_iff {ps : List (Value × Value)} : anyPartOfPairs test ps = true ↔
    (∃ x ∈ ps.map Prod.snd, anyPart test x = true) ∨
      ∃ x ∈ ps.map Prod.fst, anyPart test x = true := by
  induction ps with
  | nil => simp [anyPartOfPairs]
  | cons p ps ih =>
    obtain ⟨k, v⟩ := p
    simp only [anyPartOfPairs, Bool.or_eq_true, ih, List.map_cons, List.mem_cons, exists_eq_or_imp]
    grind

/-- A part is the value itself, or part of what it holds or gets at by its hash. -/
theorem anyPart_iff {v : Value} : anyPart test v = true ↔
    test v = true ∨ (∃ x ∈ v.held, anyPart test x = true) ∨
      ∃ x ∈ v.hashed, anyPart test x = true := by
  cases v <;> simp only [anyPart, held, hashed, Bool.or_eq_true, anyPartOf_iff, anyPartOfPairs_iff,
    List.not_mem_nil, false_and, exists_false, or_false, false_or]

theorem anyPart_of_isPart {v w : Value} (h : w.IsPart v) (hw : test w = true) :
    anyPart test v = true := by
  induction h with
  | self => exact anyPart_iff.mpr (.inl hw)
  | held hx _ ih => exact anyPart_iff.mpr (.inr (.inl ⟨_, hx, ih⟩))
  | hashed hx _ ih => exact anyPart_iff.mpr (.inr (.inr ⟨_, hx, ih⟩))

end AnyPart

/-! ## What can be hashed -/

/-- Whether all that is hashed in a value can be hashed. No value can be made otherwise. -/
def isProper (v : Value) : Bool :=
  !v.anyPart fun w => w.hashed.any fun x => x.unhashable?.isSome

section Proper

variable {v w x : Value}

theorem isProper_of_mem_held (h : v.isProper = true) (hx : x ∈ v.held) : x.isProper = true := by
  rw [isProper, Bool.not_eq_true', Bool.eq_false_iff] at h ⊢
  exact fun hpart => h (anyPart_iff.mpr (.inr (.inl ⟨x, hx, hpart⟩)))

theorem isProper_of_mem_hashed (h : v.isProper = true) (hx : x ∈ v.hashed) :
    x.isProper = true := by
  rw [isProper, Bool.not_eq_true', Bool.eq_false_iff] at h ⊢
  exact fun hpart => h (anyPart_iff.mpr (.inr (.inr ⟨x, hx, hpart⟩)))

theorem unhashable?_of_mem_hashed (h : v.isProper = true) (hx : x ∈ v.hashed) :
    x.unhashable? = none := by
  rw [isProper, Bool.not_eq_true', Bool.eq_false_iff] at h
  cases hkind : x.unhashable? with
  | none => rfl
  | some kind =>
    refine absurd (anyPart_iff.mpr (.inl (List.any_eq_true.mpr ⟨x, hx, ?_⟩))) h
    rw [hkind]
    rfl

theorem unhashableIn?_eq_none_iff {xs : List Value} :
    unhashableIn? xs = none ↔ ∀ x ∈ xs, x.unhashable? = none := by
  induction xs with
  | nil => simp [unhashableIn?]
  | cons x xs ih => simp [unhashableIn?, ih]

/-- What can be hashed holds only what can be hashed: it is a tuple, if it holds anything. -/
theorem unhashable?_of_mem_held (h : v.unhashable? = none) (hx : x ∈ v.held) :
    x.unhashable? = none := by
  cases v with
  | tuple xs => exact unhashableIn?_eq_none_iff.mp h x hx
  | list xs | map ps | readOnly ps => cases h
  | _ => cases hx

/-- Nothing can be changed in what can be hashed. -/
theorem isChangeable_of_isHashable (h : v.unhashable? = none) (hv : v.isProper = true)
    (hw : w.IsPart v) : w.isChangeable = false := by
  induction hw with
  | self =>
    cases w with
    | list xs | map ps => cases h
    | set frozen xs =>
      cases frozen with
      | true => rfl
      | false => cases h
    | _ => rfl
  | held hx _ ih => exact ih (unhashable?_of_mem_held h hx) (isProper_of_mem_held hv hx)
  | hashed hx _ ih => exact ih (unhashable?_of_mem_hashed hv hx) (isProper_of_mem_hashed hv hx)

end Proper

/-! ## Freezing -/

theorem freezeList_eq (xs : List Value) : freezeList xs = xs.map freeze := by
  induction xs with
  | nil => rfl
  | cons x xs ih => rw [freezeList, ih, List.map_cons]

theorem freezePairs_values (ps : List (Value × Value)) :
    (freezePairs ps).map Prod.snd = (ps.map Prod.snd).map freeze := by
  induction ps with
  | nil => rfl
  | cons p ps ih =>
    obtain ⟨k, v⟩ := p
    rw [freezePairs, List.map_cons, ih]
    rfl

/-- What a value holds is frozen. -/
theorem held_freeze (v : Value) : v.freeze.held = v.held.map freeze := by
  cases v with
  | list xs | tuple xs => exact freezeList_eq xs
  | map ps | readOnly ps => exact freezePairs_values ps
  | _ => rfl

/-- What it gets at by its hash stays as it is. -/
theorem hashed_freeze (v : Value) : v.freeze.hashed = v.hashed := by
  cases v with
  | map ps | readOnly ps => exact freezePairs_keys ps
  | _ => rfl

/-- A frozen value may be changed only where it is a set. -/
theorem exists_set_of_freeze {v : Value} (h : v.freeze.isChangeable = true) :
    ∃ xs, v = .set false xs := by
  cases v with
  | set frozen xs =>
    cases frozen with
    | true => cases h
    | false => exact ⟨xs, rfl⟩
  | _ => cases h

section Frozen

variable {v w : Value}

/-- What may be changed in a frozen value is a set that was there before. -/
theorem isPart_of_isPart_freeze (hv : v.isProper = true) (hw : w.isChangeable = true)
    (h : w.IsPart v.freeze) : w.IsPart v ∧ ∃ xs, w = .set false xs := by
  generalize hfrozen : v.freeze = u at h
  induction h generalizing v with
  | self =>
    subst hfrozen
    obtain ⟨xs, rfl⟩ := exists_set_of_freeze hw
    exact ⟨.self, xs, rfl⟩
  | held hx hpart ih =>
    rw [← hfrozen, held_freeze] at hx
    obtain ⟨y, hy, rfl⟩ := List.mem_map.mp hx
    obtain ⟨hin, hset⟩ := ih (isProper_of_mem_held hv hy) rfl
    exact ⟨.held hy hin, hset⟩
  | hashed hx hpart ih =>
    rw [← hfrozen, hashed_freeze] at hx
    have hfixed := isChangeable_of_isHashable (unhashable?_of_mem_hashed hv hx)
      (isProper_of_mem_hashed hv hx) hpart
    rw [hw] at hfixed
    cases hfixed

/-- A set that may be changed stays where it is. -/
theorem isPart_freeze_of_isPart {xs : List Value} (hv : v.isProper = true)
    (h : (Value.set false xs).IsPart v) : (Value.set false xs).IsPart v.freeze := by
  induction h with
  | self => exact .self
  | held hx _ ih =>
    refine .held ?_ (ih (isProper_of_mem_held hv hx))
    rw [held_freeze]
    exact List.mem_map_of_mem hx
  | hashed hx hpart _ =>
    cases isChangeable_of_isHashable (unhashable?_of_mem_hashed hv hx)
      (isProper_of_mem_hashed hv hx) hpart

/-- **Freezing.** What may be changed in a frozen value are the sets that may be changed in the value
it was made of, and nothing else. -/
theorem isPart_freeze_iff (hv : v.isProper = true) (hw : w.isChangeable = true) :
    w.IsPart v.freeze ↔ w.IsPart v ∧ ∃ xs, w = .set false xs := by
  refine ⟨isPart_of_isPart_freeze hv hw, ?_⟩
  rintro ⟨hpart, xs, rfl⟩
  exact isPart_freeze_of_isPart hv hpart

end Frozen

end EnumExport.Value
