/-!
# Steps that may fail

Four ways to speak about computations that end with a value or an error:

* one is certain to end with a value, as all of its steps are — `mapM_of_forall`;
* whatever value one ends with has a property, `Ensures`;
* whatever error one ends with has a property, `FailsWith`; where no error has it, it ends with a
  value;
* of several items, some end with a value and the others with an error, each under a key of its
  own — `valueOf?`, `errorOf?`.
-/

namespace EnumExport

variable {α β γ δ ε : Type}

/-! ## Ending with a value -/

/-- When each item gives what some data stands for, so do all of them together. -/
theorem mapM_of_forall {f : α → Except ε β} {g : α → δ} (made : γ → β) (meant : γ → δ)
    (P : γ → Prop) {xs : List α}
    (h : ∀ x ∈ xs, ∃ y, f x = .ok (made y) ∧ meant y = g x ∧ P y) :
    ∃ ys : List γ, xs.mapM f = .ok (ys.map made) ∧ ys.map meant = xs.map g ∧ ∀ y ∈ ys, P y := by
  induction xs with
  | nil => exact ⟨[], rfl, rfl, by simp⟩
  | cons x xs ih =>
    obtain ⟨y, hy, hmeant, hP⟩ := h x (by simp)
    obtain ⟨ys, hys, hmeants, hPs⟩ := ih fun z hz => h z (by simp [hz])
    refine ⟨y :: ys, ?_, ?_, ?_⟩
    · rw [List.mapM_cons, hy, hys]
      rfl
    · rw [List.map_cons, List.map_cons, hmeant, hmeants]
    · intro z hz
      rcases List.mem_cons.mp hz with rfl | hz
      · exact hP
      · exact hPs z hz

/-- When each item gives a value, all together give these values. -/
theorem mapM_eq_ok {f : α → Except ε β} {g : α → β} {xs : List α} (h : ∀ x ∈ xs, f x = .ok (g x)) :
    xs.mapM f = .ok (xs.map g) := by
  induction xs with
  | nil => rfl
  | cons x xs ih =>
    rw [List.mapM_cons, h x (by simp), ih fun y hy => h y (by simp [hy])]
    rfl

theorem ok_bind (a : α) (f : α → Except ε β) : (.ok a >>= f) = f a := rfl

/-- Where a sequence ends with a value, so do its parts. -/
theorem exists_of_bind_ok {x : Except ε α} {f : α → Except ε β} {b : β}
    (h : (x >>= f) = .ok b) : ∃ a, x = .ok a ∧ f a = .ok b := by
  cases x with
  | error e => cases h
  | ok a => exact ⟨a, rfl, h⟩

/-- A sequence ends with a value where its parts do, one after the other. -/
theorem exists_bind_ok_iff {x : Except ε α} {f : α → Except ε β} :
    (∃ b, (x >>= f) = .ok b) ↔ ∃ a, x = .ok a ∧ ∃ b, f a = .ok b := by
  constructor
  · rintro ⟨b, h⟩
    obtain ⟨a, ha, hf⟩ := exists_of_bind_ok h
    exact ⟨a, ha, b, hf⟩
  · rintro ⟨a, rfl, b, hf⟩
    exact ⟨b, hf⟩

theorem exists_of_map_ok {x : Except ε α} {f : α → β} {b : β} (h : x.map f = .ok b) :
    ∃ a, x = .ok a ∧ f a = b := by
  cases x with
  | error e => cases h
  | ok a => exact ⟨a, rfl, Except.ok.inj h⟩

theorem exists_of_toOption {x : Except ε α} {f : α → β} {b : β}
    (h : x.toOption.map f = some b) : ∃ a, x = .ok a ∧ f a = b := by
  cases x with
  | error e => cases h
  | ok a => exact ⟨a, rfl, Option.some.inj h⟩

/-- The values of several items are those that the items end with. -/
theorem mem_mapM_ok_iff {f : α → Except ε β} {xs : List α} {ys : List β}
    (h : xs.mapM f = .ok ys) (y : β) : y ∈ ys ↔ ∃ x ∈ xs, f x = .ok y := by
  induction xs generalizing ys with
  | nil =>
    cases h
    simp
  | cons x xs ih =>
    rw [List.mapM_cons] at h
    obtain ⟨z, hz, h⟩ := exists_of_bind_ok h
    obtain ⟨zs, hzs, h⟩ := exists_of_bind_ok h
    cases h
    have hfirst : f x = .ok y ↔ y = z := by rw [hz, Except.ok.injEq, eq_comm]
    simp only [List.mem_cons, or_and_right, exists_or, exists_eq_left, ih hzs, hfirst]

/-- Where it is known when a computation ends with a value, and with which, it is known of what is
made of the value. -/
theorem bind_ok_iff {x : Except ε α} {P : Prop} {a : α} {y : β}
    (h : ∀ b, x = .ok b ↔ P ∧ b = a) (f : α → β) :
    (x >>= fun b => .ok (f b)) = .ok y ↔ P ∧ y = f a := by
  constructor
  · intro hbind
    cases hx : x with
    | error e =>
      rw [hx] at hbind
      cases hbind
    | ok b =>
      rw [hx] at hbind
      obtain ⟨hP, rfl⟩ := (h b).mp hx
      exact ⟨hP, (Except.ok.inj hbind).symm⟩
  · rintro ⟨hP, rfl⟩
    rw [(h a).mpr ⟨hP, rfl⟩]
    rfl

/-! ## The value it ends with -/

/-- Whatever value a computation ends with has a property. -/
def Ensures (x : Except ε α) (P : α → Prop) : Prop := ∀ a, x = .ok a → P a

namespace Ensures

variable {P : α → Prop}

theorem pure {a : α} (h : P a) : Ensures (Pure.pure a : Except ε α) P := by
  intro b hb
  cases hb
  exact h

theorem throw (e : ε) : Ensures (MonadExcept.throw e : Except ε α) P := by
  intro b hb
  cases hb

theorem bind {x : Except ε β} {f : β → Except ε α} (h : ∀ b, x = .ok b → Ensures (f b) P) :
    Ensures (x >>= f) P := by
  intro a ha
  cases x with
  | error e => cases ha
  | ok b => exact h b rfl a ha

theorem throw_bind (e : ε) (f : β → Except ε α) : Ensures (MonadExcept.throw e >>= f) P := by
  intro a ha
  cases ha

theorem map {x : Except ε β} {f : β → α} (h : Ensures x fun b => P (f b)) : Ensures (x.map f) P := by
  intro a ha
  cases x with
  | error e => cases ha
  | ok b =>
    cases ha
    exact h b rfl

/-- What is known of the value that each item gives is known of the values of all together. -/
theorem mapM {f : β → Except ε α} {g : α → γ} {made : β → γ} {xs : List β}
    (h : ∀ x ∈ xs, Ensures (f x) fun a => g a = made x) :
    Ensures (xs.mapM f) fun as => as.map g = xs.map made := by
  induction xs with
  | nil => exact .pure rfl
  | cons x xs ih =>
    rw [List.mapM_cons]
    refine .bind fun a ha => .bind fun as has => .pure ?_
    rw [List.map_cons, List.map_cons, h x (by simp) a ha,
      ih (fun y hy => h y (by simp [hy])) as has]

/-- There are as many values as items, each with the property. -/
theorem mapM_forall {f : β → Except ε α} {xs : List β} (h : ∀ x ∈ xs, Ensures (f x) P) :
    Ensures (xs.mapM f) fun as => as.length = xs.length ∧ ∀ a ∈ as, P a := by
  induction xs with
  | nil => exact .pure ⟨rfl, by simp⟩
  | cons x xs ih =>
    rw [List.mapM_cons]
    refine .bind fun a ha => .bind fun as has => .pure ?_
    obtain ⟨hlength, hall⟩ := ih (fun y hy => h y (by simp [hy])) as has
    refine ⟨by simp [hlength], ?_⟩
    intro b hb
    rcases List.mem_cons.mp hb with rfl | hb
    · exact h x (by simp) b ha
    · exact hall b hb

end Ensures

/-! ## The error it ends with -/

/-- Whatever error a computation ends with has a property. -/
def FailsWith (x : Except ε α) (P : ε → Prop) : Prop := ∀ e, x = .error e → P e

namespace FailsWith

variable {P Q : ε → Prop} {x : Except ε α}

theorem ok (a : α) : FailsWith (.ok a) P := by
  intro e he
  cases he

theorem mono (h : FailsWith x P) (hPQ : ∀ e, P e → Q e) : FailsWith x Q :=
  fun e he => hPQ e (h e he)

theorem bind {f : α → Except ε β} (hx : FailsWith x P) (hf : ∀ a, x = .ok a → FailsWith (f a) P) :
    FailsWith (x >>= f) P := by
  intro e he
  cases x with
  | error e' =>
    cases he
    exact hx e rfl
  | ok a => exact hf a rfl e he

theorem mapM {f : α → Except ε β} {xs : List α} (h : ∀ a ∈ xs, FailsWith (f a) P) :
    FailsWith (xs.mapM f) P := by
  induction xs with
  | nil => exact ok []
  | cons a xs ih =>
    rw [List.mapM_cons]
    refine bind (h a (by simp)) fun b _ => ?_
    exact bind (ih fun c hc => h c (by simp [hc])) fun bs _ => ok (b :: bs)

/-- A computation ends with a value where no error has the property. -/
theorem isOk (h : FailsWith x P) (hP : ∀ e, ¬ P e) : ∃ a, x = .ok a := by
  cases x with
  | error e => exact absurd (h e rfl) (hP e)
  | ok a => exact ⟨a, rfl⟩

end FailsWith

/-- Where one of several items fails, they fail together. -/
theorem exists_mapM_error {f : α → Except ε β} {xs : List α} {a : α} {e : ε} (ha : a ∈ xs)
    (he : f a = .error e) : ∃ e', xs.mapM f = .error e' := by
  induction xs with
  | nil => cases ha
  | cons b xs ih =>
    rw [List.mapM_cons]
    cases hb : f b with
    | error e' => exact ⟨e', rfl⟩
    | ok y =>
      rcases List.mem_cons.mp ha with rfl | ha
      · rw [hb] at he
        cases he
      · obtain ⟨e', he'⟩ := ih ha
        exact ⟨e', by rw [he']; rfl⟩

/-! ## Items that end with a value and items that do not -/

section Keyed

variable (key : α → String) (f : α → Except ε β)

/-- The value that an item ends with, under its key. -/
def valueOf? (a : α) : Option (String × β) :=
  match f a with
  | .ok b => some (key a, b)
  | .error _ => none

/-- The error that an item ends with, under its key. -/
def errorOf? (a : α) : Option (String × ε) :=
  match f a with
  | .ok _ => none
  | .error e => some (key a, e)

variable {key f}

theorem key_of_valueOf? {a : α} {p : String × β} (h : valueOf? key f a = some p) :
    p.1 = key a := by
  rw [valueOf?] at h
  split at h
  · cases h
    rfl
  · cases h

theorem key_of_errorOf? {a : α} {p : String × ε} (h : errorOf? key f a = some p) :
    p.1 = key a := by
  rw [errorOf?] at h
  split at h
  · cases h
  · cases h
    rfl

/-- There are as many items as errors and values. -/
theorem length_errors_values (key : α → String) (f : α → Except ε β) (xs : List α) :
    xs.length = (xs.filterMap (errorOf? key f)).length +
      (xs.filterMap fun a => (f a).toOption).length := by
  induction xs with
  | nil => rfl
  | cons a xs ih =>
    rw [List.filterMap_cons, List.filterMap_cons, errorOf?, List.length_cons, ih]
    cases f a with
    | error e => exact Nat.add_right_comm _ _ 1
    | ok b => rfl

/-- What is kept of the items with certain keys are those with these keys that are kept. -/
theorem filterMap_filter_keys {g : α → Option (String × γ)}
    (hg : ∀ a p, g a = some p → p.1 = key a) (q : String → Bool) (xs : List α) :
    (xs.filter fun a => q (key a)).filterMap g = (xs.filterMap g).filter fun p => q p.1 := by
  rw [List.filterMap_filter, List.filter_filterMap]
  refine congrArg (List.filterMap · xs) (funext fun a => ?_)
  cases h : g a with
  | none => exact ite_self _
  | some p => rw [Option.filter_some, hg a p h]

end Keyed

end EnumExport
