import EnumExport.Manifest.Structure
import EnumExport.Proofs.Outcome

/-!
# What the check of an entry tells

The check goes through the cases in order and ends at the first that breaks a rule. One step of it
tests a key against the keys before it, and then a value against the values before it:
`checkCases_cons`.

* Where it ends well, the keys are told apart, keep clear of the names of the generated object and
  are identifiers: `Entry.keys_of_check`.
* No two of the values collide then: `Entry.values_of_check`.
* Where it finds fault with the spelling of a key, that key is one of a case, and the fault is there:
  `Entry.misspelled_of_check`.
-/

namespace EnumExport

/-- Whether a key can be one of a generated object: it is no name that the object has anyway, and an
identifier. -/
def isFreeKey (key : String) : Bool :=
  !reservedProperties.contains key && Text.isIdentifier key

/-- The fault of a key's spelling, if the reason is one. -/
def GenerateError.misspelled? : GenerateError → Option String
  | .rejected (.reservedKey key) => some key
  | .rejected (.notIdentifier key) => some key
  | _ => none

/-! ## One step -/

/-- Tests a key against those before it. -/
def checkKey (keys : List String) (key : String) : Except GenerateError Unit :=
  if keys.contains key then .error (.rejected (.duplicateKey key))
  else if reservedProperties.contains key then .error (.rejected (.reservedKey key))
  else if !Text.isIdentifier key then .error (.rejected (.notIdentifier key))
  else .ok ()

/-- Tests a value against those before it, and puts it in front of them; null is let through. -/
def checkValue (values : List Value) : Value → Except GenerateError (List Value)
  | .null => .ok values
  | v => match v.unhashable? with
    | some kind => .error (.unhashable kind)
    | none =>
      if values.any fun w => v.collides w then .error (.rejected (.duplicateValue v))
      else .ok (v :: values)

theorem checkValue_of_ne {values : List Value} {v : Value} (h : v ≠ .null) :
    checkValue values v = match v.unhashable? with
      | some kind => .error (.unhashable kind)
      | none =>
        if values.any fun w => v.collides w then .error (.rejected (.duplicateValue v))
        else .ok (v :: values) := by
  cases v with
  | null => exact absurd rfl h
  | _ => rfl

theorem checkCases_cons (keys : List String) (values : List Value) (c : Case) (rest : List Case) :
    checkCases keys values (c :: rest) =
      checkKey keys c.key >>= fun _ => checkValue values c.value >>= fun values' =>
        checkCases (c.key :: keys) values' rest := by
  rw [checkCases, checkKey]
  split
  · rfl
  · split
    · rfl
    · split
      · rfl
      · -- what is left is the test of the value
        split
        · next hnull =>
          rw [hnull]
          rfl
        · next hnull =>
          rw [checkValue_of_ne hnull]
          cases c.value.unhashable? with
          | some kind => rfl
          | none =>
            dsimp only
            split <;> rfl

theorem checkKey_ensures (keys : List String) (key : String) :
    Ensures (checkKey keys key) fun _ => key ∉ keys ∧ isFreeKey key = true := by
  intro u h
  rw [checkKey] at h
  split at h
  · cases h
  · split at h
    · cases h
    · split at h
      · cases h
      · next hkeys hreserved hidentifier =>
        exact ⟨by simpa using hkeys, by simp_all [isFreeKey]⟩

theorem checkKey_fails (keys : List String) (key : String) :
    FailsWith (checkKey keys key) fun e =>
      ∀ k, e.misspelled? = some k → key = k ∧ isFreeKey key = false := by
  intro e h k hk
  rw [checkKey] at h
  split at h
  · cases h
    cases hk
  · split at h
    · cases h
      cases hk
      exact ⟨rfl, by simp_all [isFreeKey]⟩
    · split at h
      · cases h
        cases hk
        exact ⟨rfl, by simp_all [isFreeKey]⟩
      · cases h

theorem checkValue_fails (values : List Value) (v : Value) :
    FailsWith (checkValue values v) fun e => e.misspelled? = none := by
  by_cases hnull : v = .null
  · rw [hnull]
    exact .ok values
  · rw [checkValue_of_ne hnull]
    intro e h
    split at h
    · cases h
      rfl
    · split at h
      · cases h
        rfl
      · cases h

/-! ## All cases -/

/-- A check that ends well has told the keys apart, also from those before, and found each of them
free. -/
theorem checkCases_ensures (keys : List String) (values : List Value) (cases : List Case) :
    Ensures (checkCases keys values cases) fun _ =>
      (cases.map Case.key).Nodup ∧ ∀ x ∈ cases, x.key ∉ keys ∧ isFreeKey x.key = true := by
  induction cases generalizing keys values with
  | nil => exact .pure ⟨List.nodup_nil, by simp⟩
  | cons c rest ih =>
    rw [checkCases_cons]
    refine .bind fun u hkey => .bind fun values' _ => ?_
    intro _ hrest
    obtain ⟨hnodup, hall⟩ := ih (c.key :: keys) values' _ hrest
    refine ⟨List.nodup_cons.mpr ⟨?_, hnodup⟩, ?_⟩
    · intro hmem
      obtain ⟨x, hx, heq⟩ := List.mem_map.mp hmem
      exact (hall x hx).1 (by simp [heq])
    · intro x hx
      rcases List.mem_cons.mp hx with rfl | hx
      · exact checkKey_ensures keys x.key u hkey
      · exact ⟨fun hmem => (hall x hx).1 (List.mem_cons_of_mem _ hmem), (hall x hx).2⟩

theorem checkValue_ensures (values : List Value) (v : Value) :
    Ensures (checkValue values v) fun values' =>
      (v ≠ .null → (∀ w ∈ values, v.collides w = false) ∧ v ∈ values') ∧ values ⊆ values' := by
  by_cases hnull : v = .null
  · rw [hnull]
    exact .pure ⟨fun hne => absurd rfl hne, fun _ hw => hw⟩
  · rw [checkValue_of_ne hnull]
    intro values' h
    split at h
    · cases h
    · split at h
      · cases h
      · next hany =>
        cases h
        refine ⟨fun _ => ⟨?_, by simp⟩, fun w hw => by simp [hw]⟩
        simpa using hany

/-- A check that ends well has told the values apart, also from those before. -/
theorem checkCases_apart (keys : List String) (values : List Value) (cases : List Case) :
    Ensures (checkCases keys values cases) fun _ =>
      (cases.Pairwise fun x y => x.value ≠ .null → y.value ≠ .null →
        y.value.collides x.value = false) ∧
      ∀ x ∈ cases, x.value ≠ .null → ∀ w ∈ values, x.value.collides w = false := by
  induction cases generalizing keys values with
  | nil => exact .pure ⟨.nil, by simp⟩
  | cons c rest ih =>
    rw [checkCases_cons]
    refine .bind fun _ _ => .bind fun values' hvalue => ?_
    intro _ hrest
    obtain ⟨hpairs, hall⟩ := ih (c.key :: keys) values' _ hrest
    obtain ⟨hnew, hbefore⟩ := checkValue_ensures values c.value values' hvalue
    refine ⟨List.pairwise_cons.mpr ⟨?_, hpairs⟩, ?_⟩
    · intro y hy hc hynull
      exact hall y hy hynull c.value (hnew hc).2
    · intro x hx hnull w hw
      rcases List.mem_cons.mp hx with rfl | hx
      · exact (hnew hnull).1 w hw
      · exact hall x hx hnull w (hbefore hw)

/-- A key whose spelling a check finds fault with is one of a case, and is not free. -/
theorem checkCases_fails (keys : List String) (values : List Value) (cases : List Case) :
    FailsWith (checkCases keys values cases) fun e =>
      ∀ key, e.misspelled? = some key → ∃ x ∈ cases, x.key = key ∧ isFreeKey key = false := by
  induction cases generalizing keys values with
  | nil => exact .ok ()
  | cons c rest ih =>
    rw [checkCases_cons]
    refine .bind ((checkKey_fails keys c.key).mono ?_) fun _ _ =>
      .bind ((checkValue_fails values c.value).mono ?_) fun values' _ => (ih _ values').mono ?_
    · intro e he key hkey
      obtain ⟨rfl, hfree⟩ := he key hkey
      exact ⟨c, by simp, rfl, hfree⟩
    · intro e he key hkey
      rw [he] at hkey
      cases hkey
    · intro e he key hkey
      obtain ⟨x, hx, hfault⟩ := he key hkey
      exact ⟨x, by simp [hx], hfault⟩

namespace Entry

variable {e : Entry}

/-- The keys of an entry that passes the check are told apart and free. -/
theorem keys_of_check (h : e.check = .ok ()) :
    (e.cases.map Case.key).Nodup ∧ ∀ x ∈ e.cases, isFreeKey x.key = true := by
  rw [check] at h
  split at h
  · cases h
  · obtain ⟨hnodup, hall⟩ := checkCases_ensures [] [] e.cases () h
    exact ⟨hnodup, fun x hx => (hall x hx).2⟩

/-- No two values of an entry that passes the check collide. -/
theorem values_of_check (h : e.check = .ok ()) :
    e.cases.Pairwise fun x y => x.value ≠ .null → y.value ≠ .null →
      y.value.collides x.value = false := by
  rw [check] at h
  split at h
  · cases h
  · exact (checkCases_apart [] [] e.cases () h).1

theorem misspelled_of_check {fault : GenerateError} {key : String} (h : e.check = .error fault)
    (hkey : fault.misspelled? = some key) : ∃ x ∈ e.cases, x.key = key ∧ isFreeKey key = false := by
  rw [check] at h
  split at h
  · cases h
    cases hkey
  · exact checkCases_fails [] [] e.cases fault h key hkey

end Entry

end EnumExport
