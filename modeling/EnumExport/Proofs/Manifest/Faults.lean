import EnumExport.Proofs.Manifest.Check
import EnumExport.Proofs.Value.Scalar
import Mathlib.Data.List.Induction

/-!
# The first fault of an entry

What it takes for an entry to pass the check, said of all its cases at once, and what the check tells
of an entry that does not pass.

* `Entry.IsSound` is what the cases of an entry have to keep to; `Faults` says what is wrong with one
  case after those before it. An entry with cases is sound when there is nothing wrong with any of
  them: `isSound_iff`.
* The check carries the keys and the values of the cases it has been through, `Seen`. Each step tells
  what is wrong with its case or goes on: `checkCases_step`.
* So by induction on the cases left, the check tells a fault of the first case that has one, and ends
  well where there is none: `checkCases_tells`. `check_tells` says this of whole entries.
-/

namespace EnumExport

/-- Whether a case has the value of another one: of the same kind, and equal. Null is no value. -/
def Case.Repeats (c x : Case) : Prop :=
  c.value ≠ .null ∧ x.value ≠ .null ∧ c.value.sameKind x.value = true ∧ c.value.same x.value = true

/-- An entry whose cases can be told apart, by their keys and by their values. -/
structure Entry.IsSound (e : Entry) : Prop where
  /-- it has a case -/
  nonempty : e.cases ≠ []
  /-- no two keys are the same -/
  distinct : (e.cases.map Case.key).Nodup
  /-- every key is an identifier, and not a name of the generated object -/
  free : ∀ c ∈ e.cases, c.key ∉ reservedProperties ∧ Text.isIdentifier c.key = true
  /-- no case has the value of one before it -/
  apart : e.cases.Pairwise fun x c => ¬ c.Repeats x

/-- What is wrong with a case that comes after some others. -/
inductive Faults (before : List Case) (c : Case) : Rejection → Prop
  /-- its key is that of a case before it -/
  | duplicateKey (h : c.key ∈ before.map Case.key) : Faults before c (.duplicateKey c.key)
  /-- its key is a name of the generated object -/
  | reservedKey (h : c.key ∈ reservedProperties) : Faults before c (.reservedKey c.key)
  /-- its key is no identifier -/
  | notIdentifier (h : Text.isIdentifier c.key = false) : Faults before c (.notIdentifier c.key)
  /-- its value is that of a case before it -/
  | duplicateValue {x : Case} (hx : x ∈ before) (h : c.Repeats x) :
    Faults before c (.duplicateValue c.value)

/-- Nothing is wrong with any of some cases that come after some others. -/
def Faultless (before cases : List Case) : Prop :=
  ∀ front c rest, cases = front ++ c :: rest → ∀ r, ¬ Faults (before ++ front) c r

/-- What is wrong with the first of some cases with which anything is. -/
def IsFirstFault (before cases : List Case) (r : Rejection) : Prop :=
  ∃ front c rest, cases = front ++ c :: rest ∧ Faults (before ++ front) c r ∧
    Faultless before front

section Faultless

variable {before rest : List Case} {c : Case} {r : Rejection}

theorem faultless_nil (before : List Case) : Faultless before [] := by
  intro front c rest h
  simp at h

theorem faultless_cons : Faultless before (c :: rest) ↔
    (∀ r, ¬ Faults before c r) ∧ Faultless (before ++ [c]) rest := by
  constructor
  · intro h
    refine ⟨fun r => by simpa using h [] c rest rfl r, ?_⟩
    intro front x after hsplit r
    have hx := h (c :: front) x after (by rw [hsplit, List.cons_append]) r
    rwa [List.append_assoc]
  · rintro ⟨hc, hrest⟩ front x after hsplit r
    cases front with
    | nil =>
      obtain ⟨rfl, -⟩ := List.cons.inj hsplit
      simpa using hc r
    | cons y front =>
      obtain ⟨rfl, htail⟩ := List.cons.inj hsplit
      have hx := hrest front x after htail r
      rwa [List.append_assoc] at hx

theorem faultless_concat {cases : List Case} : Faultless before (cases ++ [c]) ↔
    Faultless before cases ∧ ∀ r, ¬ Faults (before ++ cases) c r := by
  induction cases generalizing before with
  | nil => simp [faultless_cons, faultless_nil]
  | cons x cases ih =>
    rw [List.cons_append, faultless_cons, faultless_cons, ih, and_assoc, List.append_assoc]
    rfl

theorem isFirstFault_of_head (h : Faults before c r) : IsFirstFault before (c :: rest) r :=
  ⟨[], c, rest, rfl, by simpa using h, faultless_nil before⟩

theorem IsFirstFault.cons (hc : ∀ r, ¬ Faults before c r)
    (h : IsFirstFault (before ++ [c]) rest r) : IsFirstFault before (c :: rest) r := by
  obtain ⟨front, x, after, rfl, hx, hfront⟩ := h
  refine ⟨c :: front, x, after, rfl, ?_, faultless_cons.mpr ⟨hc, hfront⟩⟩
  rwa [List.append_assoc] at hx

end Faultless

/-! ## Sound entries -/

section Sound

variable {before : List Case} {c : Case}

/-- Nothing is wrong with a case whose key and value are new and whose key is free. -/
theorem not_faults_iff : (∀ r, ¬ Faults before c r) ↔ c.key ∉ before.map Case.key ∧
    (c.key ∉ reservedProperties ∧ Text.isIdentifier c.key = true) ∧
      ∀ x ∈ before, ¬ c.Repeats x := by
  constructor
  · intro h
    refine ⟨fun hkey => h _ (.duplicateKey hkey), ⟨fun hkey => h _ (.reservedKey hkey), ?_⟩,
      fun x hx hvalue => h _ (.duplicateValue hx hvalue)⟩
    cases hkey : Text.isIdentifier c.key with
    | true => rfl
    | false => exact absurd (.notIdentifier hkey) (h _)
  · rintro ⟨hnew, ⟨hreserved, hidentifier⟩, hvalues⟩ r hr
    cases hr with
    | duplicateKey hkey => exact hnew hkey
    | reservedKey hkey => exact hreserved hkey
    | notIdentifier hkey =>
      rw [hidentifier] at hkey
      cases hkey
    | duplicateValue hx hvalue => exact hvalues _ hx hvalue

/-- What is asked of each case after those before it comes to what is asked of all cases. -/
theorem faultless_iff (cases : List Case) : Faultless [] cases ↔ (cases.map Case.key).Nodup ∧
    (∀ c ∈ cases, c.key ∉ reservedProperties ∧ Text.isIdentifier c.key = true) ∧
      cases.Pairwise fun x c => ¬ c.Repeats x := by
  induction cases using List.reverseRecOn with
  | nil => simp [faultless_nil]
  | append_singleton cases c ih =>
    have hdistinct : ((cases ++ [c]).map Case.key).Nodup ↔
        (cases.map Case.key).Nodup ∧ c.key ∉ cases.map Case.key := by
      rw [List.map_append, List.nodup_append]
      simp
    rw [faultless_concat, List.nil_append, ih, not_faults_iff, hdistinct, List.pairwise_append]
    simp only [List.mem_append, List.mem_singleton, or_imp, forall_and, forall_eq,
      List.pairwise_singleton, true_and]
    grind

/-- An entry is sound that has cases and nothing wrong with any of them. -/
theorem Entry.isSound_iff {e : Entry} : e.IsSound ↔ e.cases ≠ [] ∧ Faultless [] e.cases := by
  rw [faultless_iff]
  constructor
  · rintro ⟨hnonempty, hdistinct, hfree, hapart⟩
    exact ⟨hnonempty, hdistinct, hfree, hapart⟩
  · rintro ⟨hnonempty, hdistinct, hfree, hapart⟩
    exact ⟨hnonempty, hdistinct, hfree, hapart⟩

end Sound

/-! ## The check -/

/-- The keys and values of the cases that a check has been through. -/
structure Seen (before : List Case) (keys : List String) (values : List Value) : Prop where
  /-- the keys are theirs -/
  mem_keys : ∀ k, k ∈ keys ↔ k ∈ before.map Case.key
  /-- the values are theirs, null left out -/
  mem_values : ∀ v, v ∈ values ↔ v ≠ .null ∧ ∃ x ∈ before, x.value = v

theorem seen_nil : Seen [] [] [] := ⟨by simp, by simp⟩

section Check

variable {before : List Case} {keys : List String} {values : List Value} {c : Case}

theorem checkKey_tells (h : Seen before keys values) :
    (checkKey keys c.key = .ok () ∧ c.key ∉ before.map Case.key ∧
      c.key ∉ reservedProperties ∧ Text.isIdentifier c.key = true) ∨
    ∃ r, checkKey keys c.key = .error (.rejected r) ∧ Faults before c r := by
  have hkeys := h.mem_keys c.key
  rw [checkKey]
  split
  · next hkey => exact .inr ⟨_, rfl, .duplicateKey (hkeys.mp (List.contains_iff_mem.mp hkey))⟩
  · next hkey =>
    have hnew : c.key ∉ before.map Case.key := by
      rw [← hkeys]
      simpa using hkey
    split
    · next hreserved => exact .inr ⟨_, rfl, .reservedKey (List.contains_iff_mem.mp hreserved)⟩
    · next hreserved =>
      split
      · next hidentifier => exact .inr ⟨_, rfl, .notIdentifier (by simpa using hidentifier)⟩
      · next hidentifier =>
        exact .inl ⟨rfl, hnew, by simpa using hreserved, by simpa using hidentifier⟩

/-- A value that was there before is one of an earlier case. -/
theorem any_collides_iff (h : Seen before keys values) (hc : c.value ≠ .null) :
    (values.any fun w => c.value.collides w) = true ↔ ∃ x ∈ before, c.Repeats x := by
  simp only [List.any_eq_true, h.mem_values, Value.collides, Bool.and_eq_true, Case.Repeats]
  constructor
  · rintro ⟨_, ⟨hnull, x, hx, rfl⟩, hsame⟩
    exact ⟨x, hx, hc, hnull, hsame⟩
  · rintro ⟨x, hx, -, hnull, hsame⟩
    exact ⟨x.value, ⟨hnull, x, hx, rfl⟩, hsame⟩

theorem checkValue_tells (h : Seen before keys values)
    (hc : c.value = .null ∨ ∃ a, c.value.scalar? = some a) :
    (∃ values', checkValue values c.value = .ok values' ∧ (∀ x ∈ before, ¬ c.Repeats x) ∧
      ∀ v, v ∈ values' ↔ v ∈ values ∨ v ≠ .null ∧ c.value = v) ∨
    ∃ r, checkValue values c.value = .error (.rejected r) ∧ Faults before c r := by
  rcases hc with hnull | ⟨a, ha⟩
  · refine .inl ⟨values, by rw [hnull]; rfl, fun x _ hrepeats => hrepeats.1 hnull, fun v => ?_⟩
    refine (or_iff_left ?_).symm
    rintro ⟨hv, rfl⟩
    exact hv hnull
  · have hnull : c.value ≠ .null := Value.ne_null_of_scalar ha
    rw [checkValue_of_ne hnull, Value.unhashable?_of_scalar ha]
    dsimp only
    split
    · next hany =>
      obtain ⟨x, hx, hrepeats⟩ := (any_collides_iff h hnull).mp hany
      exact .inr ⟨_, rfl, .duplicateValue hx hrepeats⟩
    · next hany =>
      have hnew : ∀ x ∈ before, ¬ c.Repeats x := fun x hx hrepeats =>
        hany ((any_collides_iff h hnull).mpr ⟨x, hx, hrepeats⟩)
      refine .inl ⟨_, rfl, hnew, fun v => ?_⟩
      rw [List.mem_cons, or_comm, eq_comm]
      exact or_congr_right ⟨fun hv => ⟨hv ▸ hnull, hv⟩, And.right⟩

/-- One step of the check tells what is wrong with its case, or goes on with the next. -/
theorem checkCases_step (h : Seen before keys values)
    (hc : c.value = .null ∨ ∃ a, c.value.scalar? = some a) (rest : List Case) :
    (∃ r, Faults before c r ∧ checkCases keys values (c :: rest) = .error (.rejected r)) ∨
    (∀ r, ¬ Faults before c r) ∧ ∃ values', Seen (before ++ [c]) (c.key :: keys) values' ∧
      checkCases keys values (c :: rest) = checkCases (c.key :: keys) values' rest := by
  rw [checkCases_cons]
  rcases checkKey_tells h with ⟨hkey, hnew, hfree⟩ | ⟨r, hkey, hr⟩
  · rw [hkey, ok_bind]
    rcases checkValue_tells h hc with ⟨values', hvalue, hvalues, hmem⟩ | ⟨r, hvalue, hr⟩
    · rw [hvalue, ok_bind]
      have hc := not_faults_iff.mpr ⟨hnew, hfree, hvalues⟩
      refine .inr ⟨hc, values', ⟨fun k => ?_, fun v => ?_⟩, rfl⟩
      · simp [h.mem_keys, or_comm]
      · rw [hmem, h.mem_values]
        simp only [List.mem_append, List.mem_singleton, or_and_right, exists_or, exists_eq_left,
          and_or_left]
    · rw [hvalue]
      exact .inl ⟨r, hr, rfl⟩
  · rw [hkey]
    exact .inl ⟨r, hr, rfl⟩

/-- The check of some cases tells what is wrong with the first of them with which anything is. -/
theorem checkCases_tells {cases : List Case} (h : Seen before keys values)
    (hcases : ∀ c ∈ cases, c.value = .null ∨ ∃ a, c.value.scalar? = some a) :
    (Faultless before cases ∧ checkCases keys values cases = .ok ()) ∨
    ∃ r, IsFirstFault before cases r ∧ checkCases keys values cases = .error (.rejected r) := by
  induction cases generalizing before keys values with
  | nil => exact .inl ⟨faultless_nil before, rfl⟩
  | cons c rest ih =>
    rcases checkCases_step h (hcases c (by simp)) rest with
      ⟨r, hr, hcheck⟩ | ⟨hc, values', hseen, hcheck⟩
    · exact .inr ⟨r, isFirstFault_of_head hr, hcheck⟩
    · rw [hcheck]
      rcases ih hseen fun x hx => hcases x (by simp [hx]) with ⟨hrest, hok⟩ | ⟨r, hr, herror⟩
      · exact .inl ⟨faultless_cons.mpr ⟨hc, hrest⟩, hok⟩
      · exact .inr ⟨r, hr.cons hc, herror⟩

end Check

/-- **The check of an entry.** Where every value is null, a text, a whole number or a truth value, an
entry passes the check just when it has cases, their keys are told apart, identifiers and no names of
the generated object, and no case has the value of one before it. Any other entry is rejected: for
having no cases, or for what is wrong with the first of its cases with which, after those before it,
anything is. -/
theorem check_tells (e : Entry)
    (h : ∀ c ∈ e.cases, c.value = .null ∨ ∃ a, c.value.scalar? = some a) :
    (e.check = .ok () ↔ e.IsSound) ∧
    (¬ e.IsSound → ∃ r, e.check = .error (.rejected r) ∧ (e.cases = [] → r = .noCases) ∧
      (e.cases ≠ [] → IsFirstFault [] e.cases r)) := by
  rw [Entry.isSound_iff]
  by_cases hnil : e.cases = []
  · have hcheck : e.check = .error (.rejected .noCases) := by
      rw [Entry.check, hnil]
      rfl
    refine ⟨?_, fun _ => ⟨.noCases, hcheck, fun _ => rfl, fun hne => absurd hnil hne⟩⟩
    rw [hcheck]
    exact ⟨fun hok => absurd hok (by simp), fun hsound => absurd hnil hsound.1⟩
  · have hcheck : e.check = checkCases [] [] e.cases := by
      rw [Entry.check, if_neg]
      simpa using hnil
    rw [hcheck]
    rcases checkCases_tells seen_nil h with ⟨hall, hok⟩ | ⟨r, hr, herror⟩
    · exact ⟨⟨fun _ => ⟨hnil, hall⟩, fun _ => hok⟩, fun hnot => absurd ⟨hnil, hall⟩ hnot⟩
    · rw [herror]
      refine ⟨⟨fun hok => absurd hok (by simp), ?_⟩,
        fun _ => ⟨r, rfl, fun h => absurd h hnil, fun _ => hr⟩⟩
      -- where a case has a fault, the entry is not sound
      rintro ⟨-, hall⟩
      obtain ⟨front, c, rest, hsplit, hfault, -⟩ := hr
      exact absurd hfault (hall front c rest hsplit r)

/-- An entry with a whole number, a truth value equal to it, and two cases without a value. -/
def gauge : Entry where
  name := "Gauge"
  qualifiedName := "app.Gauge"
  backing := some .int
  cases := [⟨"One", .int 1, .text "One", [], []⟩, ⟨"Yes", .bool true, .text "Yes", [], []⟩,
    ⟨"Off", .null, .text "Off", [], []⟩, ⟨"Idle", .null, .text "Idle", [], []⟩]
  choices := []

/-- The same with another case for the number, and a key that is no identifier behind it. -/
def crowdedGauge : Entry :=
  { gauge with cases := gauge.cases ++
      [⟨"Uno", .int 1, .text "Uno", [], []⟩, ⟨"1st", .int 7, .text "First", [], []⟩] }

/-- A truth value and a number are of two kinds; the second number one is the first fault. -/
theorem check_tells_gauge : gauge.IsSound ∧
    crowdedGauge.check = .error (.rejected (.duplicateValue (.int 1))) ∧
    IsFirstFault [] crowdedGauge.cases (.duplicateValue (.int 1)) := by
  have hgauge := check_tells gauge (by
    intro c hc
    simp only [gauge, List.mem_cons, List.not_mem_nil, or_false] at hc
    rcases hc with rfl | rfl | rfl | rfl
    · exact .inr ⟨_, rfl⟩
    · exact .inr ⟨_, rfl⟩
    · exact .inl rfl
    · exact .inl rfl)
  have hcrowded := check_tells crowdedGauge (by
    intro c hc
    simp only [crowdedGauge, gauge, List.cons_append, List.nil_append, List.mem_cons,
      List.not_mem_nil, or_false] at hc
    rcases hc with rfl | rfl | rfl | rfl | rfl | rfl
    · exact .inr ⟨_, rfl⟩
    · exact .inr ⟨_, rfl⟩
    · exact .inl rfl
    · exact .inl rfl
    · exact .inr ⟨_, rfl⟩
    · exact .inr ⟨_, rfl⟩)
  have hunsound : ¬ crowdedGauge.IsSound := by
    intro hsound
    have hfree := hsound.free ⟨"1st", .int 7, .text "First", [], []⟩ (by simp [crowdedGauge])
    exact absurd hfree.2 (by decide)
  have hkeys : ∀ k ∈ ["One", "Yes", "Off", "Idle", "Uno"],
      k ∉ reservedProperties ∧ Text.isIdentifier k = true := by decide +kernel
  have hkind : (Value.bool true).collides (.int 1) = false := by decide +kernel
  have hsame : (Value.int 1).collides (.int 1) = true := by decide +kernel
  have hcheck : crowdedGauge.check = .error (.rejected (.duplicateValue (.int 1))) := by
    simp [Entry.check, crowdedGauge, gauge, checkCases, Value.unhashable?, hkeys, hkind, hsame]
  obtain ⟨r, hr, -, hfirst⟩ := hcrowded.2 hunsound
  rw [hcheck] at hr
  obtain rfl := GenerateError.rejected.inj (Except.error.inj hr)
  exact ⟨hgauge.1.mp rfl, hcheck, hfirst (by simp [crowdedGauge, gauge])⟩

end EnumExport
