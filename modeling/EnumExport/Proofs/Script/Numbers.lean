import EnumExport.Proofs.Catalog.Lookup
import EnumExport.Proofs.Number.Rounding
import EnumExport.Proofs.Script.Alternatives
import Mathlib.Data.List.Perm.Subperm

/-!
# Whole numbers as keys of a script

A script knows no whole numbers of their own: it reads the literal of one as the nearest double. So
values that are told apart here may be one and the same there. This is about the map by which a
script looks cases up by whole numbers.

* `numberOf?` is the number that a script reads a literal as, and `numberPlaces` the map that it
  builds from the records of the cases.
* The map has a record for each case with a value just where no two values have the same double, as
  is so where all of them are doubles: `numbers_differ_iff`. The object that is built here always has
  one.
* Beyond 53 bits it need not be so: `big_numbers_agree`.
-/

namespace EnumExport

/-- Of the pairs that a map is built of, none is lost just where no key occurs twice. -/
theorem Assoc.length_ofList_eq_iff {α β : Type} [BEq α] [LawfulBEq α] (pairs : List (α × β)) :
    (ofList pairs).length = pairs.length ↔ (keys pairs).Nodup := by
  constructor
  · intro hlength
    have hsub : keys (ofList pairs) ⊆ keys pairs := by
      intro k hk
      rwa [keys_ofList, List.mem_eraseDups] at hk
    have hle : (keys pairs).length ≤ (keys (ofList pairs)).length := by
      rw [keys, keys, List.length_map, List.length_map]
      exact Nat.le_of_eq hlength.symm
    have hperm := (List.subperm_of_subset (nodup_keys_ofList pairs) hsub).perm_of_length_le hle
    exact hperm.nodup_iff.mp (nodup_keys_ofList pairs)
  · intro hnodup
    have hdistinct : pairs.Pairwise fun p q => (p.1 == q.1) = false :=
      (List.pairwise_map.mp hnodup).imp fun hne => beq_false_of_ne hne
    rw [ofList_of_distinct hdistinct]

/-! ## Entries of whole numbers -/

/-- The values of an entry are whole numbers, as far as there are any. -/
def Entry.HoldsIntegers (e : Entry) : Prop :=
  ∀ x ∈ e.cases, x.value = .null ∨ ∃ i, x.value = .int i

/-- The whole numbers that are values of an entry, in order. -/
def Entry.integers (e : Entry) : List Int := e.cases.filterMap fun x => x.value.asInt?

theorem Value.eq_int_of_asInt? {v : Value} {i : Int} (hv : v = .null ∨ ∃ j, v = .int j)
    (hi : v.asInt? = some i) : v = .int i := by
  rcases hv with rfl | ⟨j, rfl⟩ <;> cases hi
  rfl

theorem Value.same_int (i j : Int) : same (.int i) (.int j) = decide (i = j) := by
  have hsame : same (.int i) (.int j) = decide (Scalar.number i = .number j) :=
    same_of_scalar rfl rfl
  simp [hsame]

theorem Value.collides_int (i j : Int) : collides (.int i) (.int j) = decide (i = j) := by
  rw [collides, same_int]
  rfl

/-- The values of an entry of whole numbers that passes the check can be looked up. -/
theorem Entry.lookable_of_check {e : Entry} (hvalues : e.HoldsIntegers) (hcheck : e.check = .ok ()) :
    Lookable (e.cases.map Case.value) where
  scalar := by
    intro v hv
    obtain ⟨x, hx, rfl⟩ := List.mem_map.mp hv
    rcases hvalues x hx with hnull | ⟨i, hi⟩
    · exact .inl hnull
    · exact .inr ⟨.number i, by rw [hi]; rfl⟩
  apart := by
    refine List.pairwise_map.mpr ((values_of_check hcheck).imp_of_mem ?_)
    intro x y hx hy hxy hxnull hynull
    have hne := hxy hxnull hynull
    obtain ⟨i, hi⟩ := (hvalues x hx).resolve_left hxnull
    obtain ⟨j, hj⟩ := (hvalues y hy).resolve_left hynull
    rw [hi, hj, Value.collides_int] at hne
    rw [hi, hj, Value.same_int, Value.same_int]
    have hji : j ≠ i := of_decide_eq_false hne
    exact ⟨decide_eq_false hji.symm, decide_eq_false hji⟩

namespace Script

/-- The number that a script reads a literal of a whole number as: the nearest double. -/
def numberOf? (text : String) : Option Binary64 :=
  (Notation.intOf? text.toList).map Binary64.ofInt

/-- The number that a script reads as the value of a record; there is none where the value is null. -/
def recordNumber? (row : List Property) : Option Binary64 :=
  (row.find? fun p => p.name == "value").bind fun p => numberOf? p.value.render

/-- The records with a value, by the numbers that their values are: the place of each. -/
def numberPairs (rows : List (List Property)) : List (Binary64 × Nat) :=
  rows.zipIdx.filterMap fun p => (recordNumber? p.1).map fun x => (x, p.2)

/-- The map that a script builds from the records of the cases. Its keys are the same where the numbers
are, which are then the same data: `Binary64.ofInt_same_iff`. -/
def numberPlaces (rows : List (List Property)) : List (Binary64 × Nat) :=
  Assoc.ofList (numberPairs rows)

theorem literal_int (i : Int) : literal (.int i) = .ok (toString i) := by
  rw [literal_of_literalExpr (show literalExpr (.int i) = .ok (.json (.int i)) from rfl),
    Expr.render, Json.render, Json.chars, String.ofList_toList]

theorem numberOf?_toString (i : Int) : numberOf? (toString i) = some (Binary64.ofInt i) := by
  rw [numberOf?, Notation.intOf?_toString]
  rfl

theorem numberOf?_literal {v : Value} {e : Expr} (hv : v = .null ∨ ∃ i, v = .int i)
    (he : literalExpr v = .ok e) : numberOf? e.render = v.asInt?.map Binary64.ofInt := by
  rcases hv with rfl | ⟨i, rfl⟩
  · cases he
    rfl
  · have hliteral := literal_of_literalExpr he
    rw [literal_int] at hliteral
    rw [← Except.ok.inj hliteral, numberOf?_toString]
    rfl

theorem recordNumber?_of_caseProperties {x : Case} (hx : x.value = .null ∨ ∃ i, x.value = .int i) :
    Ensures (caseProperties x) fun row =>
      recordNumber? row = x.value.asInt?.map Binary64.ofInt := by
  refine .bind fun value hvalue => .bind fun data _ => .bind fun extra _ => .pure ?_
  exact numberOf?_literal hx hvalue

theorem keys_numberPairs (rows : List (List Property)) :
    Assoc.keys (numberPairs rows) = rows.filterMap recordNumber? := by
  have hfst : ∀ p : List Property × Nat,
      ((recordNumber? p.1).map fun x => (x, p.2)).map Prod.fst = recordNumber? p.1 := by
    intro p
    cases recordNumber? p.1 <;> rfl
  have hrows : rows.zipIdx.map Prod.fst = rows := List.zipIdx_map_fst 0 rows
  rw [Assoc.keys, numberPairs, List.map_filterMap, ← congrArg (List.filterMap recordNumber?) hrows,
    List.filterMap_map]
  exact congrArg (List.filterMap · rows.zipIdx) (funext hfst)

theorem length_numberPlaces (rows : List (List Property)) :
    (numberPlaces rows).length = (rows.filterMap recordNumber?).eraseDups.length := by
  rw [← keys_numberPairs, ← Assoc.keys_ofList]
  exact (List.length_map _).symm

/-- The map of a script has a record for each number just where no two numbers are the same. -/
theorem length_numberPlaces_iff (rows : List (List Property)) :
    (numberPlaces rows).length = (rows.filterMap recordNumber?).length ↔
      (rows.filterMap recordNumber?).Nodup := by
  have hiff := Assoc.length_ofList_eq_iff (numberPairs rows)
  have hlength := congrArg List.length (keys_numberPairs rows)
  rw [Assoc.keys, List.length_map] at hlength
  rwa [keys_numberPairs, hlength] at hiff

theorem presentValues_of_integers {cases : List Case}
    (h : ∀ x ∈ cases, x.value = .null ∨ ∃ i, x.value = .int i) :
    presentValues cases = (cases.filterMap fun x => x.value.asInt?).map .int := by
  induction cases with
  | nil => rfl
  | cons x cases ih =>
    have hrest := ih fun y hy => h y (by simp [hy])
    rw [presentValues] at hrest ⊢
    rcases h x (by simp) with hnull | ⟨i, hi⟩
    · rw [List.map_cons, List.filterMap_cons, hnull]
      exact hrest
    · rw [List.map_cons, List.filterMap_cons, hi]
      exact congrArg (Value.int i :: ·) hrest

section Entries

variable {entry : Entry} (hvalues : entry.HoldsIntegers)
include hvalues

/-- The whole numbers of an entry that passes the check are told apart. -/
theorem integers_nodup (hcheck : entry.check = .ok ()) : entry.integers.Nodup := by
  have hapart := List.pairwise_map.mp (Entry.lookable_of_check hvalues hcheck).apart
  refine List.pairwise_filterMap.mpr (hapart.imp_of_mem ?_)
  rintro x y hx hy hxy i hi j hj rfl
  have hi := Value.eq_int_of_asInt? (hvalues x hx) hi
  have hj := Value.eq_int_of_asInt? (hvalues y hy) hj
  have hne := (hxy (by simp [hi]) (by simp [hj])).1
  rw [hi, hj, Value.same_int] at hne
  exact of_decide_eq_false hne rfl

/-- The records of a module hold the doubles of the values. -/
theorem numbers_of_moduleItems {name : String} (options : Options) {items : List Item}
    (h : moduleItems name entry { options with strategy := .inline } = .ok items) :
    ∃ rows, .records "ENTRIES" rows ∈ items ∧
      rows.filterMap recordNumber? = entry.integers.map Binary64.ofInt := by
  obtain ⟨types, entries, collections, object, -, hentries, -, -, rfl⟩ := parts_of_moduleItems h
  obtain ⟨rows, hrows, hentries⟩ := exists_of_bind_ok hentries
  cases hentries
  have hnumbers := Ensures.mapM (fun x hx => recordNumber?_of_caseProperties (hvalues x hx)) rows hrows
  refine ⟨rows, by simp, ?_⟩
  calc rows.filterMap recordNumber? = (rows.map recordNumber?).filterMap id := by
        rw [List.filterMap_map]
        rfl
    _ = (entry.cases.map fun x => x.value.asInt?.map Binary64.ofInt).filterMap id := by
        rw [hnumbers]
    _ = entry.integers.map Binary64.ofInt := by
        rw [List.filterMap_map, Entry.integers, List.map_filterMap]
        rfl

/-- The object of an entry has a place for each value. -/
theorem length_byValue (hbacking : entry.backing = some .int) {o : EnumObject}
    (ho : EnumObject.ofEntry entry = .ok o) : o.byValue.length = entry.integers.length := by
  obtain ⟨hcheck, -, rfl⟩ := EnumObject.ofEntry_eq ho
  have hlookable := Entry.lookable_of_check hvalues hcheck
  have hkeys : Assoc.keys (places (entry.cases.map Case.value)) = entry.integers.map .int := by
    rw [keys_places, Entry.integers, ← presentValues_of_integers hvalues, presentValues]
    exact List.filter_congr fun v _ => by cases v <;> rfl
  have hlength := congrArg List.length hkeys
  rw [Assoc.keys, List.length_map, List.length_map] at hlength
  dsimp only
  rw [hbacking, EnumObject.placesByValue_eq hlookable, hlookable.ofList_places]
  exact hlength

end Entries

/-- Whole numbers that are doubles have doubles of their own. -/
theorem nodup_numbers {ints : List Int} (hnodup : ints.Nodup)
    (h : ∀ i ∈ ints, (Binary64.ofInt i).toInt? = some i) : (ints.map Binary64.ofInt).Nodup := by
  refine List.pairwise_map.mpr (hnodup.imp_of_mem ?_)
  intro i j hi hj hne heq
  have hsame : some i = some j := by rw [← h i hi, ← h j hj, heq]
  exact hne (Option.some.inj hsame)

/-- **Whole numbers as keys.** The literals of the values of a well-formed entry of whole numbers are
their digits, which a script reads as the nearest doubles. So the map of a module that builds its
object itself has a record for each case with a value, as the object that is built here has, just
where no two values have the same double; and so it is where all values are doubles, as those of up to
53 bits are. -/
theorem numbers_differ_iff {entry : Entry} (hbacking : entry.backing = some .int)
    (hvalues : entry.HoldsIntegers) (hcheck : entry.check = .ok ()) :
    entry.integers.Nodup ∧ presentValues entry.cases = entry.integers.map .int ∧
    (∀ i ∈ entry.integers, literal (.int i) = .ok (toString i) ∧
      numberOf? (toString i) = some (Binary64.ofInt i)) ∧
    (∀ o, EnumObject.ofEntry entry = .ok o → o.byValue.length = entry.integers.length) ∧
    (∀ (name : String) (options : Options) (items : List Item),
      moduleItems name entry { options with strategy := .inline } = .ok items → ∃ rows,
        .records "ENTRIES" rows ∈ items ∧
        ((numberPlaces rows).length = entry.integers.length ↔
          (entry.integers.map Binary64.ofInt).Nodup)) ∧
    ((∀ i ∈ entry.integers, (Binary64.ofInt i).toInt? = some i) →
      (entry.integers.map Binary64.ofInt).Nodup) ∧
    ((∀ i ∈ entry.integers, i.natAbs ≤ 2 ^ 53) → (entry.integers.map Binary64.ofInt).Nodup) := by
  have hnodup := integers_nodup hvalues hcheck
  refine ⟨hnodup, presentValues_of_integers hvalues,
    fun i _ => ⟨literal_int i, numberOf?_toString i⟩,
    fun o ho => length_byValue hvalues hbacking ho, ?_, nodup_numbers hnodup, ?_⟩
  · intro name options items hitems
    obtain ⟨rows, hrows, hnumbers⟩ := numbers_of_moduleItems hvalues options hitems
    have hiff := length_numberPlaces_iff rows
    rw [hnumbers, List.length_map] at hiff
    exact ⟨rows, hrows, hiff⟩
  · intro hsmall
    exact nodup_numbers hnodup fun i hi => Binary64.toInt?_ofInt_of_le (hsmall i hi)

/-! ## Two whole numbers of one double -/

/-- An entry whose values are the whole numbers around which doubles begin to be even. -/
def big : Entry where
  name := "Big"
  qualifiedName := "app.Big"
  backing := some .int
  cases :=
    [{ key := "A", value := .int 9007199254740992, label := .text "A", data := [], extra := [] },
     { key := "B", value := .int 9007199254740993, label := .text "B", data := [], extra := [] }]
  choices := [⟨.int 9007199254740992, "A"⟩, ⟨.int 9007199254740993, "B"⟩]

theorem big_holdsIntegers : big.HoldsIntegers := by
  simp [Entry.HoldsIntegers, big]

theorem big_check : big.check = .ok () := by
  have hspelling : ∀ key ∈ ["A", "B"], Text.isIdentifier key = true := by decide
  have hvalue : Value.collides (.int 9007199254740993) (.int 9007199254740992) = false := by
    rw [Value.collides_int]
    decide
  simp [Entry.check, big, checkCases, reservedProperties, hspelling, hvalue, Value.unhashable?]

theorem big_isPlain : big.IsPlain where
  cases := by
    intro c hc
    simp only [big, List.mem_cons, List.not_mem_nil, or_false] at hc
    rcases hc with rfl | rfl <;> exact ⟨rfl, rfl, rfl, by simp, by simp⟩
  choices := by
    intro c hc
    simp only [big, List.mem_cons, List.not_mem_nil, or_false] at hc
    rcases hc with rfl | rfl <;> rfl

theorem big_moduleItems : ∃ items, moduleItems "Big" big {} = .ok items :=
  moduleItems_isOk (isWritable_of_isPlain big_check big_isPlain) "Big" {}

theorem numbers_differ_big : big.integers.Nodup ∧ ∃ items rows,
    moduleItems "Big" big {} = .ok items ∧ .records "ENTRIES" rows ∈ items ∧
    ((numberPlaces rows).length = 2 ↔
      [Binary64.ofInt 9007199254740992, Binary64.ofInt 9007199254740993].Nodup) := by
  obtain ⟨items, hitems⟩ := big_moduleItems
  obtain ⟨hnodup, -, -, -, hmodule, -⟩ := numbers_differ_iff rfl big_holdsIntegers big_check
  obtain ⟨rows, hrows, hiff⟩ := hmodule "Big" {} items hitems
  exact ⟨hnodup, items, rows, hitems, hrows, hiff⟩

/-- Both values are read as the same number, so the map of the script has one record for the two
cases, and the object that is built here has two. -/
theorem big_numbers_agree : big.check = .ok () ∧
    numberOf? "9007199254740992" = numberOf? "9007199254740993" ∧
    ∃ items rows o, moduleItems "Big" big {} = .ok items ∧ .records "ENTRIES" rows ∈ items ∧
      (numberPlaces rows).length = 1 ∧ EnumObject.ofEntry big = .ok o ∧ o.byValue.length = 2 := by
  have hsame : Binary64.ofInt 9007199254740992 = Binary64.ofInt 9007199254740993 := by
    decide +kernel
  have hliterals : numberOf? "9007199254740992" = numberOf? "9007199254740993" :=
    (numberOf?_toString 9007199254740992).trans
      ((congrArg some hsame).trans (numberOf?_toString 9007199254740993).symm)
  obtain ⟨items, hitems⟩ := big_moduleItems
  obtain ⟨rows, hrows, hnumbers⟩ := numbers_of_moduleItems big_holdsIntegers {} hitems
  obtain ⟨o, ho⟩ : ∃ o, EnumObject.ofEntry big = .ok o := by
    rw [EnumObject.ofEntry, big_check]
    exact ⟨_, rfl⟩
  refine ⟨big_check, hliterals, items, rows, o, hitems, hrows, ?_, ho,
    length_byValue big_holdsIntegers rfl ho⟩
  have hints : big.integers = [9007199254740992, 9007199254740993] := rfl
  rw [length_numberPlaces, hnumbers, hints, List.map_cons, List.map_cons, hsame]
  simp [List.eraseDups_cons]

end Script

end EnumExport
