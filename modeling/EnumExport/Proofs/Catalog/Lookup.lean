import EnumExport.Catalog.Basic
import EnumExport.Proofs.Class.Description

/-!
# Looking up members

The object of a class that passes the tests finds a member by its value, or by its name where the
class has no scalar kind: `EnumObject.Finds`.

The map that cases are looked up in is built by putting in one pair after the other, so it could
lose pairs. It does not, as the values are told apart (`ofList_places`), and then a lookup comes down
to the values one by one (`get?_places`).
-/

namespace EnumExport

/-! ## Places -/

/-- Values that can be looked up, as each is null or a scalar and no two are equal. -/
structure Lookable (values : List Value) : Prop where
  /-- each is null or a scalar -/
  scalar : ∀ v ∈ values, v = .null ∨ ∃ a, v.scalar? = some a
  /-- no two are equal unless they are null -/
  apart : values.Pairwise Value.Apart

/-- The values that are not null, each with its place. -/
def places (values : List Value) : List (Value × Nat) :=
  values.zipIdx.filter fun p => !p.1.isNull

theorem Value.isNull_eq_false {v : Value} : v.isNull = false ↔ v ≠ .null := by
  cases v <;> simp [isNull]

theorem mem_places {values : List Value} {v : Value} {i : Nat} :
    (v, i) ∈ places values ↔ values[i]? = some v ∧ v ≠ .null := by
  rw [places, List.mem_filter, List.mem_zipIdx_iff_getElem?]
  simp [Value.isNull_eq_false]

theorem keys_places (values : List Value) :
    Assoc.keys (places values) = values.filter fun v => !v.isNull := by
  rw [places, Assoc.keys, ← List.zipIdx_map_fst 0 values, List.filter_map]
  simp [Function.comp_def]

namespace Lookable

variable {values : List Value} (h : Lookable values)
include h

/-- No pair is lost when the map is built. -/
theorem ofList_places : Assoc.ofList (places values) = places values := by
  refine Assoc.ofList_of_distinct ?_
  have hpairs : (places values).Pairwise fun p q => Value.Apart p.1 q.1 := by
    have hzip : (values.zipIdx.map Prod.fst).Pairwise Value.Apart := by
      rw [List.zipIdx_map_fst]
      exact h.apart
    exact (List.pairwise_map.mp hzip).filter _
  refine hpairs.imp_of_mem ?_
  rintro ⟨v, i⟩ ⟨w, j⟩ hv hw hapart
  exact (hapart (mem_places.mp hv).2 (mem_places.mp hw).2).1

/-- Two places whose values count as the same are one place. -/
theorem place_unique {i j : Nat} {v w : Value} {a : Scalar} (hi : values[i]? = some v)
    (hj : values[j]? = some w) (hv : v.scalar? = some a) (hw : w.scalar? = some a) : i = j := by
  -- neither place comes first, as the value at the later one differs from all before
  have hnever : ∀ {i j : Nat} {v w : Value}, values[i]? = some v → values[j]? = some w →
      v.scalar? = some a → w.scalar? = some a → ¬ i < j := by
    intro i j v w hi hj hv hw hlt
    obtain ⟨hilt, rfl⟩ := List.getElem?_eq_some_iff.mp hi
    obtain ⟨hjlt, rfl⟩ := List.getElem?_eq_some_iff.mp hj
    have hne := (List.pairwise_iff_getElem.mp h.apart i j hilt hjlt hlt
      (Value.ne_null_of_scalar hv) (Value.ne_null_of_scalar hw)).1
    rw [Value.same_of_scalar hv hw] at hne
    exact of_decide_eq_false hne rfl
  exact Nat.le_antisymm (Nat.not_lt.mp (hnever hj hi hw hv)) (Nat.not_lt.mp (hnever hi hj hv hw))

/-- What is found of a scalar counts as the same. -/
theorem scalar_of_get? {x : Value} {a : Scalar} (hx : x.scalar? = some a) {i : Nat}
    (hi : Assoc.get? x (places values) = some i) :
    ∃ v, values[i]? = some v ∧ v.scalar? = some a := by
  obtain ⟨⟨v, j⟩, hmem, hsame, rfl⟩ := Assoc.mem_of_get? hi
  obtain ⟨hv, hnull⟩ := mem_places.mp hmem
  obtain ⟨b, hb⟩ := (h.scalar v (List.mem_of_getElem? hv)).resolve_left hnull
  have hsame : v.same x = true := hsame
  rw [Value.same_of_scalar hb hx] at hsame
  exact ⟨v, hv, by rw [hb, of_decide_eq_true hsame]⟩

/-- A lookup of a scalar finds the one place whose value counts as the same. -/
theorem get?_places {x : Value} {a : Scalar} (hx : x.scalar? = some a) {i : Nat} :
    Assoc.get? x (places values) = some i ↔ ∃ v, values[i]? = some v ∧ v.scalar? = some a := by
  constructor
  · exact h.scalar_of_get? hx
  · rintro ⟨v, hv, ha⟩
    have hmem : (v, i) ∈ places values := mem_places.mpr ⟨hv, Value.ne_null_of_scalar ha⟩
    have hsame : (v == x) = true := (Value.same_of_scalar ha hx).trans (decide_eq_true rfl)
    obtain ⟨j, hj⟩ := Assoc.exists_get?_of_mem hmem hsame
    obtain ⟨w, hw, hwa⟩ := h.scalar_of_get? hx hj
    rw [hj, h.place_unique hw hv hwa ha]

end Lookable

/-! ## The map of an object -/

/-- What a member is looked up by: its value, or its name where the class has no scalar kind. -/
def ClassDef.lookupValue (c : ClassDef) (m : Member) : Value :=
  if c.backing.isSome then m.value else .text m.name

theorem BackingKind.ofValue?_iff {v : Value} (k : Option BackingKind) :
    ofValue? v = some (k.getD .string) ↔
      (!v.isBool && match k with
        | some .int => v.isInteger
        | _ => v.isText) = true := by
  have hexclusive : v.isText = true → v.isInteger = false := by
    intro htext
    obtain ⟨s, hs⟩ := Option.isSome_iff_exists.mp htext
    rw [Value.isInteger, Value.asInt?_of_asText? hs]
    rfl
  rw [ofValue?]
  cases v.isBool <;> cases htext : v.isText <;> cases hint : v.isInteger <;>
    rcases k with _ | _ | _ <;> simp_all

namespace EnumObject

theorem placesByKey_eq (cases : List Case) :
    placesByKey cases = Assoc.ofList (places (cases.map fun x => .text x.key)) := by
  have hall : places (cases.map fun x => .text x.key) =
      cases.zipIdx.map fun p => (.text p.1.key, p.2) := by
    rw [places, List.zipIdx_map, List.filter_eq_self.mpr]
    · rfl
    · intro p hp
      obtain ⟨q, -, rfl⟩ := List.mem_map.mp hp
      rfl
  rw [hall]
  rfl

/-- Keys that are told apart can be looked up. -/
theorem lookable_keys {cases : List Case} (h : (cases.map Case.key).Nodup) :
    Lookable (cases.map fun x => .text x.key) := by
  refine ⟨?_, ?_⟩
  · intro v hv
    obtain ⟨x, -, rfl⟩ := List.mem_map.mp hv
    exact .inr ⟨.text x.key, rfl⟩
  · refine List.pairwise_map.mpr ((List.pairwise_map.mp h).imp ?_)
    intro x y hne _ _
    rw [Value.same_text, Value.same_text]
    exact ⟨beq_false_of_ne hne, beq_false_of_ne hne.symm⟩

theorem placesByValue_eq {cases : List Case} (h : Lookable (cases.map Case.value)) :
    placesByValue cases = Assoc.ofList (places (cases.map Case.value)) := by
  rw [places, List.zipIdx_map, List.filter_map]
  unfold placesByValue
  refine congrArg Assoc.ofList ((congrArg (List.map _) (List.filter_congr fun p _ => ?_)).trans
    (List.map_congr_left fun p hp => ?_))
  · obtain ⟨x, i⟩ := p
    cases hv : x.value <;> simp [hv, Value.isNull]
  · have hmem : p.1.value ∈ cases.map Case.value :=
      List.mem_map_of_mem (List.fst_mem_of_mem_zipIdx (List.mem_filter.mp hp).1)
    rcases h.scalar p.1.value hmem with hv | ⟨a, ha⟩
    · simp [hv, Value.isNull] at hp
    · exact congrArg (·, p.2) (Value.freeze_of_scalar ha)

/-- The object of an entry is made of the entry's parts, where the entry passes the check and no key
has the name of an attribute. -/
theorem ofEntry_eq {e : Entry} {o : EnumObject} (h : ofEntry e = .ok o) :
    e.check = .ok () ∧ clash? e.cases = none ∧
      o = { name := e.name, qualifiedName := e.qualifiedName, backing := e.backing
            entries := e.cases.map fun c => Record.ofFields c.fields
            labelsOf := e.cases.map Case.label
            options := e.choices.map fun c =>
              Record.ofFields (choiceFields (c.value, .text c.label))
            byKey := placesByKey e.cases
            byValue := if e.backing.isSome then placesByValue e.cases else [] } := by
  unfold ofEntry at h
  cases hcheck : e.check with
  | error err =>
    rw [hcheck] at h
    cases h
  | ok u =>
    rw [hcheck] at h
    cases hclash : clash? e.cases with
    | some key =>
      rw [hclash] at h
      cases h
    | none =>
      rw [hclash] at h
      cases h
      exact ⟨rfl, rfl, rfl⟩

theorem ofEntry_ok {e : Entry} {o : EnumObject} (h : ofEntry e = .ok o) :
    o.backing = e.backing ∧ o.entries = (e.cases.map fun x => Record.ofFields x.fields) ∧
      o.byKey = placesByKey e.cases ∧
      o.byValue = if e.backing.isSome then placesByValue e.cases else [] := by
  obtain ⟨-, -, rfl⟩ := ofEntry_eq h
  exact ⟨rfl, rfl, rfl, rfl⟩

theorem values_eq_keys (o : EnumObject) : o.values = Assoc.keys o.lookup := by
  rw [values, lookup]
  split <;> rfl

section Described

variable {c : ClassDef} {r : LabelResolver} {locale : Value} {entry : Entry} {o : EnumObject}

/-- Without a scalar kind, members are looked up by the keys of the cases. -/
theorem lookupValues_of_none (h : c.Describes r locale entry) (hk : c.backing = none) :
    c.members.map c.lookupValue = entry.cases.map fun x => .text x.key := by
  have hkeys : (entry.cases.map fun x => Value.text x.key) =
      (entry.cases.map Case.key).map Value.text := by
    rw [List.map_map]
    rfl
  rw [hkeys, h.keys, List.map_map]
  exact List.map_congr_left fun m _ => by rw [ClassDef.lookupValue, hk]; rfl

/-- With a scalar kind, members are looked up by the values of the cases. -/
theorem lookupValues_of_some {k : BackingKind} (h : c.Describes r locale entry)
    (hk : c.backing = some k) : c.members.map c.lookupValue = entry.cases.map Case.value := by
  rw [h.values]
  exact List.map_congr_left fun m _ => by rw [ClassDef.lookupValue, ClassDef.scalarOf, hk]; rfl

/-- The members of a described class can be looked up. -/
theorem lookable_of_describes (h : c.Describes r locale entry) :
    Lookable (c.members.map c.lookupValue) := by
  cases hk : c.backing with
  | none =>
    rw [lookupValues_of_none h hk]
    exact lookable_keys h.distinct
  | some k =>
    rw [lookupValues_of_some h hk]
    refine ⟨?_, h.apart⟩
    intro v hv
    obtain ⟨x, hx, rfl⟩ := List.mem_map.mp hv
    exact (h.backed k (h.backing.trans hk) x hx).imp_right BackingKind.scalar?_of_ofValue?

/-- The map of the object holds what members are looked up by, each with its place. -/
theorem lookup_of_describes (h : c.Describes r locale entry) (ho : ofEntry entry = .ok o) :
    o.lookup = places (c.members.map c.lookupValue) := by
  have hlookable := lookable_of_describes h
  obtain ⟨hbacking, -, hkeys, hvalues⟩ := ofEntry_ok ho
  rw [lookup, hbacking, hkeys, hvalues, h.backing, ← hlookable.ofList_places]
  cases hk : c.backing with
  | none =>
    rw [lookupValues_of_none h hk, ← placesByKey_eq]
    rfl
  | some k =>
    have hcases := lookupValues_of_some h hk
    rw [hcases, ← placesByValue_eq (hcases ▸ hlookable)]
    rfl

theorem kind_of_lookupValue (h : c.Describes r locale entry) {m : Member} (hm : m ∈ c.members)
    (hnull : c.lookupValue m ≠ .null) :
    BackingKind.ofValue? (c.lookupValue m) = some (c.backing.getD .string) := by
  cases hk : c.backing with
  | none =>
    rw [ClassDef.lookupValue, hk]
    rfl
  | some k =>
    have hmem := List.mem_map_of_mem (f := c.lookupValue) hm
    rw [lookupValues_of_some h hk] at hmem
    obtain ⟨x, hx, hxm⟩ := List.mem_map.mp hmem
    rw [← hxm] at hnull ⊢
    exact (h.backed k (h.backing.trans hk) x hx).resolve_left hnull

/-- A lookup in the object goes by kind and by what the members count as. -/
theorem find?_iff (h : c.Describes r locale entry) (ho : ofEntry entry = .ok o) {x : Value}
    {i : Nat} :
    o.find? x = some i ↔ BackingKind.ofValue? x = some (c.backing.getD .string) ∧
      ∃ m, c.members[i]? = some m ∧ c.lookupValue m ≠ .null ∧ (c.lookupValue m).same x = true := by
  have hlookable := lookable_of_describes h
  have hkind : o.matchesKind x = true ↔
      BackingKind.ofValue? x = some (c.backing.getD .string) := by
    rw [BackingKind.ofValue?_iff, ← h.backing, ← (ofEntry_ok ho).1]
    exact Iff.rfl
  rw [find?, lookup_of_describes h ho]
  split
  · next hmatches =>
    have hofvalue := hkind.mp hmatches
    obtain ⟨a, ha⟩ := BackingKind.scalar?_of_ofValue? hofvalue
    rw [hlookable.get?_places ha]
    constructor
    · rintro ⟨v, hv, hva⟩
      rw [List.getElem?_map] at hv
      obtain ⟨m, hm, rfl⟩ := Option.map_eq_some_iff.mp hv
      refine ⟨hofvalue, m, hm, Value.ne_null_of_scalar hva, ?_⟩
      exact (Value.same_of_scalar hva ha).trans (decide_eq_true rfl)
    · rintro ⟨-, m, hm, hnull, hsame⟩
      have hmem : c.lookupValue m ∈ c.members.map c.lookupValue :=
        List.mem_map_of_mem (List.mem_of_getElem? hm)
      obtain ⟨b, hb⟩ := (hlookable.scalar _ hmem).resolve_left hnull
      rw [Value.same_of_scalar hb ha] at hsame
      refine ⟨c.lookupValue m, ?_, by rw [hb, of_decide_eq_true hsame]⟩
      rw [List.getElem?_map, hm]
      rfl
  · next hmatches =>
    constructor
    · intro hnone
      cases hnone
    · rintro ⟨hofvalue, -⟩
      exact absurd (hkind.mpr hofvalue) hmatches

end Described

/-- What holds of the object of a class and its entry. A lookup answers the place of a record, and so
the record itself. -/
structure Finds (o : EnumObject) (c : ClassDef) (entry : Entry) : Prop where
  /-- the record at a place is that of the case there -/
  records : o.entries = entry.cases.map fun x => Record.ofFields x.fields
  /-- the case at a place is that of the member there -/
  cases : entry.cases.map Case.key = c.members.map Member.name
  /-- the values are those that members are looked up by, in order and without null -/
  values : o.values = (c.members.map c.lookupValue).filter fun v => !v.isNull
  /-- a member is found at its place by its value -/
  found : ∀ i m, c.members[i]? = some m → c.lookupValue m ≠ .null →
    o.find? (c.lookupValue m) = some i
  /-- a member without value is never found, and no other is found by anything but its value -/
  only : ∀ x i, o.find? x = some i →
    ∃ m, c.members[i]? = some m ∧ c.lookupValue m ≠ .null ∧ (c.lookupValue m).same x = true
  /-- valid is what is of the kind that is looked up, no truth value, and equal to the value of a
  member -/
  valid : ∀ x, o.isValid x = true ↔ BackingKind.ofValue? x = some (c.backing.getD .string) ∧
    ∃ m ∈ c.members, (c.lookupValue m).same x = true

/-- **Lookups of members.** The object of a class that passes the tests finds its members by their
values, or by their names where the class has no scalar kind: each of them at its place, and for no
other argument of any kind. -/
theorem finds_of_validated {known : List ClassDef} {d : ClassDecl} {c : ClassDef} {ms : Modules}
    {candidate : Candidate} {files : FileTree} {r : LabelResolver} {locale : Value}
    {qualifiedName : Option String} {entry : Entry} {o : EnumObject}
    (hc : ClassDef.ofDeclOver known d = .ok c) (hvalid : ms.validate candidate = .ok c)
    (hentry : (c.entry files r locale qualifiedName).2 = .ok entry)
    (ho : ofEntry entry = .ok o) : o.Finds c entry := by
  have h := ClassDef.describes_of_entry hc hvalid hentry
  refine ⟨(ofEntry_ok ho).2.1, h.keys, ?_, ?_, ?_, ?_⟩
  · rw [values_eq_keys, lookup_of_describes h ho, keys_places]
  · intro i m hm hnull
    have hkind := kind_of_lookupValue h (List.mem_of_getElem? hm) hnull
    obtain ⟨a, ha⟩ := BackingKind.scalar?_of_ofValue? hkind
    refine (find?_iff h ho).mpr ⟨hkind, m, hm, hnull, ?_⟩
    exact (Value.same_of_scalar ha ha).trans (decide_eq_true rfl)
  · intro x i hi
    exact ((find?_iff h ho).mp hi).2
  · intro x
    rw [isValid, Option.isSome_iff_exists]
    constructor
    · rintro ⟨i, hi⟩
      obtain ⟨hkind, m, hm, -, hsame⟩ := (find?_iff h ho).mp hi
      exact ⟨hkind, m, List.mem_of_getElem? hm, hsame⟩
    · rintro ⟨hkind, m, hm, hsame⟩
      obtain ⟨i, hi⟩ := List.mem_iff_getElem?.mp hm
      obtain ⟨a, ha⟩ := BackingKind.scalar?_of_ofValue? hkind
      refine ⟨i, (find?_iff h ho).mpr ⟨hkind, m, hi, ?_, hsame⟩⟩
      intro hnull
      rw [hnull, Value.null_same_of_scalar ha] at hsame
      cases hsame

/-- The object of the suit finds the hearts and not the member without value. -/
theorem finds_suit : ∃ (entry : Entry) (o : EnumObject),
    (suitClass.entry {} {} .null none).2 = .ok entry ∧ ofEntry entry = .ok o ∧
      o.values = [.text "H"] ∧ o.find? (.text "H") = some 0 := by
  have hvalid : Modules.validate [] (.class suitClass) = .ok suitClass := rfl
  obtain ⟨entry, hentry, hcases⟩ : ∃ entry, (suitClass.entry {} {} .null none).2 = .ok entry ∧
      ∃ o, ofEntry entry = .ok o := ⟨_, rfl, _, rfl⟩
  obtain ⟨o, ho⟩ := hcases
  have hfinds := finds_of_validated suit_built hvalid hentry ho
  have hnull : Value.text "H" ≠ .null := by simp
  exact ⟨entry, o, hentry, ho, hfinds.values, hfinds.found 0 ⟨"Hearts", .text "H"⟩ rfl hnull⟩

end EnumObject

end EnumExport
