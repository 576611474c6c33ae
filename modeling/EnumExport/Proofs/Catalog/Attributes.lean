import EnumExport.Proofs.Catalog.Lookup
import EnumExport.Proofs.Manifest.Check

/-!
# Attributes and keys

What the object of an entry answers when it is asked for a case by its key, and when it is asked for
an attribute. The records of the cases stand among the attributes that every object has, so an
attribute of that name could be hidden by one. None is:

* the keys are told apart and keep clear of all names in `EnumObject.parts`, as the entry has
  passed the check and no key clashes (`keys_of_ofEntry`);
* so an attribute is either a part of the object or the record of the case of that key
  (`attribute?_iff`), and a key leads to its own case alone (`findKey?_iff`).

The values of the cases play no part in this: `EnumObject.answers_of_entry`.
-/

namespace EnumExport

/-! ## The core fields of a record -/

/-- The record of a case holds the key of the case, whatever its further properties are. -/
theorem Record.item?_key (x : Case) : (Record.ofFields x.fields).item? "key" = some (.text x.key) := by
  obtain ⟨more, hmore, -⟩ := Assoc.exists_foldl_putNew x.extra [(.text "key", .text x.key),
    (.text "value", x.value), (.text "label", x.label.toValue), (.text "meta", .map x.data)]
  have hfields : x.fields = (.text "key", .text x.key) :: (.text "value", x.value) ::
      (.text "label", x.label.toValue) :: (.text "meta", .map x.data) :: more := hmore
  rw [Record.item?, Record.ofFields, hfields, Value.freezePairs, Value.field?, Assoc.get?,
    Value.beq_eq_same, Value.same_text]
  rfl

namespace EnumObject

/-! ## The parts of an object -/

/-- The values that an object holds besides the records of its cases, by the names of their
attributes. -/
def fields (o : EnumObject) : List (String × Attribute) :=
  [("name", .text o.name), ("qualified_name", .text o.qualifiedName),
    ("backing_kind", .kind o.backing), ("count", .number o.count), ("entries", .records o.entries),
    ("options", .records o.options), ("_keys", .row o.keys), ("_values", .row o.values),
    ("_by_key", .places o.byKey), ("_lookup", .places o.lookup)]

/-- The attributes that an object has besides the records of its cases, by name. -/
def parts (o : EnumObject) : List (String × Attribute) :=
  o.fields ++ methodNames.map fun name => (name, .method)

/-- The names of the parts do not depend on the object. -/
theorem keys_parts (o : EnumObject) :
    Assoc.keys o.parts = ["name", "qualified_name", "backing_kind", "count", "entries", "options",
      "_keys", "_values", "_by_key", "_lookup"] ++ methodNames := rfl

theorem keys_parts_nodup (o : EnumObject) : (Assoc.keys o.parts).Nodup := by
  rw [keys_parts]
  decide

/-- The names of the parts are not free for keys. -/
theorem isReserved_of_mem_parts {o : EnumObject} {p : String × Attribute} (h : p ∈ o.parts) :
    isReservedAttribute p.1 = true := by
  have hname : p.1 ∈ Assoc.keys o.parts := List.mem_map_of_mem h
  rw [keys_parts] at hname
  revert hname
  generalize p.1 = name
  revert name
  decide

/-- An attribute is the record of the case of that key, or else a part. -/
theorem attribute?_eq (o : EnumObject) (name : String) :
    o.attribute? name = ((Assoc.get? (.text name) o.byKey).map .place).or
      (Assoc.get? name o.parts) := by
  unfold attribute?
  cases Assoc.get? (.text name) o.byKey with
  | some i => rfl
  | none =>
    dsimp only
    rw [parts, Assoc.get?_append, Assoc.get?_constant]
    split
    case h_11 =>
      have hfields : Assoc.get? name o.fields = none := by
        rw [← Option.not_isSome_iff_eq_none]
        intro hsome
        have hname : name ∈ Assoc.keys o.fields := Assoc.has_iff_mem_keys.mp hsome
        simp_all [Assoc.keys, fields]
      rw [hfields]
      rfl
    all_goals rfl

/-! ## Keys -/

section Built

variable {e : Entry} {o : EnumObject} (ho : ofEntry e = .ok o)
include ho

/-- The keys of an object are told apart, and none is the name of a part. -/
theorem keys_of_ofEntry : (e.cases.map Case.key).Nodup ∧
    ∀ x ∈ e.cases, isReservedAttribute x.key = false := by
  obtain ⟨hcheck, hclash, -⟩ := ofEntry_eq ho
  refine ⟨(Entry.keys_of_check hcheck).1, fun x hx => ?_⟩
  rw [clash?, Option.map_eq_none_iff] at hclash
  exact Bool.eq_false_iff.mpr (List.find?_eq_none.mp hclash x hx)

theorem byKey_of_ofEntry : o.byKey = places (e.cases.map fun x => .text x.key) := by
  rw [(ofEntry_ok ho).2.2.1, placesByKey_eq]
  exact (lookable_keys (keys_of_ofEntry ho).1).ofList_places

theorem get?_byKey {v : Value} {s : String} (hv : v.asText? = some s) {i : Nat} :
    Assoc.get? v o.byKey = some i ↔ ∃ x, e.cases[i]? = some x ∧ x.key = s := by
  have hscalar : v.scalar? = some (.text s) := by rw [Value.scalar?, hv]
  rw [byKey_of_ofEntry ho, (lookable_keys (keys_of_ofEntry ho).1).get?_places hscalar]
  constructor
  · rintro ⟨w, hw, hws⟩
    rw [List.getElem?_map] at hw
    obtain ⟨x, hx, rfl⟩ := Option.map_eq_some_iff.mp hw
    exact ⟨x, hx, by simpa [Value.scalar?, Value.asText?] using hws⟩
  · rintro ⟨x, hx, rfl⟩
    exact ⟨.text x.key, by rw [List.getElem?_map, hx]; rfl, rfl⟩

/-- A key leads to the case of that key, and nothing else leads anywhere. -/
theorem findKey?_iff {v : Value} {i : Nat} :
    o.findKey? v = some i ↔ ∃ x, e.cases[i]? = some x ∧ v.asText? = some x.key := by
  rw [findKey?, Value.isText]
  cases hv : v.asText? with
  | none => simp
  | some s =>
    rw [Option.isSome_some, if_pos rfl, get?_byKey ho hv]
    simp only [Option.some.injEq, eq_comm]

/-- An attribute is a part of the object, or the record of the case of that key. -/
theorem attribute?_iff {name : String} {a : Attribute} :
    o.attribute? name = some a ↔
      (name, a) ∈ o.parts ∨ ∃ i x, e.cases[i]? = some x ∧ x.key = name ∧ a = .place i := by
  rw [attribute?_eq, ← Assoc.get?_eq_some_iff o.keys_parts_nodup]
  cases hkey : Assoc.get? (.text name) o.byKey with
  | none =>
    have hnone : ¬ ∃ i x, e.cases[i]? = some x ∧ x.key = name ∧ a = .place i := by
      rintro ⟨i, x, hx, hname, -⟩
      rw [(get?_byKey ho rfl).mpr ⟨x, hx, hname⟩] at hkey
      cases hkey
    simp [hnone]
  | some i =>
    obtain ⟨x, hx, hname⟩ := (get?_byKey ho rfl).mp hkey
    -- as there is a case of that key, no part has the name
    have hpart : Assoc.get? name o.parts ≠ some a := by
      intro hsome
      have hreserved := isReserved_of_mem_parts
        ((Assoc.get?_eq_some_iff o.keys_parts_nodup).mp hsome)
      rw [← hname, (keys_of_ofEntry ho).2 x (List.mem_of_getElem? hx)] at hreserved
      cases hreserved
    rw [Option.map_some, Option.some_or, or_iff_right hpart, Option.some.injEq]
    constructor
    · rintro rfl
      exact ⟨i, x, hx, hname, rfl⟩
    · rintro ⟨j, y, hy, hyname, rfl⟩
      have hj := (get?_byKey ho (v := .text name) rfl).mpr ⟨y, hy, hyname⟩
      rw [hkey] at hj
      exact congrArg Attribute.place (Option.some.inj hj)

/-- Without a scalar kind a lookup is one by key. -/
theorem find?_of_unbacked (h : e.backing = none) (v : Value) : o.find? v = o.findKey? v := by
  have hbacking : o.backing = none := (ofEntry_ok ho).1.trans h
  have hkind : o.matchesKind v = v.isText := by
    rw [matchesKind, hbacking]
    cases v <;> rfl
  rw [find?, hkind, findKey?, lookup, hbacking]
  rfl

end Built

/-- What the object of an entry answers. A lookup answers the place of a record, and so the record
itself. -/
structure Answers (o : EnumObject) (e : Entry) : Prop where
  /-- there are as many records as cases -/
  count : o.count = e.cases.length
  /-- the record at a place is that of the case there, and holds its key -/
  records : ∀ (i : Nat) (x : Case), e.cases[i]? = some x →
    ∃ r, o.entries[i]? = some r ∧ r = Record.ofFields x.fields ∧ r.item? "key" = some (.text x.key)
  /-- the keys are those of the cases, in order -/
  keys : o.keys = e.cases.map fun x => .text x.key
  /-- the key of a case leads to its place, and so does the attribute of that name -/
  found : ∀ (i : Nat) (x : Case), e.cases[i]? = some x → o.findKey? (.text x.key) = some i ∧
    o.hasKey (.text x.key) = true ∧ o.attribute? x.key = some (.place i)
  /-- a value that is no key of a case leads nowhere -/
  only : ∀ v, (∀ x ∈ e.cases, v.asText? ≠ some x.key) → o.findKey? v = none
  /-- the parts of the object are its attributes, and none is the record of a case -/
  parts : ∀ p ∈ o.parts, o.attribute? p.1 = some p.2 ∧ ∀ i, o.attribute? p.1 ≠ some (.place i)
  /-- there are no attributes but the parts and the records of the cases -/
  attributes : ∀ name a, o.attribute? name = some a →
    (name, a) ∈ o.parts ∨ ∃ i x, e.cases[i]? = some x ∧ x.key = name ∧ a = .place i
  /-- without a scalar kind, keys take the place of values -/
  unbacked : e.backing = none → o.values = o.keys ∧ ∀ v, o.find? v = o.findKey? v

/-- **Lookups by key.** An object finds the case of each key, under the key and as the attribute of
that name, and finds nothing for any other value; the parts of the object stay what they are. The
values of the cases may be anything. -/
theorem answers_of_entry {e : Entry} {o : EnumObject} (ho : ofEntry e = .ok o) : o.Answers e := by
  have hrecords := (ofEntry_ok ho).2.1
  refine ⟨?_, ?_, ?_, ?_, ?_, ?_, ?_, ?_⟩
  · rw [count, hrecords, List.length_map]
  · intro i x hx
    exact ⟨_, by rw [hrecords, List.getElem?_map, hx]; rfl, rfl, Record.item?_key x⟩
  · rw [keys, byKey_of_ofEntry ho, keys_places]
    refine List.filter_eq_self.mpr fun v hv => ?_
    obtain ⟨x, -, rfl⟩ := List.mem_map.mp hv
    rfl
  · intro i x hx
    have hfound := (findKey?_iff ho (v := .text x.key)).mpr ⟨x, hx, rfl⟩
    refine ⟨hfound, by rw [hasKey, hfound]; rfl, ?_⟩
    exact (attribute?_iff ho).mpr (.inr ⟨i, x, hx, rfl, rfl⟩)
  · intro v hv
    rw [← Option.not_isSome_iff_eq_none, Option.isSome_iff_exists]
    rintro ⟨i, hi⟩
    obtain ⟨x, hx, hkey⟩ := (findKey?_iff ho).mp hi
    exact hv x (List.mem_of_getElem? hx) hkey
  · rintro ⟨name, a⟩ hp
    have hattribute := (attribute?_iff ho).mpr (.inl hp)
    refine ⟨hattribute, fun i hi => ?_⟩
    obtain rfl : a = .place i := Option.some.inj (hattribute.symm.trans hi)
    simp [EnumObject.parts, fields] at hp
  · intro name a
    exact (attribute?_iff ho).mp
  · intro hnone
    refine ⟨?_, find?_of_unbacked ho hnone⟩
    rw [values, (ofEntry_ok ho).1, hnone]
    rfl

/-- An entry without a scalar kind whose values are of many kinds. -/
def oddments : Entry where
  name := "Oddments"
  qualifiedName := "app.Oddments"
  backing := none
  cases := [⟨"Pair", .tuple [.text "a", .int 1], .text "A pair", [], [(.text "key", .null)]⟩,
    ⟨"Nothing", .null, .localized [("en", "Nothing")], [], []⟩,
    ⟨"Truth", .bool true, .text "Truth", [(.text "name", .text "count")], []⟩]
  choices := []

theorem answers_oddments : ∃ o, ofEntry oddments = .ok o ∧ o.Answers oddments := by
  obtain ⟨o, ho⟩ : ∃ o, ofEntry oddments = .ok o := ⟨_, rfl⟩
  exact ⟨o, ho, answers_of_entry ho⟩

end EnumObject

end EnumExport
