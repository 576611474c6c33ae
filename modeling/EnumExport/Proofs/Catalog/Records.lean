import EnumExport.Proofs.Catalog.Attributes
import EnumExport.Proofs.Script.Generation
import EnumExport.Proofs.Value.Frozen

/-!
# Records of an object

The records of the cases and choices of an object are its data, as everyone gets to see it.

* **What can be changed in it.** A record is made of frozen fields, so it is a frozen value itself,
  `Record.readOnly_ofFields`. All that may be changed in it are sets, and those are the sets of the
  entry that may be changed: `EnumObject.changeable_of_entry`.
* **Two ways to a field.** A field is asked for as an item, or as an attribute of its name. What
  every record has besides its fields is found first, `Record.ownAttribute?`, and hides a field of
  its name: `EnumObject.fields_of_entry`.
-/

namespace EnumExport

/-! ## Frozen records -/

namespace Record

/-- A record is the frozen map of its fields. -/
theorem readOnly_ofFields (fields : List (Value × Value)) :
    Value.readOnly (ofFields fields).fields = (Value.map fields).freeze := rfl

theorem names_ofFields (fields : List (Value × Value)) :
    (ofFields fields).names = fields.map Prod.fst := Value.freezePairs_keys fields

end Record

/-- The fields of the cases and of the choices of an entry. -/
def Entry.rows (e : Entry) : List (List (Value × Value)) :=
  e.cases.map Case.fields ++ e.choices.map fun c => choiceFields (c.value, .text c.label)

/-- All that is hashed in the data of an entry can be hashed. -/
structure Entry.IsProper (e : Entry) : Prop where
  /-- in the value, the metadata and the further properties of a case -/
  cases : ∀ c ∈ e.cases, c.value.isProper = true ∧ (Value.map c.data).isProper = true ∧
    (Value.map c.extra).isProper = true
  /-- in the value of a choice -/
  choices : ∀ c ∈ e.choices, c.value.isProper = true

/-- Something is part of what an entry tells of its cases and choices. -/
def Entry.Holds (e : Entry) (w : Value) : Prop := ∃ row ∈ e.rows, w.IsPart (.map row)

namespace Value

/-- A map is proper whose keys are texts and whose values are proper. -/
theorem isProper_map {ps : List (Value × Value)}
    (h : ∀ p ∈ ps, p.1.unhashable? = none ∧ p.1.isProper = true ∧ p.2.isProper = true) :
    (Value.map ps).isProper = true := by
  rw [isProper, Bool.not_eq_true', Bool.eq_false_iff]
  intro hpart
  rcases anyPart_iff.mp hpart with hself | ⟨x, hx, hpart⟩ | ⟨x, hx, hpart⟩
  · obtain ⟨x, hx, hkind⟩ := List.any_eq_true.mp hself
    obtain ⟨p, hp, rfl⟩ := List.mem_map.mp hx
    rw [(h p hp).1] at hkind
    cases hkind
  · obtain ⟨p, hp, rfl⟩ := List.mem_map.mp hx
    have hproper := (h p hp).2.2
    rw [isProper, hpart] at hproper
    cases hproper
  · obtain ⟨p, hp, rfl⟩ := List.mem_map.mp hx
    have hproper := (h p hp).2.1
    rw [isProper, hpart] at hproper
    cases hproper

end Value

theorem Label.isProper_toValue (l : Label) : l.toValue.isProper = true := by
  cases l with
  | text s => rfl
  | localized texts =>
    refine Value.isProper_map fun p hp => ?_
    obtain ⟨q, -, rfl⟩ := List.mem_map.mp hp
    exact ⟨rfl, rfl, rfl⟩

/-- What an entry tells goes by the name of a core field, or is a further property of a case. -/
theorem Entry.name_of_mem_rows {e : Entry} {row : List (Value × Value)} (hrow : row ∈ e.rows)
    {p : Value × Value} (hp : p ∈ row) :
    (∃ f ∈ coreFields, p.1 = .text f) ∨ ∃ c ∈ e.cases, p ∈ c.extra := by
  rcases List.mem_append.mp hrow with hrow | hrow
  · obtain ⟨c, hc, rfl⟩ := List.mem_map.mp hrow
    rcases Script.mem_fields hp with rfl | rfl | rfl | rfl | hp
    · exact .inl ⟨"key", by decide, rfl⟩
    · exact .inl ⟨"value", by decide, rfl⟩
    · exact .inl ⟨"label", by decide, rfl⟩
    · exact .inl ⟨"meta", by decide, rfl⟩
    · exact .inr ⟨c, hc, hp⟩
  · obtain ⟨c, hc, rfl⟩ := List.mem_map.mp hrow
    simp only [choiceFields, List.mem_cons, List.not_mem_nil, or_false] at hp
    rcases hp with rfl | rfl
    · exact .inl ⟨"value", by decide, rfl⟩
    · exact .inl ⟨"label", by decide, rfl⟩

/-- What an entry tells is proper where its data is. -/
theorem Entry.IsProper.rows {e : Entry} (h : e.IsProper) {row : List (Value × Value)}
    (hrow : row ∈ e.rows) : (Value.map row).isProper = true := by
  rcases List.mem_append.mp hrow with hrow | hrow
  · obtain ⟨c, hc, rfl⟩ := List.mem_map.mp hrow
    obtain ⟨hvalue, hdata, hextra⟩ := h.cases c hc
    refine Value.isProper_map fun p hp => ?_
    rcases Script.mem_fields hp with rfl | rfl | rfl | rfl | hp
    · exact ⟨rfl, rfl, rfl⟩
    · exact ⟨rfl, rfl, hvalue⟩
    · exact ⟨rfl, rfl, c.label.isProper_toValue⟩
    · exact ⟨rfl, rfl, hdata⟩
    · have hkey : p.1 ∈ (Value.map c.extra).hashed := List.mem_map_of_mem hp
      have hheld : p.2 ∈ (Value.map c.extra).held := List.mem_map_of_mem hp
      exact ⟨Value.unhashable?_of_mem_hashed hextra hkey,
        Value.isProper_of_mem_hashed hextra hkey, Value.isProper_of_mem_held hextra hheld⟩
  · obtain ⟨c, hc, rfl⟩ := List.mem_map.mp hrow
    refine Value.isProper_map fun p hp => ?_
    simp only [choiceFields, List.mem_cons, List.not_mem_nil, or_false] at hp
    rcases hp with rfl | rfl
    · exact ⟨rfl, rfl, h.choices c hc⟩
    · exact ⟨rfl, rfl, rfl⟩

namespace EnumObject

/-- The records of an object. -/
def records (o : EnumObject) : List Record := o.entries ++ o.options

/-- Something is part of the data in a record of an object. -/
def Reaches (o : EnumObject) (w : Value) : Prop :=
  ∃ r ∈ o.records, w.IsPart (.readOnly r.fields)

section Built

variable {e : Entry} {o : EnumObject} (ho : ofEntry e = .ok o)
include ho

/-- The records of an object are made of what the entry tells. -/
theorem records_of_ofEntry : o.records = e.rows.map Record.ofFields := by
  obtain ⟨-, -, rfl⟩ := ofEntry_eq ho
  rw [records, Entry.rows, List.map_append, List.map_map, List.map_map]
  rfl

theorem reaches_iff {w : Value} :
    o.Reaches w ↔ ∃ row ∈ e.rows, w.IsPart (Value.map row).freeze := by
  rw [Reaches, records_of_ofEntry ho]
  constructor
  · rintro ⟨r, hr, hpart⟩
    obtain ⟨row, hrow, rfl⟩ := List.mem_map.mp hr
    rw [Record.readOnly_ofFields] at hpart
    exact ⟨row, hrow, hpart⟩
  · rintro ⟨row, hrow, hpart⟩
    rw [← Record.readOnly_ofFields] at hpart
    exact ⟨_, List.mem_map_of_mem hrow, hpart⟩

/-- **Frozen objects.** The only containers that may be changed in the records of an object are
sets, namely those sets of the entry that may be changed. So nothing in them may be changed just
where the entry has no such set. -/
theorem changeable_of_entry (he : e.IsProper) :
    (∀ w, w.isChangeable = true → (o.Reaches w ↔ e.Holds w ∧ ∃ xs, w = .set false xs)) ∧
      ((∀ w, o.Reaches w → w.isChangeable = false) ↔ ∀ xs, ¬ e.Holds (.set false xs)) := by
  have hsets : ∀ w : Value, w.isChangeable = true →
      (o.Reaches w ↔ e.Holds w ∧ ∃ xs, w = .set false xs) := by
    intro w hw
    rw [reaches_iff ho, Entry.Holds]
    constructor
    · rintro ⟨row, hrow, hpart⟩
      obtain ⟨hin, hset⟩ := (Value.isPart_freeze_iff (he.rows hrow) hw).mp hpart
      exact ⟨⟨row, hrow, hin⟩, hset⟩
    · rintro ⟨⟨row, hrow, hpart⟩, hset⟩
      exact ⟨row, hrow, (Value.isPart_freeze_iff (he.rows hrow) hw).mpr ⟨hpart, hset⟩⟩
  refine ⟨hsets, fun hfixed xs hholds => ?_, fun hnone w hw => ?_⟩
  · have hset := hfixed _ ((hsets (.set false xs) rfl).mpr ⟨hholds, xs, rfl⟩)
    cases hset
  · rw [Bool.eq_false_iff]
    intro hchange
    obtain ⟨hholds, xs, rfl⟩ := (hsets w hchange).mp hw
    exact hnone xs hholds

end Built

/-- An entry with containers of all kinds, of which none is a set that may be changed. -/
def ribbon : Entry where
  name := "Ribbon"
  qualifiedName := "app.Ribbon"
  backing := none
  cases := [{ key := "Plain", value := .null, label := .localized [("en", "Plain")]
              data := [(.text "sizes", .list [.int 1, .list [.int 2]]),
                (.text "codes", .set true [.tuple [.int 3]])]
              extra := [(.text "wash", .map [(.text "hot", .bool false)])] }]
  choices := [⟨.text "Plain", "Plain"⟩]

theorem changeable_of_ribbon : ∃ o, ofEntry ribbon = .ok o ∧ ribbon.IsProper ∧
    ∀ w, o.Reaches w → w.isChangeable = false := by
  obtain ⟨o, ho⟩ : ∃ o, ofEntry ribbon = .ok o := ⟨_, rfl⟩
  have hproper : ribbon.IsProper := by
    refine ⟨fun c hc => ?_, fun c hc => ?_⟩
    · obtain rfl := List.mem_singleton.mp hc
      exact ⟨rfl, rfl, rfl⟩
    · obtain rfl := List.mem_singleton.mp hc
      rfl
  refine ⟨o, ho, hproper, (changeable_of_entry ho hproper).2.mpr ?_⟩
  rintro xs ⟨row, hrow, hpart⟩
  -- such a set is what can still be changed once it is frozen
  have hnone : ∀ row ∈ ribbon.rows,
      (Value.map row).anyPart (fun w => w.freeze.isChangeable) = false := by decide +kernel
  have hsome : (Value.map row).anyPart (fun w => w.freeze.isChangeable) = true :=
    Value.anyPart_of_isPart hpart rfl
  rw [hnone row hrow] at hsome
  cases hsome

/-- A case with a set that may be changed. -/
def hearts : Case where
  key := "Hearts"
  value := .text "H"
  label := .text "Hearts"
  data := [(.text "tags", .set false [.text "red"])]
  extra := []

/-- The entry of that case. -/
def tagged : Entry where
  name := "Suit"
  qualifiedName := "app.Suit"
  backing := some .string
  cases := [hearts]
  choices := [⟨.text "H", "Hearts"⟩]

/-- The set can be changed in the record of the case, too. -/
theorem tagged_changeable : ∃ o, ofEntry tagged = .ok o ∧
    o.Reaches (.set false [.text "red"]) ∧
    Value.isChangeable (.set false [.text "red"]) = true := by
  refine ⟨_, rfl, ⟨Record.ofFields hearts.fields, List.mem_cons_self, ?_⟩, rfl⟩
  have hdata : Value.readOnly [(.text "tags", .set false [.text "red"])] ∈
      Value.held (.readOnly (Record.ofFields hearts.fields).fields) :=
    List.mem_cons_of_mem _ (List.mem_cons_of_mem _ (List.mem_cons_of_mem _ List.mem_cons_self))
  exact .held hdata (.held List.mem_cons_self .self)

end EnumObject

/-! ## Fields as items and as attributes -/

namespace Record

variable {r : Record} {name : String}

/-- A field is found by every name that is equal to its own. -/
theorem exists_item?_of_mem_names {k : Value} (hk : k ∈ r.names) (hname : k.asText? = some name) :
    ∃ v, r.item? name = some v := by
  obtain ⟨p, hp, rfl⟩ := List.mem_map.mp hk
  refine Assoc.exists_get?_of_mem hp ?_
  have hscalar : p.1.scalar? = some (.text name) := by rw [Value.scalar?, hname]
  rw [Value.beq_eq_same, Value.same_of_scalar hscalar (b := .text name) rfl]
  exact decide_eq_true rfl

/-- What every record has besides its fields hides a field of its name. -/
theorem attribute?_eq_field_iff {v : Value} (h : r.item? name = some v) :
    r.attribute? name = some (.field v) ↔ ∀ a, ownAttribute? name = some a → a = .field v := by
  rw [attribute?, h]
  cases ownAttribute? name <;> simp

/-- No record has anything but a field by the name of a core field. -/
theorem ownAttribute?_core {f : String} (hf : f ∈ coreFields) : ownAttribute? f = none := by
  have hnone : ∀ f ∈ coreFields, (ownAttribute? f).isNone = true := by decide
  exact Option.isNone_iff_eq_none.mp (hnone f hf)

end Record

namespace EnumObject

/-- **Fields as items and as attributes.** In the records of an object each name of a field leads to
an item. The attribute of that name is the item, too, unless every record has something else by that
name. So where no further property of a case has such a name, the two ways to a field are the same
for all fields of all records. -/
theorem fields_of_entry {e : Entry} {o : EnumObject} (ho : ofEntry e = .ok o) :
    (∀ r ∈ o.records, ∀ k ∈ r.names, ∀ name, k.asText? = some name →
      ∃ v, r.item? name = some v ∧ (r.attribute? name = some (.field v) ↔
        ∀ a, Record.ownAttribute? name = some a → a = .field v)) ∧
      ((∀ c ∈ e.cases, ∀ p ∈ c.extra, ∀ name, p.1.asText? = some name →
          Record.ownAttribute? name = none) →
        ∀ r ∈ o.records, ∀ k ∈ r.names, ∀ name, k.asText? = some name →
          ∃ v, r.item? name = some v ∧ r.attribute? name = some (.field v)) := by
  have hitem : ∀ r ∈ o.records, ∀ k ∈ r.names, ∀ name, k.asText? = some name →
      ∃ v, r.item? name = some v ∧ (r.attribute? name = some (.field v) ↔
        ∀ a, Record.ownAttribute? name = some a → a = .field v) := by
    intro r _ k hk name hname
    obtain ⟨v, hv⟩ := Record.exists_item?_of_mem_names hk hname
    exact ⟨v, hv, Record.attribute?_eq_field_iff hv⟩
  refine ⟨hitem, fun hextra r hr k hk name hname => ?_⟩
  obtain ⟨v, hv, hsame⟩ := hitem r hr k hk name hname
  refine ⟨v, hv, hsame.mpr fun a ha => ?_⟩
  rw [records_of_ofEntry ho] at hr
  obtain ⟨row, hrow, rfl⟩ := List.mem_map.mp hr
  rw [Record.names_ofFields] at hk
  obtain ⟨p, hp, rfl⟩ := List.mem_map.mp hk
  have hown : Record.ownAttribute? name = none := by
    rcases Entry.name_of_mem_rows hrow hp with ⟨f, hf, hcore⟩ | ⟨c, hc, hp⟩
    · rw [hcore] at hname
      obtain rfl := Option.some.inj hname
      exact Record.ownAttribute?_core hf
    · exact hextra c hc p hp name hname
  rw [hown] at ha
  cases ha

theorem fields_of_ribbon : ∃ o, ofEntry ribbon = .ok o ∧
    ∀ r ∈ o.records, ∀ k ∈ r.names, ∀ name, k.asText? = some name →
      ∃ v, r.item? name = some v ∧ r.attribute? name = some (.field v) := by
  obtain ⟨o, ho⟩ : ∃ o, ofEntry ribbon = .ok o := ⟨_, rfl⟩
  refine ⟨o, ho, (fields_of_entry ho).2 ?_⟩
  intro c hc p hp name hname
  obtain rfl := List.mem_singleton.mp hc
  obtain rfl := List.mem_singleton.mp hp
  obtain rfl := Option.some.inj hname
  exact Option.isNone_iff_eq_none.mp (by decide)

/-- A case with a further property that has the name of a method. -/
def fruit : Case where
  key := "Fruit"
  value := .null
  label := .text "Fruit"
  data := []
  extra := [(.text "items", .text "apples")]

/-- The entry of that case. -/
def basket : Entry where
  name := "Basket"
  qualifiedName := "app.Basket"
  backing := none
  cases := [fruit]
  choices := [⟨.text "Fruit", "Fruit"⟩]

/-- The record of the case holds the property, but its attribute is the method. -/
theorem basket_hides_items : ∃ o r, ofEntry basket = .ok o ∧ r ∈ o.records ∧
    .text "items" ∈ r.names ∧ r.item? "items" = some (.text "apples") ∧
    r.attribute? "items" = some .method := by
  have hfields : fruit.fields = [(.text "key", .text "Fruit"), (.text "value", .null),
      (.text "label", .text "Fruit"), (.text "meta", .map []),
      (.text "items", .text "apples")] := by
    simp [fruit, Case.fields, Case.loose, LooseCase.fields, Label.toValue, Assoc.putNew, Assoc.has,
      Assoc.get?, Value.beq_eq_same, Value.same_text]
  refine ⟨_, Record.ofFields fruit.fields, rfl, List.mem_cons_self, ?_, ?_, rfl⟩
  · rw [Record.names_ofFields, hfields]
    simp
  · rw [Record.item?, Record.ofFields, hfields]
    simp [Value.freezePairs, Value.freeze, Value.field?, Assoc.get?, Value.beq_eq_same,
      Value.same_text]

end EnumObject

end EnumExport
