import EnumExport.Proofs.Script.Embedding

/-!
# Fields of types and of records

A module declares which fields the records of its cases have, and writes the records one by one.
This is about whether a record has what its type promises.

* The types are collected from all cases. Where fields are named by texts there is one for each
  name, in the order in which the names first occur: `fieldTypes_eq`.
* The record of a case has the four core fields and the further ones of the case:
  `names_of_caseProperties`.
* A further field is promised only when every case has it, so every record keeps the promises of its
  type: `promises_entryFields`. A key of the metadata is always promised. So the metadata of every
  case keeps the promises of its type just where no case lacks a key that another one has.
  `types_promise` states both for a whole module, and `light_breaks_promise` is a module in which a
  promise about metadata is not kept.
-/

namespace EnumExport

/-! ## Entries that can be written out -/

/-- An entry that can be written out. -/
structure Entry.IsWritable (e : Entry) : Prop where
  /-- it is well formed -/
  accepted : e.check = .ok ()
  /-- its metadata is named by texts -/
  data : ∀ c ∈ e.cases, ∀ p ∈ c.data, ∃ s, p.1 = .text s
  /-- its further properties are named by texts -/
  extra : ∀ c ∈ e.cases, ∀ p ∈ c.extra, ∃ s, p.1 = .text s
  /-- its values have a JSON form -/
  forms : ∀ v ∈ e.dataValues, ∃ j, Json.ofValue v = .ok j

/-- The names of the fields among some pairs. -/
def Value.names (ps : List (Value × Value)) : List String := ps.filterMap fun p => p.1.asText?

/-- The keys of the metadata of an entry, each once, in the order in which they first occur. -/
def Entry.dataNames (e : Entry) : List String :=
  (e.cases.flatMap fun c => Value.names c.data).eraseDups

/-- The names of the further properties of an entry, each once, in the order in which they first
occur. -/
def Entry.extraNames (e : Entry) : List String :=
  (e.cases.flatMap fun c => Value.names c.extra).eraseDups

namespace Script

theorem isNamed_of_isWritable {entry : Entry} (h : entry.IsWritable) : entry.IsNamed where
  data := by
    intro c hc p hp
    obtain ⟨s, hs⟩ := h.data c hc p hp
    rw [hs]
    rfl
  extra := by
    intro c hc p hp
    obtain ⟨s, hs⟩ := h.extra c hc p hp
    rw [hs]
    rfl

/-- The module of an entry that can be written out is generated. -/
theorem moduleItems_isOk {entry : Entry} (h : entry.IsWritable) (name : String)
    (options : Options) : ∃ items, moduleItems name entry options = .ok items := by
  have hgenerate := error_of_generate (isNamed_of_isWritable h) name options
  cases hitems : moduleItems name entry options with
  | ok items => exact ⟨items, rfl⟩
  | error e =>
    have herror : generate name entry options = .error e := by
      rw [generate, hitems]
      rfl
    rcases hgenerate e herror with hcheck | ⟨v, hv, u, hu, -⟩
    · rw [h.accepted] at hcheck
      cases hcheck
    · obtain ⟨j, hj⟩ := h.forms v hv
      rw [hj] at hu
      cases hu

/-- What a module that builds its object itself is put together from. -/
theorem parts_of_moduleItems {name : String} {entry : Entry} {options : Options}
    {items : List Item}
    (h : moduleItems name entry { options with strategy := .inline } = .ok items) :
    ∃ types entries collections object, typeItems name entry options.exportTypes = .ok types ∧
      entryItems name entry = .ok entries ∧ collectionItems name entry = .ok collections ∧
      objectItems name entry = .ok object ∧
      items = headItems { options with strategy := .inline } ++ types ++
        (entries ++ collections ++ lookupItems name entry ++
          (if hasLocalizedLabel entry.cases then labelItems else []) ++ object) ++
        [.defaultExport name] := by
  obtain ⟨_, -, h⟩ := exists_of_bind_ok h
  obtain ⟨types, htypes, h⟩ := exists_of_bind_ok h
  obtain ⟨body, hbody, h⟩ := exists_of_bind_ok h
  obtain ⟨entries, hentries, hbody⟩ := exists_of_bind_ok hbody
  obtain ⟨collections, hcollections, hbody⟩ := exists_of_bind_ok hbody
  obtain ⟨object, hobject, hbody⟩ := exists_of_bind_ok hbody
  cases hbody
  cases h
  exact ⟨types, entries, collections, object, htypes, hentries, hcollections, hobject, rfl⟩

/-! ## Types of fields -/

section Types

variable {bags : List (List (Value × Value))}

/-- A pair named by a text. -/
def spelled {β : Type} (p : String × β) : Value × β := (.text p.1, p.2)

theorem exists_spelled {ps : List (Value × Value)} (h : ∀ p ∈ ps, ∃ s, p.1 = .text s) :
    ∃ qs : List (String × Value), ps = qs.map spelled ∧ qs.map Prod.fst = Value.names ps := by
  induction ps with
  | nil => exact ⟨[], rfl, rfl⟩
  | cons p ps ih =>
    obtain ⟨k, v⟩ := p
    obtain ⟨s, rfl⟩ : ∃ s, k = .text s := h (k, v) (by simp)
    obtain ⟨qs, rfl, hnames⟩ := ih fun q hq => h q (by simp [hq])
    refine ⟨(s, v) :: qs, rfl, ?_⟩
    rw [List.map_cons, hnames, Value.names, Value.names, List.filterMap_cons]
    rfl

/-- The kinds of values found under each name, as they are collected from fields named by texts. -/
def collectNamed (qs : List (String × Value)) (found : List (String × List TypeExpr)) :
    List (String × List TypeExpr) :=
  qs.foldl (fun found p =>
    Assoc.put p.1 ((Assoc.get? p.1 found).getD [] ++ [infer p.2]) found) found

theorem foldl_spelled (qs : List (String × Value)) (found : List (String × List TypeExpr)) :
    (qs.map spelled).foldl (fun found p =>
        Assoc.put p.1 ((Assoc.get? p.1 found).getD [] ++ [infer p.2]) found) (found.map spelled) =
      (collectNamed qs found).map spelled := by
  have htext : ∀ s t : String, (Value.text s == Value.text t) = (s == t) := Value.same_text
  induction qs generalizing found with
  | nil => rfl
  | cons q qs ih =>
    rw [collectNamed, List.map_cons, List.foldl_cons, List.foldl_cons, ← collectNamed, ← ih]
    refine congrArg (List.foldl _ · (qs.map spelled)) ?_
    have hget : Assoc.get? (.text q.1) (found.map spelled) = Assoc.get? q.1 found :=
      Assoc.get?_map htext q.1 found
    simp only [spelled, hget]
    exact Assoc.put_map htext q.1 _ found

theorem keys_collectNamed (qs : List (String × Value)) :
    Assoc.keys (collectNamed qs []) = (qs.map Prod.fst).eraseDups :=
  Assoc.keys_foldl_put_nil (fun found (p : String × Value) =>
    (Assoc.get? p.1 found).getD [] ++ [infer p.2]) qs

/-- Where fields are named by texts, there is one type for each name. -/
theorem fieldTypes_eq (h : ∀ bag ∈ bags, ∀ p ∈ bag, ∃ s, p.1 = .text s) :
    ∃ types : List (String × List TypeExpr), fieldTypes bags = types.map spelled ∧
      types.map Prod.fst = (bags.flatMap Value.names).eraseDups := by
  have hflat : ∀ p ∈ bags.flatten, ∃ s, p.1 = .text s := by
    intro p hp
    obtain ⟨bag, hbag, hp⟩ := List.mem_flatten.mp hp
    exact h bag hbag p hp
  obtain ⟨qs, hqs, hnames⟩ := exists_spelled hflat
  have hall : Value.names bags.flatten = bags.flatMap Value.names := by
    rw [Value.names, List.filterMap_flatten, List.flatMap_def]
    rfl
  refine ⟨(collectNamed qs []).map fun p => (p.1, p.2.eraseDups), ?_, ?_⟩
  · have hcollect : collectTypes bags = (collectNamed qs []).map spelled := by
      rw [collectTypes, hqs]
      exact foldl_spelled qs []
    rw [fieldTypes, hcollect, List.map_map, List.map_map]
    rfl
  · rw [List.map_map, ← hall, ← hnames, ← keys_collectNamed]
    rfl

end Types

/-- A field whose alternatives are types of values. -/
def Field.IsTyped (f : Field) : Prop :=
  ∃ types : List TypeExpr, f.alternatives = types.map TypeExpr.text

/-- A name of a property tells which one it is. -/
theorem propertyName_inj {s t : String} (h : propertyName s = propertyName t) : s = t := by
  have hs := Notation.readName_propertyName s []
  rw [h, Notation.readName_propertyName t []] at hs
  exact (congrArg Prod.fst (Option.some.inj hs)).symm

section Entries

variable {entry : Entry} (h : entry.IsWritable)
include h

/-- The metadata type has one field for each key, and promises all of them. -/
theorem metaBody_eq : ∃ body fields, metaBody entry.cases = .ok body ∧
    (entry.dataNames = [] → body = .union ["Record<string, unknown>"]) ∧
    (entry.dataNames ≠ [] → body = .record fields) ∧
    fields.map Field.name = entry.dataNames.map propertyName ∧
    ∀ f ∈ fields, f.optional = false ∧ f.IsTyped := by
  have htext : ∀ bag ∈ entry.cases.map Case.data, ∀ p ∈ bag, ∃ s, p.1 = .text s := by
    intro bag hbag
    obtain ⟨c, hc, rfl⟩ := List.mem_map.mp hbag
    exact h.data c hc
  obtain ⟨types, htypes, hnames⟩ := fieldTypes_eq htext
  have hnames : types.map Prod.fst = entry.dataNames := by
    rw [hnames, List.flatMap_map]
    rfl
  let field (p : String × List TypeExpr) : Field :=
    ⟨propertyName p.1, false, p.2.map TypeExpr.text⟩
  have hfields : (types.map spelled).mapM metaField = .ok (types.map field) := by
    rw [List.mapM_map]
    exact List.mapM_pure
  have hfieldNames : (types.map field).map Field.name = entry.dataNames.map propertyName := by
    rw [← hnames, List.map_map, List.map_map]
    rfl
  have hrequired : ∀ f ∈ types.map field,
      f.optional = false ∧ f.IsTyped := by
    intro f hf
    obtain ⟨p, -, rfl⟩ := List.mem_map.mp hf
    exact ⟨rfl, p.2, rfl⟩
  rw [metaBody, metaTypes, htypes, hfields, ← hnames]
  cases types with
  | nil => exact ⟨_, [], rfl, fun _ => rfl, fun hne => absurd rfl hne, rfl, by simp⟩
  | cons p types =>
    rw [← hnames] at hfieldNames
    exact ⟨_, _, rfl, fun hnil => absurd hnil (by simp), fun _ => rfl, hfieldNames, hrequired⟩

/-- The type of a record has the four fields of every case and one for each further name, which is
promised just where every case has it. -/
theorem entryFields_eq (name : String) : ∃ extra : List Field,
    entryFields name entry = .ok ([⟨"key", false, [name ++ "Key"]⟩,
      ⟨"value", false, valueTypes entry.backing entry.cases⟩,
      ⟨"label", false, labelTypes entry.cases⟩, ⟨"meta", false, [name ++ "Meta"]⟩] ++ extra) ∧
    extra.map Field.name = entry.extraNames.map propertyName ∧
    ∀ f ∈ extra, f.IsTyped ∧ ∃ s, f.name = propertyName s ∧
      (f.optional = false ↔ ∀ c ∈ entry.cases, s ∈ Value.names c.extra) := by
  have htext : ∀ bag ∈ entry.cases.map Case.extra, ∀ p ∈ bag, ∃ s, p.1 = .text s := by
    intro bag hbag
    obtain ⟨c, hc, rfl⟩ := List.mem_map.mp hbag
    exact h.extra c hc
  obtain ⟨types, htypes, hnames⟩ := fieldTypes_eq htext
  have hnames : types.map Prod.fst = entry.extraNames := by
    rw [hnames, List.flatMap_map]
    rfl
  let field (p : String × List TypeExpr) : Field :=
    ⟨propertyName p.1, !entry.cases.all fun c => Assoc.has (.text p.1) c.extra,
      p.2.map TypeExpr.text⟩
  refine ⟨types.map field, ?_, ?_, ?_⟩
  · have hfields : (types.map spelled).mapM (extraField entry.cases) = .ok (types.map field) := by
      rw [List.mapM_map]
      exact List.mapM_pure
    rw [entryFields, extraTypes, htypes, hfields]
    rfl
  · rw [← hnames, List.map_map, List.map_map]
    rfl
  · intro f hf
    obtain ⟨p, -, rfl⟩ := List.mem_map.mp hf
    refine ⟨⟨p.2, rfl⟩, p.1, rfl, ?_⟩
    -- the mark is decided by looking the name up in every case
    have hhas : ∀ c ∈ entry.cases,
        (Assoc.has (.text p.1) c.extra = true ↔ p.1 ∈ Value.names c.extra) := by
      intro c hc
      obtain ⟨qs, hqs, hqnames⟩ := exists_spelled (h.extra c hc)
      have hget : Assoc.get? (.text p.1) (qs.map spelled) = Assoc.get? p.1 qs :=
        Assoc.get?_map Value.same_text p.1 qs
      rw [← hqnames, Assoc.has, hqs, hget]
      exact Assoc.has_iff_mem_keys
    simp only [field, Bool.not_eq_false', List.all_eq_true]
    exact forall_congr' fun c => forall_congr' fun hc => hhas c hc

end Entries

/-! ## Properties of records -/

/-- The names of the properties of the record of a case. -/
def recordNames (c : Case) : List String :=
  coreFields ++ (Value.names c.extra).map propertyName

theorem names_of_caseProperties {c : Case} (h : ∀ p ∈ c.extra, ∃ s, p.1 = .text s) :
    Ensures (caseProperties c) fun row => row.map Property.name = recordNames c := by
  obtain ⟨qs, hqs, hnames⟩ := exists_spelled h
  have hextra : Ensures (c.extra.mapM fun p => do
      let name ← fieldName p.1
      return (⟨name, ← jsonExpr p.2⟩ : Property)) fun row =>
        row.map Property.name = (Value.names c.extra).map propertyName := by
    rw [hqs, ← hqs, ← hnames, List.map_map, hqs, List.mapM_map]
    refine .mapM fun q _ => .bind fun name hname => .bind fun value _ => .pure ?_
    cases hname
    rfl
  refine .bind fun value _ => .bind fun data _ => .bind fun extra hrow => .pure ?_
  rw [List.map_append, hextra extra hrow]
  rfl

theorem names_of_entryItems (name : String) {entry : Entry} (h : entry.IsWritable) :
    Ensures (entryItems name entry) fun items => ∃ rows rest,
      items = .records "ENTRIES" rows :: rest ∧
        rows.map (List.map Property.name) = entry.cases.map recordNames := by
  refine .bind fun rows hrows => .pure ⟨rows, _, rfl, ?_⟩
  exact Ensures.mapM (fun c hc => names_of_caseProperties (h.extra c hc)) rows hrows

/-! ## Promises -/

/-- Every field that a type declares without a mark is there. -/
def Promises (fields : List Field) (names : List String) : Prop :=
  ∀ f ∈ fields, f.optional = false → f.name ∈ names

/-- The record of each case has what the type of the records promises. -/
theorem promises_entryFields {entry : Entry} (h : entry.IsWritable) (name : String) :
    ∃ fields, entryFields name entry = .ok fields ∧
      ∀ c ∈ entry.cases, Promises fields (recordNames c) := by
  obtain ⟨extra, hfields, -, hpromised⟩ := entryFields_eq h name
  refine ⟨_, hfields, ?_⟩
  intro c hc f hf hrequired
  rcases List.mem_append.mp hf with hf | hf
  · -- the four fields of every case are promised, and every record begins with them
    refine List.mem_append_left _ ?_
    simp only [List.mem_cons, List.not_mem_nil, or_false] at hf
    rcases hf with rfl | rfl | rfl | rfl <;> simp [coreFields]
  · obtain ⟨-, s, hs, hiff⟩ := hpromised f hf
    rw [hs]
    exact List.mem_append_right _ (List.mem_map_of_mem (hiff.mp hrequired c hc))

/-- The metadata of the cases has what its type promises just where no case lacks a key. -/
theorem promises_metaFields {entry : Entry} {fields : List Field}
    (hnames : fields.map Field.name = entry.dataNames.map propertyName)
    (hrequired : ∀ f ∈ fields, f.optional = false) (c : Case) :
    Promises fields ((Value.names c.data).map propertyName) ↔
      ∀ s ∈ entry.dataNames, s ∈ Value.names c.data := by
  constructor
  · intro hpromises s hs
    have hfield : propertyName s ∈ fields.map Field.name := hnames ▸ List.mem_map_of_mem hs
    obtain ⟨f, hf, hfs⟩ := List.mem_map.mp hfield
    obtain ⟨t, ht, hts⟩ := List.mem_map.mp (hpromises f hf (hrequired f hf))
    exact propertyName_inj (hts.trans hfs) ▸ ht
  · intro hall f hf _
    have hfield : f.name ∈ entry.dataNames.map propertyName := hnames ▸ List.mem_map_of_mem hf
    obtain ⟨s, hs, hsf⟩ := List.mem_map.mp hfield
    exact hsf ▸ List.mem_map_of_mem (hall s hs)

/-- **What types promise.** In a module that builds its object itself, the record of each case has
every field that the type of the records declares without a mark. The type of the metadata has one
field for each key, none with a mark, so the metadata of all cases has what its type promises just
where no case lacks a key of another one. -/
theorem types_promise (name : String) (entry : Entry) (options : Options) (h : entry.IsWritable) :
    ∃ items rows fields body,
      moduleItems name entry { options with strategy := .inline } = .ok items ∧
      .records "ENTRIES" rows ∈ items ∧
      rows.map (List.map Property.name) = entry.cases.map recordNames ∧
      .typeAlias options.exportTypes (name ++ "Entry") (.record fields) ∈ items ∧
      (∀ row ∈ rows, Promises fields (row.map Property.name)) ∧
      .typeAlias options.exportTypes (name ++ "Meta") body ∈ items ∧
      (entry.dataNames = [] → body = .union ["Record<string, unknown>"]) ∧
      (entry.dataNames ≠ [] → ∃ data, body = .record data ∧
        data.map Field.name = entry.dataNames.map propertyName ∧
        ((∀ c ∈ entry.cases, Promises data ((Value.names c.data).map propertyName)) ↔
          ∀ c ∈ entry.cases, ∀ s ∈ entry.dataNames, s ∈ Value.names c.data)) := by
  obtain ⟨items, hitems⟩ := moduleItems_isOk h name { options with strategy := .inline }
  obtain ⟨types, entries, collections, object, htypes, hentries, -, -, hparts⟩ :=
    parts_of_moduleItems hitems
  obtain ⟨fields, hfields, hpromises⟩ := promises_entryFields h name
  obtain ⟨body, data, hbody, hnone, hsome, hnames, hrequired⟩ := metaBody_eq h
  obtain ⟨rows, rest, rfl, hrows⟩ := names_of_entryItems name h entries hentries
  obtain ⟨value, -, htypes⟩ := exists_of_bind_ok htypes
  rw [hbody, hfields] at htypes
  cases htypes
  have hrow : ∀ row ∈ rows, Promises fields (row.map Property.name) := by
    intro row hrow
    have hmem : row.map Property.name ∈ entry.cases.map recordNames :=
      hrows ▸ List.mem_map_of_mem hrow
    obtain ⟨c, hc, hcrow⟩ := List.mem_map.mp hmem
    exact hcrow ▸ hpromises c hc
  have hmeta : (∀ c ∈ entry.cases, Promises data ((Value.names c.data).map propertyName)) ↔
      ∀ c ∈ entry.cases, ∀ s ∈ entry.dataNames, s ∈ Value.names c.data :=
    forall_congr' fun c => forall_congr' fun _ =>
      promises_metaFields hnames (fun f hf => (hrequired f hf).1) c
  have hmem : ∀ i ∈ [Item.records "ENTRIES" rows,
      .typeAlias options.exportTypes (name ++ "Entry") (.record fields),
      .typeAlias options.exportTypes (name ++ "Meta") body], i ∈ items := by
    simp [hparts]
  exact ⟨items, rows, fields, body, hitems, hmem _ (by simp), hrows, hmem _ (by simp), hrow,
    hmem _ (by simp), hnone, fun hne => ⟨data, hsome hne, hnames, hmeta⟩⟩

theorem isWritable_of_isPlain {entry : Entry} (hcheck : entry.check = .ok ())
    (hplain : entry.IsPlain) : entry.IsWritable where
  accepted := hcheck
  data := by
    intro c hc p hp
    obtain ⟨s, hs, -⟩ := Value.isText_of_pairsPlain (hplain.cases c hc).data p hp
    exact ⟨s, hs⟩
  extra := by
    intro c hc p hp
    obtain ⟨s, hs, -⟩ := Value.isText_of_pairsPlain (hplain.cases c hc).extra p hp
    exact ⟨s, hs⟩
  forms := by
    intro v hv
    obtain ⟨j, hj, -⟩ := Notation.ofValue_of_isPlain v (isPlain_of_mem_dataValues hplain hv)
    exact ⟨j, hj⟩

theorem types_promise_light : ∃ items rows fields body, moduleItems "Light" light {} = .ok items ∧
    .records "ENTRIES" rows ∈ items ∧
    rows.map (List.map Property.name) = light.cases.map recordNames ∧
    .typeAlias false "LightEntry" (.record fields) ∈ items ∧
    (∀ row ∈ rows, Promises fields (row.map Property.name)) ∧
    .typeAlias false "LightMeta" body ∈ items := by
  obtain ⟨items, rows, fields, body, hitems, hrows, hnames, hfields, hpromises, hbody, -⟩ :=
    types_promise "Light" light {} (isWritable_of_isPlain rfl light_isPlain)
  exact ⟨items, rows, fields, body, hitems, hrows, hnames, hfields, hpromises, hbody⟩

/-- The red light waits, and so the type of the metadata promises `wait` of every case; the light
that is off has no metadata. -/
theorem light_breaks_promise : ∃ items data, moduleItems "Light" light {} = .ok items ∧
    .typeAlias false "LightMeta" (.record data) ∈ items ∧
    ¬ ∀ c ∈ light.cases, Promises data ((Value.names c.data).map propertyName) := by
  refine ⟨_, [⟨"wait", false, ["number[]"]⟩], rfl, List.mem_iff_getElem.mpr ⟨5, by decide, rfl⟩, ?_⟩
  intro h
  have hoff := h light.cases[1] (by simp [light]) ⟨"wait", false, ["number[]"]⟩ (by simp) rfl
  simp [light, Value.names] at hoff

end Script

end EnumExport
