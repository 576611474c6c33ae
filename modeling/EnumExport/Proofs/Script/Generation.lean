import EnumExport.Proofs.Script.Properties
import EnumExport.Proofs.Value.Scalar

/-!
# What keeps a module from being generated

Where all fields of an entry are named by texts, there are two reasons only: the entry is not well
formed, or some value in it has no JSON form (`error_of_generate`). For every emitter there is one
lemma, `…_fails`, that says so of its own errors.

So a plain entry, in which every value has a JSON form, is generated when it is well formed
(`typeItems_isOk`, `docLines_isOk`, `objectItems_isOk`).
-/

namespace EnumExport

/-- The values of an entry that are written out by themselves. -/
def Entry.dataValues (e : Entry) : List Value :=
  (e.cases.flatMap fun c => c.value :: .map c.data :: c.extra.map Prod.snd) ++
    e.choices.map Choice.value

/-- An entry of which the fields are named by texts. -/
structure Entry.IsNamed (e : Entry) : Prop where
  /-- those of the metadata are -/
  data : ∀ c ∈ e.cases, ∀ p ∈ c.data, p.1.isText = true
  /-- and those of the further properties -/
  extra : ∀ c ∈ e.cases, ∀ p ∈ c.extra, p.1.isText = true

namespace Script

/-- An error that says of one of some values that it has no JSON form. -/
def Unwritten (vs : List Value) (err : GenerateError) : Prop :=
  ∃ v ∈ vs, ∃ u, Json.ofValue v = .error u ∧ err = .unwritable u

theorem Unwritten.mono {vs ws : List Value} (h : vs ⊆ ws) (err : GenerateError)
    (herr : Unwritten vs err) : Unwritten ws err := by
  obtain ⟨v, hv, hu⟩ := herr
  exact ⟨v, h hv, hu⟩

/-! ## Literals -/

section Literals

variable {v : Value} {vs : List Value} (hv : v ∈ vs)
include hv

theorem jsonExpr_fails : FailsWith (jsonExpr v) (Unwritten vs) := by
  intro e he
  rw [jsonExpr] at he
  split at he
  · cases he
  · next u hu =>
    cases he
    exact ⟨v, hv, u, hu, rfl⟩

theorem literalExpr_fails : FailsWith (literalExpr v) (Unwritten vs) := by
  rw [literalExpr]
  split
  · exact .ok _
  · exact jsonExpr_fails hv

theorem jsonText_fails : FailsWith (jsonText v) fun u => Unwritten vs (.unwritable u) := by
  refine .bind (fun u hu => ?_) fun j _ => .ok _
  exact ⟨v, hv, u, hu, rfl⟩

theorem literal_fails : FailsWith (literal v) fun u => Unwritten vs (.unwritable u) := by
  unfold literal
  split
  · exact .ok _
  · split
    · exact .ok _
    · exact jsonText_fails hv

theorem jsonComment_fails : FailsWith (jsonComment v) (Unwritten vs) := by
  intro e he
  rw [jsonComment] at he
  split at he
  · cases he
  · next u hu =>
    cases he
    exact jsonText_fails hv u hu

theorem literalComment_fails : FailsWith (literalComment v) (Unwritten vs) := by
  intro e he
  rw [literalComment] at he
  split at he
  · cases he
  · next u hu =>
    cases he
    exact literal_fails hv u hu

end Literals

theorem literalComment_text (s : String) : ∃ t, literalComment (.text s) = .ok t := ⟨_, rfl⟩

/-! ## Names of fields -/

/-- Only texts name fields. -/
theorem fieldName_isOk {k : Value} (h : k.isText = true) : ∃ s, fieldName k = .ok s := by
  obtain ⟨s, hs⟩ := Option.isSome_iff_exists.mp h
  unfold fieldName
  split
  · exact ⟨_, rfl⟩
  · rw [hs]
    exact ⟨_, rfl⟩

theorem fieldName_error {k : Value} (h : k.isText = false) :
    fieldName k = .error (.nameless k.kindName) := by
  have hnone : k.asText? = none := by simpa [Value.isText] using h
  unfold fieldName
  split
  · cases hnone
  · rw [hnone]

/-- The names under which types are collected are names of the fields. -/
theorem mem_collectTypes {bags : List (List (Value × Value))} {p : Value × List TypeExpr}
    (h : p ∈ collectTypes bags) : ∃ bag ∈ bags, ∃ q ∈ bag, q.1 = p.1 := by
  have hfold : ∀ (pairs : List (Value × Value)) (found : List (Value × List TypeExpr)),
      p ∈ pairs.foldl (fun found p =>
        Assoc.put p.1 ((Assoc.get? p.1 found).getD [] ++ [infer p.2]) found) found →
      (∃ q ∈ found, q.1 = p.1) ∨ ∃ q ∈ pairs, q.1 = p.1 := by
    intro pairs
    induction pairs with
    | nil => exact fun found hp => .inl ⟨p, hp, rfl⟩
    | cons r rest ih =>
      intro found hp
      rcases ih _ hp with ⟨q, hq, hqp⟩ | ⟨q, hq, hqp⟩
      · rcases Assoc.mem_put hq with hr | ⟨q', hq', hqq⟩
        · exact .inr ⟨r, by simp, by rw [← hqp, hr]⟩
        · exact .inl ⟨q', hq', by rw [hqq, hqp]⟩
      · exact .inr ⟨q, by simp [hq], hqp⟩
  rcases hfold bags.flatten [] h with ⟨q, hq, -⟩ | ⟨q, hq, hqp⟩
  · cases hq
  · obtain ⟨bag, hbag, hq⟩ := List.mem_flatten.mp hq
    exact ⟨bag, hbag, q, hq, hqp⟩

theorem isText_of_fieldTypes {bags : List (List (Value × Value))}
    (h : ∀ bag ∈ bags, ∀ p ∈ bag, p.1.isText = true) {p : Value × List TypeExpr}
    (hp : p ∈ fieldTypes bags) : p.1.isText = true := by
  obtain ⟨q, hq, rfl⟩ := List.mem_map.mp hp
  obtain ⟨bag, hbag, r, hr, hname⟩ := mem_collectTypes hq
  rw [← hname]
  exact h bag hbag r hr

/-- Types are collected for every field, under its name or one that is equal to it. -/
theorem exists_fieldTypes {bags : List (List (Value × Value))} {bag : List (Value × Value)}
    {q : Value × Value} (hbag : bag ∈ bags) (hq : q ∈ bag) :
    ∃ p ∈ fieldTypes bags, p.1.isText = q.1.isText := by
  let add (found : List (Value × List TypeExpr)) (p : Value × Value) :=
    Assoc.put p.1 ((Assoc.get? p.1 found).getD [] ++ [infer p.2]) found
  -- a name that is there stays, and every field leaves one of its kind
  have hstay : ∀ (pairs : List (Value × Value)) (found : List (Value × List TypeExpr)),
      Assoc.keys found ⊆ Assoc.keys (pairs.foldl add found) := by
    intro pairs
    induction pairs with
    | nil => exact fun found => List.Subset.refl _
    | cons p rest ih => exact fun found => List.Subset.trans (Assoc.keys_subset_put _ _ _) (ih _)
  have hfold : ∀ (pairs : List (Value × Value)) (found : List (Value × List TypeExpr)),
      q ∈ pairs → ∃ k ∈ Assoc.keys (pairs.foldl add found), k.isText = q.1.isText := by
    intro pairs
    induction pairs with
    | nil => exact fun _ hq => nomatch hq
    | cons p rest ih =>
      intro found hq
      rcases List.mem_cons.mp hq with rfl | hq
      · obtain ⟨k, hk, heq⟩ := Assoc.exists_key_put q.1
          ((Assoc.get? q.1 found).getD [] ++ [infer q.2]) found
        refine ⟨k, hstay rest _ hk, ?_⟩
        rcases heq with rfl | heq
        · rfl
        · exact Value.isText_of_same heq
      · exact ih _ hq
  obtain ⟨k, hk, hkind⟩ := hfold bags.flatten [] (List.mem_flatten.mpr ⟨bag, hbag, hq⟩)
  obtain ⟨p, hp, rfl⟩ := List.mem_map.mp hk
  exact ⟨(p.1, p.2.eraseDups), List.mem_map.mpr ⟨p, hp, rfl⟩, hkind⟩

/-- Metadata that is named by something else than texts has no type. -/
theorem metaBody_error {cases : List Case} (h : ∃ c ∈ cases, ∃ p ∈ c.data, p.1.isText = false) :
    ∃ kind, metaBody cases = .error (.nameless kind) := by
  obtain ⟨c, hc, q, hq, htext⟩ := h
  obtain ⟨p, hp, hkind⟩ := exists_fieldTypes (List.mem_map_of_mem (f := Case.data) hc) hq
  have hp : p ∈ metaTypes cases := hp
  have herror : metaField p = .error (.nameless p.1.kindName) := by
    rw [metaField, fieldName_error (hkind.trans htext)]
    rfl
  have hnameless : FailsWith ((metaTypes cases).mapM metaField) fun e => ∃ kind, e = .nameless kind := by
    refine .mapM fun p _ => .bind ?_ fun _ _ => .ok _
    intro e he
    cases hp : p.1.isText with
    | true =>
      obtain ⟨s, hs⟩ := fieldName_isOk hp
      rw [hs] at he
      cases he
    | false =>
      rw [fieldName_error hp] at he
      cases he
      exact ⟨_, rfl⟩
  obtain ⟨e, he⟩ := exists_mapM_error hp herror
  obtain ⟨kind, rfl⟩ := hnameless e he
  refine ⟨kind, ?_⟩
  have hsome : (metaTypes cases).isEmpty = false := by
    cases htypes : metaTypes cases with
    | nil => rw [htypes] at hp; cases hp
    | cons _ _ => rfl
  rw [metaBody, hsome, he]
  rfl

/-! ## Types -/

section Entries

variable {entry : Entry}

theorem mem_dataValues {c : Case} (hc : c ∈ entry.cases) {v : Value}
    (hv : v ∈ c.value :: .map c.data :: c.extra.map Prod.snd) : v ∈ entry.dataValues :=
  List.mem_append_left _ (List.mem_flatMap.mpr ⟨c, hc, hv⟩)

theorem value_mem_dataValues {c : Case} (hc : c ∈ entry.cases) : c.value ∈ entry.dataValues :=
  mem_dataValues hc (by simp)

theorem data_mem_dataValues {c : Case} (hc : c ∈ entry.cases) : .map c.data ∈ entry.dataValues :=
  mem_dataValues hc (by simp)

theorem extra_mem_dataValues {c : Case} (hc : c ∈ entry.cases) {p : Value × Value}
    (hp : p ∈ c.extra) : p.2 ∈ entry.dataValues := by
  apply mem_dataValues hc
  simp only [List.mem_cons, List.mem_map]
  exact .inr (.inr ⟨p, hp, rfl⟩)

theorem choice_mem_dataValues {c : Choice} (hc : c ∈ entry.choices) :
    c.value ∈ entry.dataValues :=
  List.mem_append_right _ (List.mem_map_of_mem hc)

theorem values_subset_dataValues : entry.cases.map Case.value ⊆ entry.dataValues := by
  intro v hv
  obtain ⟨c, hc, rfl⟩ := List.mem_map.mp hv
  exact value_mem_dataValues hc

theorem mem_of_presentValues {v : Value} (hv : v ∈ presentValues entry.cases) :
    v ∈ entry.cases.map Case.value := (List.mem_filter.mp hv).1

theorem valueBody_fails (name : String) :
    FailsWith (valueBody name entry) (Unwritten (entry.cases.map Case.value)) := by
  rw [valueBody]
  split
  · exact .ok _
  · have hliterals : FailsWith (valueAlternatives entry.cases) fun u =>
        Unwritten (entry.cases.map Case.value) (.unwritable u) :=
      .bind (.mapM fun v hv => literal_fails (mem_of_presentValues hv)) fun _ _ => .ok _
    intro e he
    split at he
    · cases he
    · next u hu =>
      cases he
      exact hliterals u hu

theorem valueBody_isOk (h : ∀ c ∈ entry.cases, ∃ j, Json.ofValue c.value = .ok j) (name : String) :
    ∃ body, valueBody name entry = .ok body := by
  refine (valueBody_fails name).isOk ?_
  rintro e ⟨v, hv, u, hu, -⟩
  obtain ⟨c, hc, rfl⟩ := List.mem_map.mp hv
  obtain ⟨j, hj⟩ := h c hc
  rw [hj] at hu
  cases hu

section Named

variable (h : entry.IsNamed)
include h

theorem metaBody_isOk : ∃ body, metaBody entry.cases = .ok body := by
  have htext : ∀ bag ∈ entry.cases.map Case.data, ∀ p ∈ bag, p.1.isText = true := by
    intro bag hbag
    obtain ⟨c, hc, rfl⟩ := List.mem_map.mp hbag
    exact h.data c hc
  have hmeta : FailsWith (metaBody entry.cases) fun _ => False := by
    unfold metaBody
    dsimp only
    split
    · exact .ok _
    · refine .bind (.mapM fun p hp => ?_) fun _ _ => .ok _
      obtain ⟨s, hs⟩ := fieldName_isOk (isText_of_fieldTypes htext hp)
      rw [metaField, hs]
      exact .ok _
  exact hmeta.isOk fun _ => id

theorem entryFields_isOk (name : String) : ∃ fields, entryFields name entry = .ok fields := by
  have htext : ∀ bag ∈ entry.cases.map Case.extra, ∀ p ∈ bag, p.1.isText = true := by
    intro bag hbag
    obtain ⟨c, hc, rfl⟩ := List.mem_map.mp hbag
    exact h.extra c hc
  have hfields : FailsWith (entryFields name entry) fun _ => False := by
    refine .bind (.mapM fun p hp => ?_) fun _ _ => .ok _
    obtain ⟨s, hs⟩ := fieldName_isOk (isText_of_fieldTypes htext hp)
    rw [extraField, hs]
    exact .ok _
  exact hfields.isOk fun _ => id

theorem typeItems_fails (name : String) (exported : Bool) :
    FailsWith (typeItems name entry exported) (Unwritten entry.dataValues) := by
  obtain ⟨body, hbody⟩ := metaBody_isOk h
  obtain ⟨fields, hfields⟩ := entryFields_isOk h name
  rw [typeItems, hbody, hfields]
  exact .bind ((valueBody_fails name).mono (Unwritten.mono values_subset_dataValues))
    fun _ _ => .ok _

end Named

/-- The types of an entry declare no value. -/
theorem typeItems_declares (name : String) (exported : Bool) :
    Ensures (typeItems name entry exported) fun items => ∀ i ∈ items, i.declares? = none := by
  refine .bind fun value _ => .bind fun data _ => .bind fun fields _ => .pure ?_
  simp [Item.declares?]

/-! ## Comments and the object -/

theorem lookupLines_fails (name : String) :
    FailsWith (lookupLines name entry) (Unwritten entry.dataValues) := by
  unfold lookupLines
  split
  · refine .bind (.mapM fun c hc => ?_) fun _ _ => .ok _
    have hvalue := value_mem_dataValues (List.mem_filter.mp hc).1
    exact .bind (literalComment_fails hvalue) fun _ _ => .ok _
  · exact .ok _

theorem valuesLine_fails (name keys : String) :
    FailsWith (valuesLine name keys entry) (Unwritten entry.dataValues) := by
  unfold valuesLine
  split
  · refine .bind (.mapM fun v hv => ?_) fun _ _ => .ok _
    exact jsonComment_fails (values_subset_dataValues (mem_of_presentValues hv))
  · exact .ok _

theorem guardLines_fails (name : String) :
    FailsWith (guardLines name entry) (Unwritten entry.dataValues) := by
  unfold guardLines
  split
  · exact .ok _
  · next first rest hcases =>
    have hvalue : first.value ∈ entry.dataValues := value_mem_dataValues (by rw [hcases]; simp)
    dsimp only
    split
    · exact .ok _
    · exact .bind (literalComment_fails hvalue) fun _ _ => .ok _
    · obtain ⟨t, ht⟩ := literalComment_text first.key
      rw [ht]
      exact .ok _

theorem docLines_fails (name : String) :
    FailsWith (docLines name entry) (Unwritten entry.dataValues) := by
  refine .bind (lookupLines_fails name) fun _ _ => ?_
  refine .bind (valuesLine_fails name _) fun _ _ => ?_
  exact .bind (guardLines_fails name) fun _ _ => .ok _

theorem objectItems_fails (name : String) :
    FailsWith (objectItems name entry) (Unwritten entry.dataValues) :=
  .bind (docLines_fails name) fun _ _ => .ok _

/-! ## Bodies -/

theorem caseProperties_fails (h : entry.IsNamed) {c : Case} (hc : c ∈ entry.cases) :
    FailsWith (caseProperties c) (Unwritten entry.dataValues) := by
  refine .bind (literalExpr_fails (value_mem_dataValues hc)) fun _ _ => ?_
  refine .bind (jsonExpr_fails (data_mem_dataValues hc)) fun _ _ => ?_
  refine .bind (.mapM fun p hp => ?_) fun _ _ => .ok _
  obtain ⟨s, hs⟩ := fieldName_isOk (h.extra c hc p hp)
  rw [hs]
  refine .bind (.ok s) fun _ _ => ?_
  exact .bind (jsonExpr_fails (extra_mem_dataValues hc hp)) fun _ _ => .ok _

theorem choiceProperties_fails {c : Choice} (hc : c ∈ entry.choices) :
    FailsWith (choiceProperties c) (Unwritten entry.dataValues) :=
  .bind (literalExpr_fails (choice_mem_dataValues hc)) fun _ _ => .ok _

theorem inlineItems_fails (h : entry.IsNamed) (name : String) :
    FailsWith (inlineItems name entry) (Unwritten entry.dataValues) := by
  have hentries : FailsWith (entryItems name entry) (Unwritten entry.dataValues) :=
    .bind (.mapM fun c hc => caseProperties_fails h hc) fun _ _ => .ok _
  have hcollections : FailsWith (collectionItems name entry) (Unwritten entry.dataValues) :=
    .bind (.mapM fun c hc => choiceProperties_fails hc) fun _ _ => .ok _
  refine .bind hentries fun _ _ => .bind hcollections fun _ _ => ?_
  exact .bind (objectItems_fails name) fun _ _ => .ok _

/-! ## The data of the shared strategy -/

theorem ofList_fails {P : Json.Unwritable → Prop} {xs : List Value}
    (h : ∀ x ∈ xs, FailsWith (Json.ofValue x) P) : FailsWith (Json.ofList xs) P := by
  induction xs with
  | nil => exact .ok []
  | cons x xs ih =>
    rw [Json.ofList]
    refine .bind (h x (by simp)) fun _ _ => ?_
    exact .bind (ih fun y hy => h y (by simp [hy])) fun _ _ => .ok _

theorem ofPairs_fails {P : Json.Unwritable → Prop} {ps : List (Value × Value)}
    (h : ∀ p ∈ ps, p.1.isText = true ∧ FailsWith (Json.ofValue p.2) P) :
    FailsWith (Json.ofPairs ps) P := by
  induction ps with
  | nil => exact .ok []
  | cons p ps ih =>
    obtain ⟨k, v⟩ := p
    obtain ⟨hk, hv⟩ := h (k, v) (by simp)
    obtain ⟨s, hs⟩ := Option.isSome_iff_exists.mp hk
    have hkey : Json.keyText k = .ok s := by
      unfold Json.keyText
      rw [show k.asText? = some s from hs]
    rw [Json.ofPairs, hkey]
    refine .bind (.ok s) fun _ _ => .bind hv fun _ _ => ?_
    exact .bind (ih fun q hq => h q (by simp [hq])) fun _ _ => .ok _

theorem ofValue_map_fails {P : Json.Unwritable → Prop} {ps : List (Value × Value)}
    (h : ∀ p ∈ ps, p.1.isText = true ∧ FailsWith (Json.ofValue p.2) P) :
    FailsWith (Json.ofValue (.map ps)) P := by
  rw [Json.ofValue]
  exact .bind (ofPairs_fails h) fun _ _ => .ok _

theorem ofValue_list_fails {P : Json.Unwritable → Prop} {xs : List Value}
    (h : ∀ x ∈ xs, FailsWith (Json.ofValue x) P) : FailsWith (Json.ofValue (.list xs)) P := by
  rw [Json.ofValue]
  exact .bind (ofList_fails h) fun _ _ => .ok _

theorem ofValue_isPlain_fails {P : Json.Unwritable → Prop} {v : Value} (h : v.isPlain = true) :
    FailsWith (Json.ofValue v) P := by
  obtain ⟨j, hj, -⟩ := Notation.ofValue_of_isPlain v h
  rw [hj]
  exact .ok j

/-- A field of a case is one of the four of every case or a further one. -/
theorem mem_fields {c : Case} {p : Value × Value} (hp : p ∈ c.fields) :
    p = (.text "key", .text c.key) ∨ p = (.text "value", c.value) ∨
      p = (.text "label", c.label.toValue) ∨ p = (.text "meta", .map c.data) ∨ p ∈ c.extra := by
  obtain ⟨more, hmore, hsub⟩ := Assoc.exists_foldl_putNew c.extra [(.text "key", .text c.key),
    (.text "value", c.value), (.text "label", c.label.toValue), (.text "meta", .map c.data)]
  have hfields : c.fields = _ ++ more := hmore
  rw [hfields] at hp
  simp only [List.cons_append, List.nil_append, List.mem_cons] at hp
  rcases hp with hp | hp | hp | hp | hp
  · exact .inl hp
  · exact .inr (.inl hp)
  · exact .inr (.inr (.inl hp))
  · exact .inr (.inr (.inr (.inl hp)))
  · exact .inr (.inr (.inr (.inr (hsub hp))))

theorem ofValue_of_mem_dataValues {v : Value} (hv : v ∈ entry.dataValues) :
    FailsWith (Json.ofValue v) fun u => Unwritten entry.dataValues (.unwritable u) :=
  fun u hu => ⟨v, hv, u, hu, rfl⟩

theorem ofValue_fields_fails (h : entry.IsNamed) {c : Case} (hc : c ∈ entry.cases) :
    FailsWith (Json.ofValue (.map c.fields))
      fun u => Unwritten entry.dataValues (.unwritable u) := by
  refine ofValue_map_fails fun p hp => ?_
  rcases mem_fields hp with rfl | rfl | rfl | rfl | hp
  · exact ⟨rfl, ofValue_isPlain_fails rfl⟩
  · exact ⟨rfl, ofValue_of_mem_dataValues (value_mem_dataValues hc)⟩
  · exact ⟨rfl, ofValue_isPlain_fails (Label.isPlain_toValue c.label)⟩
  · exact ⟨rfl, ofValue_of_mem_dataValues (data_mem_dataValues hc)⟩
  · exact ⟨h.extra c hc p hp, ofValue_of_mem_dataValues (extra_mem_dataValues hc hp)⟩

theorem ofValue_choiceFields_fails {c : Choice} (hc : c ∈ entry.choices) :
    FailsWith (Json.ofValue (.map (choiceFields (c.value, .text c.label))))
      fun u => Unwritten entry.dataValues (.unwritable u) := by
  refine ofValue_map_fails fun p hp => ?_
  simp only [choiceFields, List.mem_cons, List.not_mem_nil, or_false] at hp
  rcases hp with rfl | rfl
  · exact ⟨rfl, ofValue_of_mem_dataValues (choice_mem_dataValues hc)⟩
  · exact ⟨rfl, ofValue_isPlain_fails rfl⟩

/-- The data of an entry has no JSON form only where a value in it has none. -/
theorem ofValue_toValue_fails (h : entry.IsNamed) :
    FailsWith (Json.ofValue entry.toValue) fun u => Unwritten entry.dataValues (.unwritable u) := by
  have hbacking : (BackingKind.toValue entry.backing).isPlain = true := by
    cases entry.backing <;> rfl
  refine ofValue_map_fails fun p hp => ?_
  simp only [Entry.loose, List.map_map, List.mem_cons, List.not_mem_nil, or_false] at hp
  rcases hp with rfl | rfl | rfl | rfl | rfl
  · exact ⟨rfl, ofValue_isPlain_fails rfl⟩
  · exact ⟨rfl, ofValue_isPlain_fails rfl⟩
  · exact ⟨rfl, ofValue_isPlain_fails hbacking⟩
  · refine ⟨rfl, ofValue_list_fails fun v hv => ?_⟩
    obtain ⟨c, hc, rfl⟩ := List.mem_map.mp hv
    exact ofValue_fields_fails h hc
  · refine ⟨rfl, ofValue_list_fails fun v hv => ?_⟩
    obtain ⟨c, hc, rfl⟩ := List.mem_map.mp hv
    exact ofValue_choiceFields_fails hc

theorem sharedItems_fails (h : entry.IsNamed) (name : String) :
    FailsWith (sharedItems name entry) (Unwritten entry.dataValues) := by
  have hdata := ofValue_toValue_fails h
  unfold sharedItems
  split
  · refine .bind (.ok _) fun _ _ => ?_
    exact .bind (docLines_fails name) fun _ _ => .ok _
  · next u hu =>
    intro e he
    cases he
    exact hdata u hu

/-! ## The module -/

/-- Where all fields are named by texts, a module is not generated only because its entry is not well
formed or because some value in it has no JSON form. -/
theorem error_of_generate (h : entry.IsNamed) (name : String) (options : Options) :
    FailsWith (generate name entry options)
      fun e => entry.check = .error e ∨ Unwritten entry.dataValues e := by
  have hitems : FailsWith (moduleItems name entry options)
      fun e => entry.check = .error e ∨ Unwritten entry.dataValues e := by
    refine .bind (fun _ he => Or.inl he) fun _ _ => ?_
    refine .bind ((typeItems_fails h name _).mono fun _ => Or.inr) fun _ _ => ?_
    dsimp only
    split
    · exact .bind ((inlineItems_fails h name).mono fun _ => Or.inr) fun _ _ => .ok _
    · exact .bind ((sharedItems_fails h name).mono fun _ => Or.inr) fun _ _ => .ok _
  exact .bind hitems fun _ _ => .ok _

/-! ## Plain entries -/

section Plain

variable (h : entry.IsPlain)
include h

theorem isNamed_of_isPlain : entry.IsNamed where
  data := by
    intro c hc p hp
    obtain ⟨s, hs, -⟩ := Value.isText_of_pairsPlain (h.cases c hc).data p hp
    rw [hs]
    rfl
  extra := by
    intro c hc p hp
    obtain ⟨s, hs, -⟩ := Value.isText_of_pairsPlain (h.cases c hc).extra p hp
    rw [hs]
    rfl

theorem isPlain_of_mem_dataValues {v : Value} (hv : v ∈ entry.dataValues) : v.isPlain = true := by
  rcases List.mem_append.mp hv with hv | hv
  · obtain ⟨c, hc, hv⟩ := List.mem_flatMap.mp hv
    rcases List.mem_cons.mp hv with rfl | hv
    · exact (h.cases c hc).value
    rcases List.mem_cons.mp hv with rfl | hv
    · exact (h.cases c hc).data
    obtain ⟨p, hp, rfl⟩ := List.mem_map.mp hv
    obtain ⟨s, -, hplain⟩ := Value.isText_of_pairsPlain (h.cases c hc).extra p hp
    exact hplain
  · obtain ⟨c, hc, rfl⟩ := List.mem_map.mp hv
    exact h.choices c hc

/-- All values of a plain entry have a JSON form. -/
theorem not_unwritten (e : GenerateError) : ¬ Unwritten entry.dataValues e := by
  rintro ⟨v, hv, u, hu, -⟩
  obtain ⟨j, hj, -⟩ := Notation.ofValue_of_isPlain v (isPlain_of_mem_dataValues h hv)
  rw [hj] at hu
  cases hu

theorem typeItems_isOk (name : String) (exported : Bool) :
    ∃ items, typeItems name entry exported = .ok items ∧ ∀ i ∈ items, i.declares? = none := by
  obtain ⟨items, hitems⟩ :=
    (typeItems_fails (isNamed_of_isPlain h) name exported).isOk (not_unwritten h)
  exact ⟨items, hitems, typeItems_declares name exported items hitems⟩

theorem docLines_isOk (name : String) : ∃ lines, docLines name entry = .ok lines :=
  (docLines_fails name).isOk (not_unwritten h)

theorem objectItems_isOk (name : String) : ∃ items, objectItems name entry = .ok items :=
  (objectItems_fails name).isOk (not_unwritten h)

end Plain

end Entries
end Script
end EnumExport
