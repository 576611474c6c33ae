import EnumExport.Proofs.Manifest.Record
import EnumExport.Proofs.Notation.Data
import EnumExport.Proofs.Notation.Script
import EnumExport.Proofs.Outcome
import EnumExport.Script.Module

/-!
# Properties of plain cases

An entry is plain when its values, metadata and further properties are plain data. The properties
that a module writes for a plain case stand for the fields of that case, one by one and in order, and
so do those of a choice: `caseProperties_of_isPlain` and `choiceProperties_of_isPlain`.
-/

namespace EnumExport

/-! ## Plain entries -/

/-- A case made of plain data, whose further properties each have a name of their own. -/
structure Case.IsPlain (c : Case) : Prop where
  /-- its value is plain -/
  value : c.value.isPlain = true
  /-- its metadata is plain -/
  data : Value.pairsPlain c.data = true
  /-- its further properties are plain -/
  extra : Value.pairsPlain c.extra = true
  /-- no further property occurs twice -/
  distinct : c.extra.Pairwise fun p q => p.1.same q.1 = false
  /-- no further property is named like a core field -/
  apart : ∀ p ∈ c.extra, isCoreField p.1 = false

/-- An entry made of plain data. -/
structure Entry.IsPlain (e : Entry) : Prop where
  /-- its cases are plain -/
  cases : ∀ c ∈ e.cases, c.IsPlain
  /-- its choices stand for plain data -/
  choices : ∀ c ∈ e.choices, c.value.isPlain = true

theorem Value.isText_of_pairsPlain {ps : List (Value × Value)} (h : Value.pairsPlain ps = true) :
    ∀ p ∈ ps, ∃ s, p.1 = .text s ∧ p.2.isPlain = true := by
  intro p hp
  induction ps with
  | nil => cases hp
  | cons q ps ih =>
    obtain ⟨k, v⟩ := q
    cases k with
    | text s =>
      obtain ⟨hv, hps⟩ : v.isPlain = true ∧ Value.pairsPlain ps = true := by
        simpa [Value.pairsPlain] using h
      rcases List.mem_cons.mp hp with rfl | hp
      · exact ⟨s, rfl, hv⟩
      · exact ih hps hp
    | _ => simp [Value.pairsPlain] at h

/-- The fields of a plain case are the core ones and then all further ones, as they stand. -/
theorem Case.fields_of_isPlain {c : Case} (h : c.IsPlain) :
    c.fields = [(.text "key", .text c.key), (.text "value", c.value),
      (.text "label", c.label.toValue), (.text "meta", .map c.data)] ++ c.extra := by
  have hkeys : c.loose.KeysApart := h.distinct
  have hown : c.loose.own = c.loose := LooseCase.own_of_avoidsCore h.apart
  rw [Case.fields, LooseCase.fields_eq hkeys, hown]
  rfl

theorem Value.arePlain_of_forall {vs : List Value} (h : ∀ v ∈ vs, v.isPlain = true) :
    Value.arePlain vs = true := by
  induction vs with
  | nil => rfl
  | cons v vs ih =>
    rw [Value.arePlain, h v (by simp), ih fun w hw => h w (by simp [hw])]
    rfl

theorem Label.isPlain_toValue (label : Label) : label.toValue.isPlain = true := by
  cases label with
  | text s => rfl
  | localized texts =>
    rw [Label.toValue, Value.isPlain]
    induction texts with
    | nil => rfl
    | cons p texts ih => simpa [Value.pairsPlain, Value.isPlain] using ih

theorem Case.isPlain_fields {c : Case} (h : c.IsPlain) : (Value.map c.fields).isPlain = true := by
  rw [Case.fields_of_isPlain h]
  simp only [Value.isPlain, List.cons_append, List.nil_append, Value.pairsPlain, h.value, h.data,
    h.extra, Label.isPlain_toValue]
  rfl

/-- The data of a plain entry is plain. -/
theorem Entry.isPlain_toValue {e : Entry} (h : e.IsPlain) : e.toValue.isPlain = true := by
  have hcases : Value.arePlain (e.loose.cases.map fun c => .map c.fields) = true := by
    refine Value.arePlain_of_forall fun v hv => ?_
    obtain ⟨l, hl, rfl⟩ := List.mem_map.mp hv
    obtain ⟨c, hc, rfl⟩ := List.mem_map.mp hl
    exact Case.isPlain_fields (h.cases c hc)
  have hchoices : Value.arePlain (e.loose.choices.map fun c => .map (choiceFields c)) = true := by
    refine Value.arePlain_of_forall fun v hv => ?_
    obtain ⟨l, hl, rfl⟩ := List.mem_map.mp hv
    obtain ⟨c, hc, rfl⟩ := List.mem_map.mp hl
    simp [Value.isPlain, choiceFields, Value.pairsPlain, h.choices c hc]
  have hbacking : (BackingKind.toValue e.backing).isPlain = true := by
    cases e.backing <;> rfl
  rw [Entry.toValue, LooseEntry.toValue]
  simp only [Value.isPlain, Value.pairsPlain, Entry.loose] at hcases hchoices ⊢
  rw [hbacking, hcases, hchoices]
  rfl

namespace Script

/-! ## Rows of properties -/

theorem literalExpr_of_isPlain {v : Value} (h : v.isPlain = true) :
    ∃ e, literalExpr v = .ok e ∧ e.isWhole = true ∧ e.toValue = v := by
  cases v with
  | text s => exact ⟨.text s, rfl, rfl, rfl⟩
  | member tag v => cases h
  | _ =>
    obtain ⟨j, hof, hwhole, hback⟩ := Notation.ofValue_of_isPlain _ h
    exact ⟨.json j, by rw [literalExpr, hof]; rfl, hwhole, hback⟩

theorem jsonExpr_of_isPlain {v : Value} (h : v.isPlain = true) :
    ∃ e, jsonExpr v = .ok e ∧ e.isWhole = true ∧ e.toValue = v := by
  obtain ⟨j, hof, hwhole, hback⟩ := Notation.ofValue_of_isPlain v h
  exact ⟨.json j, by rw [jsonExpr, hof], hwhole, hback⟩

/-- The expression of a label stands for the label. -/
theorem labelExpr_spec (label : Label) :
    (labelExpr label).isWhole = true ∧ (labelExpr label).toValue = label.toValue := by
  cases label with
  | text s => exact ⟨rfl, rfl⟩
  | localized texts =>
    rw [labelExpr, Expr.isWhole, Expr.toValue, Label.toValue, Json.isWhole, Json.toValue]
    induction texts with
    | nil => exact ⟨rfl, rfl⟩
    | cons p texts ih =>
      obtain ⟨hwhole, hback⟩ := ih
      refine ⟨?_, ?_⟩
      · simpa [Json.fieldsWhole, Json.isWhole] using hwhole
      · simpa [Json.toPairs, Json.toValue] using hback

theorem propertyName_coreField : ∀ f ∈ coreFields, propertyName f = f := by decide

/-- A further property of a plain case stands for the pair that it is written for. -/
theorem extraProperty_of_isPlain {c : Case} (h : c.IsPlain) {p : Value × Value}
    (hp : p ∈ c.extra) :
    ∃ n : Named, (do
        let name ← fieldName p.1
        return (⟨name, ← jsonExpr p.2⟩ : Property)) = .ok n.property ∧
      n.pair = id p ∧ n.value.isWhole = true := by
  obtain ⟨s, hs, hplain⟩ := Value.isText_of_pairsPlain h.extra p hp
  obtain ⟨e, he, hwhole, hback⟩ := jsonExpr_of_isPlain hplain
  refine ⟨⟨s, e⟩, ?_, ?_, hwhole⟩
  · rw [hs, fieldName, he]
    rfl
  · rw [Named.pair, hback, ← hs]
    rfl

/-- The properties of a plain case stand for its fields. -/
theorem caseProperties_of_isPlain {c : Case} (h : c.IsPlain) :
    ∃ row : List Named, caseProperties c = .ok (row.map Named.property) ∧
      Value.map (row.map Named.pair) = .map c.fields ∧ ∀ n ∈ row, n.value.isWhole = true := by
  obtain ⟨value, hvalue, hvaluewhole, hvalueback⟩ := literalExpr_of_isPlain h.value
  obtain ⟨data, hdata, hdatawhole, hdataback⟩ :=
    jsonExpr_of_isPlain (show (Value.map c.data).isPlain = true from h.data)
  obtain ⟨hlabelwhole, hlabelback⟩ := labelExpr_spec c.label
  obtain ⟨extra, hextra, hextraback, hextrawhole⟩ :=
    mapM_of_forall Named.property Named.pair (fun n => n.value.isWhole = true)
      fun p hp => extraProperty_of_isPlain h hp
  refine ⟨[⟨"key", .text c.key⟩, ⟨"value", value⟩, ⟨"label", labelExpr c.label⟩,
    ⟨"meta", .frozen data⟩] ++ extra, ?_, ?_, ?_⟩
  · rw [caseProperties, hvalue, hdata, hextra, List.map_append]
    simp only [List.map_cons, List.map_nil, Named.property,
      propertyName_coreField "key" (by decide), propertyName_coreField "value" (by decide),
      propertyName_coreField "label" (by decide), propertyName_coreField "meta" (by decide)]
    rfl
  · rw [Case.fields_of_isPlain h, List.map_append, hextraback, List.map_id]
    simp only [List.map_cons, List.map_nil, Named.pair, Expr.toValue, hvalueback, hlabelback,
      hdataback]
  · intro n hn
    simp only [List.cons_append, List.nil_append, List.mem_cons] at hn
    rcases hn with rfl | rfl | rfl | rfl | hn
    · rfl
    · exact hvaluewhole
    · exact hlabelwhole
    · exact hdatawhole
    · exact hextrawhole n hn

/-- The properties of a choice that stands for plain data are its value and its label. -/
theorem choiceProperties_of_isPlain {c : Choice} (h : c.value.isPlain = true) :
    ∃ value : Expr, choiceProperties c = .ok
        [Named.property ⟨"value", value⟩, Named.property ⟨"label", .text c.label⟩] ∧
      value.toValue = c.value ∧ value.isWhole = true := by
  obtain ⟨value, hvalue, hwhole, hback⟩ := literalExpr_of_isPlain h
  refine ⟨value, ?_, hback, hwhole⟩
  simp only [choiceProperties, hvalue, Named.property,
    propertyName_coreField "value" (by decide), propertyName_coreField "label" (by decide)]
  rfl

end Script

end EnumExport
