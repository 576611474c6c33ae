import EnumExport.Manifest.Record
import EnumExport.Proofs.Outcome

/-!
# Entries and their data

The data of a case holds its core fields and, behind them, its further properties; read back, what is
not named like a core field is a further property. So a further property that is named like one of
them is the only thing that gets lost on the way, `ofValue_toValue`: what is read is the entry with
the properties of its `own`. An entry that was read from some data has no other properties, and so
comes back as it is.
-/

namespace EnumExport

namespace Assoc

variable {α β : Type} [BEq α]

theorem has_eq_any (k : α) (m : List (α × β)) : has k m = m.any fun p => p.1 == k := by
  induction m with
  | nil => rfl
  | cons p rest ih =>
    rw [← List.singleton_append, has_append, has_singleton, ih]
    rfl

/-- Of pairs with keys of their own those are added whose keys do not occur before. -/
theorem foldl_putNew_of_distinct {pairs base : List (α × β)}
    (h : pairs.Pairwise fun p q => (p.1 == q.1) = false) :
    pairs.foldl (fun m p => putNew p.1 p.2 m) base =
      base ++ pairs.filter fun p => !has p.1 base := by
  induction pairs generalizing base with
  | nil => simp
  | cons p rest ih =>
    obtain ⟨hp, hrest⟩ := List.pairwise_cons.mp h
    rw [List.foldl_cons, putNew, ih hrest]
    cases hbase : has p.1 base with
    | true => rw [if_pos rfl, List.filter_cons_of_neg (by simp [hbase])]
    | false =>
      have hothers : rest.filter (fun q => !has q.1 (base ++ [p])) =
          rest.filter fun q => !has q.1 base := by
        refine List.filter_congr fun q hq => ?_
        rw [has_append, has_singleton, hp q hq, Bool.or_false]
      rw [if_neg Bool.false_ne_true, hothers, List.filter_cons_of_pos (by simp [hbase]),
        List.append_assoc]
      rfl

end Assoc

/-! ## The properties that are kept -/

namespace LooseCase

/-- No further property of the case occurs twice. -/
def KeysApart (c : LooseCase) : Prop := c.extra.Pairwise fun p q => (p.1 == q.1) = false

/-- No further property of the case is named like a core field. -/
def AvoidsCore (c : LooseCase) : Prop := ∀ p ∈ c.extra, isCoreField p.1 = false

/-- The core fields of the case. -/
def core (c : LooseCase) : List (Value × Value) :=
  [(.text "key", c.key), (.text "value", c.value), (.text "label", c.label),
    (.text "meta", .map c.data)]

/-- The case with those of its further properties that are not named like a core field. -/
def own (c : LooseCase) : LooseCase :=
  { c with extra := c.extra.filter fun p => !isCoreField p.1 }

variable {c : LooseCase}

theorem has_core (c : LooseCase) (k : Value) : Assoc.has k c.core = isCoreField k := by
  rw [Assoc.has_eq_any]
  rfl

/-- The fields are the core ones and, behind them, the further ones of other names. -/
theorem fields_eq (h : c.KeysApart) : c.fields = c.core ++ c.own.extra := by
  have hfields : c.fields = c.core ++ c.extra.filter fun p => !Assoc.has p.1 c.core :=
    Assoc.foldl_putNew_of_distinct h
  simp only [has_core] at hfields
  exact hfields

theorem KeysApart.own (h : c.KeysApart) : c.own.KeysApart := List.Pairwise.filter _ h

theorem own_avoidsCore (c : LooseCase) : c.own.AvoidsCore := by
  intro p hp
  simpa using (List.mem_filter.mp hp).2

theorem own_of_avoidsCore (h : c.AvoidsCore) : c.own = c := by
  have hall : c.extra.filter (fun p => !isCoreField p.1) = c.extra :=
    List.filter_eq_self.mpr fun p hp => by rw [h p hp]; rfl
  rw [own, hall]

/-- What is left out of the case is left out of its fields anyway. -/
theorem fields_own (h : c.KeysApart) : c.own.fields = c.fields := by
  rw [fields_eq h, fields_eq h.own, own_of_avoidsCore c.own_avoidsCore]
  rfl

end LooseCase

namespace LooseEntry

/-- No further property of a case occurs twice. -/
def KeysApart (e : LooseEntry) : Prop := ∀ c ∈ e.cases, c.KeysApart

/-- No further property of a case is named like a core field. -/
def AvoidsCore (e : LooseEntry) : Prop := ∀ c ∈ e.cases, c.AvoidsCore

/-- The entry with those further properties of its cases that are not named like a core field. -/
def own (e : LooseEntry) : LooseEntry := { e with cases := e.cases.map LooseCase.own }

variable {e : LooseEntry}

theorem own_of_avoidsCore (h : e.AvoidsCore) : e.own = e := by
  have hcases : e.cases.map LooseCase.own = e.cases :=
    (List.map_congr_left fun c hc => LooseCase.own_of_avoidsCore (h c hc)).trans (List.map_id _)
  rw [own, hcases]

theorem toValue_own (h : e.KeysApart) : e.own.toValue = e.toValue := by
  have hcases : (e.own.cases.map fun c => Value.map c.fields) =
      e.cases.map fun c => .map c.fields := by
    rw [own, List.map_map]
    exact List.map_congr_left fun c hc => congrArg Value.map (LooseCase.fields_own (h c hc))
  rw [toValue, toValue, hcases]
  rfl

end LooseEntry

/-! ## Reading what was written -/

theorem pairsOf_map (ps : List (Value × Value)) : pairsOf (some (.map ps)) = .ok ps := by
  cases ps <;> rfl

theorem BackingKind.ofData_toValue (k : Option BackingKind) :
    BackingKind.ofData (BackingKind.toValue k) = .ok k := by
  cases k with
  | none => rfl
  | some k => cases k <;> rfl

theorem LooseCase.ofValue_fields {c : LooseCase} (h : c.KeysApart) :
    LooseCase.ofValue (.map c.fields) = .ok c.own := by
  -- what stands in front of the further properties is no further property
  have hown : (c.core ++ c.own.extra).filter (fun p => !isCoreField p.1) = c.own.extra := by
    have hcore : c.core.filter (fun p => !isCoreField p.1) = [] := by
      simp [core, isCoreField, coreFields, Value.same_text]
    rw [List.filter_append, hcore, List.nil_append]
    exact congrArg LooseCase.extra (own_of_avoidsCore c.own_avoidsCore)
  have hkey : item (.map (c.core ++ c.own.extra)) "key" = .ok c.key := by
    simp [item, core, Value.field?, Assoc.get?, Value.beq_eq_same, Value.same_text]
  have hlabel : item (.map (c.core ++ c.own.extra)) "label" = .ok c.label := by
    simp [item, core, Value.field?, Assoc.get?, Value.beq_eq_same, Value.same_text]
  have hvalue : Value.field? "value" (c.core ++ c.own.extra) = some c.value := by
    simp [core, Value.field?, Assoc.get?, Value.beq_eq_same, Value.same_text]
  have hdata : Value.field? "meta" (c.core ++ c.own.extra) = some (.map c.data) := by
    simp [core, Value.field?, Assoc.get?, Value.beq_eq_same, Value.same_text]
  rw [fields_eq h, LooseCase.ofValue, hkey, hlabel]
  simp only [Value.pairs?, Option.getD_some, hvalue, hdata, pairsOf_map, hown]
  rfl

/-- The data of an entry is a map with the fields that reading asks for. -/
theorem LooseEntry.toValue_fields (e : LooseEntry) : ∃ fields, e.toValue = .map fields ∧
    Value.field? "name" fields = some e.name ∧ Value.field? "fqcn" fields = some e.qualifiedName ∧
    Value.field? "backingType" fields = some (BackingKind.toValue e.backing) ∧
    itemsField "entries" fields = .ok (e.cases.map fun c => .map c.fields) ∧
    itemsField "options" fields = .ok (e.choices.map fun c => .map (choiceFields c)) := by
  refine ⟨_, rfl, ?_, ?_, ?_, ?_, ?_⟩ <;>
    simp [itemsField, Value.field?, Assoc.get?, Value.beq_eq_same, Value.same_text, Value.items?]

theorem item_choiceFields (c : Value × Value) :
    item (.map (choiceFields c)) "value" = .ok c.1 ∧
      item (.map (choiceFields c)) "label" = .ok c.2 := by
  simp [item, choiceFields, Value.field?, Assoc.get?, Value.beq_eq_same, Value.same_text]

/-- What is read back is the entry without the further properties that are named like a core
field. -/
theorem LooseEntry.ofValue_toValue {e : LooseEntry} (h : e.KeysApart) :
    LooseEntry.ofValue e.toValue = .ok e.own := by
  obtain ⟨fields, hvalue, hname, hqualified, hbacking, hentries, hoptions⟩ := e.toValue_fields
  have hcases : (e.cases.map fun c => Value.map c.fields).mapM LooseCase.ofValue =
      .ok (e.cases.map LooseCase.own) := by
    rw [List.mapM_map]
    exact mapM_eq_ok fun c hc => LooseCase.ofValue_fields (h c hc)
  have hchoices : ((e.choices.map fun c => Value.map (choiceFields c)).mapM fun o => do
      let value ← item o "value"
      let label ← item o "label"
      return (value, label)) = .ok (e.choices.map id) := by
    rw [List.mapM_map]
    refine mapM_eq_ok fun c _ => ?_
    obtain ⟨hvalue, hlabel⟩ := item_choiceFields c
    rw [Function.comp_apply, hvalue, hlabel]
    rfl
  have hitem : item (.map fields) "name" = .ok e.name := by rw [item, hname]
  rw [hvalue, LooseEntry.ofValue, hentries, hoptions, hitem, hqualified, hbacking,
    Option.getD_some, BackingKind.ofData_toValue]
  simp only [ok_bind, hcases, hchoices, List.map_id]
  rfl

/-! ## Writing what was read -/

namespace Value

mutual

/-- Whether no map has a key twice, at any depth of a value. -/
def wellKeyed : Value → Bool
  | .list xs | .tuple xs | .set _ xs => areWellKeyed xs
  | .map ps | .readOnly ps =>
    decide (ps.Pairwise fun p q => (p.1 == q.1) = false) && pairsWellKeyed ps
  | .member _ v => wellKeyed v
  | _ => true

/-- Whether no map has a key twice, at any depth of several values. -/
def areWellKeyed : List Value → Bool
  | [] => true
  | x :: xs => wellKeyed x && areWellKeyed xs

/-- Whether no map has a key twice, at any depth of the keys and values of pairs. -/
def pairsWellKeyed : List (Value × Value) → Bool
  | [] => true
  | (k, v) :: ps => wellKeyed k && wellKeyed v && pairsWellKeyed ps

end

theorem areWellKeyed_iff {xs : List Value} :
    areWellKeyed xs = true ↔ ∀ x ∈ xs, x.wellKeyed = true := by
  induction xs with
  | nil => simp [areWellKeyed]
  | cons x xs ih => simp [areWellKeyed, ih]

theorem pairsWellKeyed_iff {ps : List (Value × Value)} :
    pairsWellKeyed ps = true ↔ ∀ p ∈ ps, p.1.wellKeyed = true ∧ p.2.wellKeyed = true := by
  induction ps with
  | nil => simp [pairsWellKeyed]
  | cons p ps ih =>
    obtain ⟨k, v⟩ := p
    simp [pairsWellKeyed, ih]

variable {v : Value}

theorem apart_of_wellKeyed {ps : List (Value × Value)} (h : v.wellKeyed = true)
    (hps : v.pairs? = some ps) : ps.Pairwise fun p q => (p.1 == q.1) = false := by
  cases v with
  | map qs | readOnly qs =>
    cases hps
    simp only [wellKeyed, Bool.and_eq_true, decide_eq_true_eq] at h
    exact h.1
  | _ => cases hps

/-- What going through a value yields has no key twice either. -/
theorem wellKeyed_items {xs : List Value} (h : v.wellKeyed = true) (hxs : v.items? = some xs) :
    ∀ x ∈ xs, x.wellKeyed = true := by
  cases v with
  | list ys | tuple ys | set _ ys =>
    cases hxs
    exact areWellKeyed_iff.mp h
  | map ps | readOnly ps =>
    cases hxs
    simp only [wellKeyed, Bool.and_eq_true] at h
    intro k hk
    obtain ⟨p, hp, rfl⟩ := List.mem_map.mp hk
    exact (pairsWellKeyed_iff.mp h.2 p hp).1
  | text s | bytes bs =>
    cases hxs
    intro x hx
    obtain ⟨c, -, rfl⟩ := List.mem_map.mp hx
    rfl
  | member tag w =>
    dsimp only [items?] at hxs
    split at hxs
    · cases hxs
      intro x hx
      obtain ⟨c, -, rfl⟩ := List.mem_map.mp hx
      rfl
    · cases hxs
  | _ => cases hxs

theorem wellKeyed_field? {name : String} {ps : List (Value × Value)} {w : Value}
    (h : (Value.map ps).wellKeyed = true) (hw : field? name ps = some w) :
    w.wellKeyed = true := by
  obtain ⟨p, hp, -, rfl⟩ := Assoc.mem_of_get? hw
  simp only [wellKeyed, Bool.and_eq_true] at h
  exact (pairsWellKeyed_iff.mp h.2 p hp).2

end Value

/-- The further properties that are read are those fields that are no core fields. -/
theorem LooseCase.extra_of_ofValue {v : Value} {c : LooseCase} (h : LooseCase.ofValue v = .ok c) :
    c.extra = (v.pairs?.getD []).filter fun p => !isCoreField p.1 := by
  obtain ⟨key, -, h⟩ := exists_of_bind_ok h
  obtain ⟨label, -, h⟩ := exists_of_bind_ok h
  obtain ⟨data, -, h⟩ := exists_of_bind_ok h
  cases h
  rfl

/-- The cases that are read come from what stands in the entries. -/
theorem LooseEntry.exists_of_ofValue {v : Value} {e : LooseEntry}
    (h : LooseEntry.ofValue v = .ok e) : ∃ fields xs, v = .map fields ∧
      itemsField "entries" fields = .ok xs ∧ xs.mapM LooseCase.ofValue = .ok e.cases := by
  cases v with
  | map fields =>
    obtain ⟨xs, hxs, h⟩ := exists_of_bind_ok h
    obtain ⟨cases, hcases, h⟩ := exists_of_bind_ok h
    obtain ⟨ys, -, h⟩ := exists_of_bind_ok h
    obtain ⟨choices, -, h⟩ := exists_of_bind_ok h
    obtain ⟨name, -, h⟩ := exists_of_bind_ok h
    obtain ⟨backing, -, h⟩ := exists_of_bind_ok h
    cases h
    exact ⟨fields, xs, rfl, hxs, hcases⟩
  | _ => cases h

theorem LooseEntry.avoidsCore_of_ofValue {v : Value} {e : LooseEntry}
    (h : LooseEntry.ofValue v = .ok e) : e.AvoidsCore := by
  obtain ⟨fields, xs, -, -, hcases⟩ := exists_of_ofValue h
  intro c hc p hp
  obtain ⟨x, -, hx⟩ := (mem_mapM_ok_iff hcases c).mp hc
  rw [LooseCase.extra_of_ofValue hx] at hp
  simpa using (List.mem_filter.mp hp).2

theorem LooseEntry.keysApart_of_ofValue {v : Value} {e : LooseEntry} (hv : v.wellKeyed = true)
    (h : LooseEntry.ofValue v = .ok e) : e.KeysApart := by
  obtain ⟨fields, xs, rfl, hxs, hcases⟩ := exists_of_ofValue h
  have hitems : ∀ x ∈ xs, x.wellKeyed = true := by
    rw [itemsField] at hxs
    split at hxs
    · cases hxs
      simp
    · next w hw =>
      split at hxs
      · next ys hys =>
        cases hxs
        exact Value.wellKeyed_items (Value.wellKeyed_field? hv hw) hys
      · cases hxs
  intro c hc
  obtain ⟨x, hx, hread⟩ := (mem_mapM_ok_iff hcases c).mp hc
  rw [LooseCase.KeysApart, LooseCase.extra_of_ofValue hread]
  refine List.Pairwise.filter _ ?_
  cases hpairs : x.pairs? with
  | none => exact List.Pairwise.nil
  | some ps => exact Value.apart_of_wellKeyed (hitems x hx) hpairs

end EnumExport
