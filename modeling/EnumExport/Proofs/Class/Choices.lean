import EnumExport.Proofs.Class.Generation
import Mathlib.Data.List.Pairwise

/-!
# Choices told apart

The choice of a case carries its value, or its key where it has none. This is about whether different
cases have different choices.

* Keys are told apart from keys and values from values, as the class passes the tests. No test
  compares a key with a value, so a choice is taken for another one just where the key of a case
  without value is the value of that other case: `differ_choice_iff`.
* So the choices are told apart where all cases have values, and where values are no texts:
  `choices_differ_iff`. In general they are not: `stage_choices_agree`.
-/

namespace EnumExport

/-- Neither of two values is equal to the other. -/
def Value.Differ (v w : Value) : Prop := v.same w = false ∧ w.same v = false

theorem Value.differ_iff_of_scalar {v w : Value} {a b : Scalar} (hv : v.scalar? = some a)
    (hw : w.scalar? = some b) : v.Differ w ↔ a ≠ b := by
  rw [Differ, same_of_scalar hv hw, same_of_scalar hw hv, decide_eq_false_iff_not,
    decide_eq_false_iff_not]
  exact and_iff_left_of_imp Ne.symm

theorem Value.asText?_eq_some_iff {v : Value} {a : Scalar} (h : v.scalar? = some a) (s : String) :
    v.asText? = some s ↔ a = .text s := by
  rcases scalar?_eq_some h with ⟨t, rfl, htext, -⟩ | ⟨i, rfl, htext, -⟩ <;> simp [htext]

/-! ## The choices of two cases -/

namespace Case

/-- The first case has no value, and its key is the value of the second. -/
def KeyIsValueOf (x y : Case) : Prop := x.value = .null ∧ y.value.asText? = some x.key

section

variable {x y : Case}

theorem choice_of_null (h : x.value = .null) (r : LabelResolver) (locale : Value) :
    (x.choice r locale).value = .text x.key := by
  rw [choice, h]

theorem choice_of_ne_null (h : x.value ≠ .null) (r : LabelResolver) (locale : Value) :
    (x.choice r locale).value = x.value := by
  rw [choice]
  dsimp only
  split
  · next hnull => exact absurd hnull h
  · rfl

theorem not_keyIsValueOf_of_ne_null (h : x.value ≠ .null) : ¬ x.KeyIsValueOf y := fun hxy => h hxy.1

theorem not_keyIsValueOf_null (h : y.value = .null) : ¬ x.KeyIsValueOf y := by
  rintro ⟨-, htext⟩
  rw [h] at htext
  cases htext

/-- Where keys are told apart from keys and values from values, a choice is taken for another just
where the key of a case without value is the value of the other case. -/
theorem differ_choice_iff (hx : x.value = .null ∨ ∃ a, x.value.scalar? = some a)
    (hy : y.value = .null ∨ ∃ b, y.value.scalar? = some b) (hkeys : x.key ≠ y.key)
    (hvalues : Value.Apart x.value y.value) (r : LabelResolver) (locale : Value) :
    Value.Differ (x.choice r locale).value (y.choice r locale).value ↔
      ¬ x.KeyIsValueOf y ∧ ¬ y.KeyIsValueOf x := by
  have htext : ∀ s, (Value.text s).scalar? = some (.text s) := fun _ => rfl
  rcases hx with hx | ⟨a, ha⟩ <;> rcases hy with hy | ⟨b, hb⟩
  · -- two keys
    rw [choice_of_null hx, choice_of_null hy, Value.differ_iff_of_scalar (htext _) (htext _)]
    simp [hkeys, not_keyIsValueOf_null hx, not_keyIsValueOf_null hy]
  · -- a key and a value
    have hne := Value.ne_null_of_scalar hb
    rw [choice_of_null hx, choice_of_ne_null hne, Value.differ_iff_of_scalar (htext _) hb]
    simp [KeyIsValueOf, hx, hne, Value.asText?_eq_some_iff hb, eq_comm]
  · -- a value and a key
    have hne := Value.ne_null_of_scalar ha
    rw [choice_of_ne_null hne, choice_of_null hy, Value.differ_iff_of_scalar ha (htext _)]
    simp [KeyIsValueOf, hy, hne, Value.asText?_eq_some_iff ha]
  · -- two values
    have hxne := Value.ne_null_of_scalar ha
    have hyne := Value.ne_null_of_scalar hb
    rw [choice_of_ne_null hxne, choice_of_ne_null hyne]
    exact iff_of_true (hvalues hxne hyne)
      ⟨not_keyIsValueOf_of_ne_null hxne, not_keyIsValueOf_of_ne_null hyne⟩

end

end Case

/-! ## The choices of an entry -/

namespace ClassDef.Describes

variable {c : ClassDef} {r : LabelResolver} {locale : Value} {entry : Entry}
  (h : c.Describes r locale entry)
include h

theorem differ_pairwise : entry.cases.Pairwise fun x y =>
    (Value.Differ (x.choice r locale).value (y.choice r locale).value ↔
      ¬ x.KeyIsValueOf y ∧ ¬ y.KeyIsValueOf x) := by
  have hapart := (List.pairwise_map.mp h.distinct).and (List.pairwise_map.mp h.apart)
  refine hapart.imp_of_mem fun hx hy hxy => ?_
  exact Case.differ_choice_iff (h.scalar_or_null _ hx) (h.scalar_or_null _ hy) hxy.1 hxy.2 r locale

/-- The choices are told apart just where no key of a case without value is a value. -/
theorem choices_differ : (entry.choices.map Choice.value).Pairwise Value.Differ ↔
    ∀ x ∈ entry.cases, ∀ y ∈ entry.cases, ¬ x.KeyIsValueOf y := by
  have hself : ∀ x ∈ entry.cases, ¬ x.KeyIsValueOf x ∧ ¬ x.KeyIsValueOf x := by
    intro x _
    have hnot : ¬ x.KeyIsValueOf x := fun hx => Case.not_keyIsValueOf_null hx.1 hx
    exact ⟨hnot, hnot⟩
  rw [h.choices, List.map_map, List.pairwise_map]
  constructor
  · intro hdiffer
    have hpairs := (hdiffer.and h.differ_pairwise).imp fun hxy => hxy.2.mp hxy.1
    intro x hx y hy
    exact (hpairs.forall_of_forall_of_flip hself (hpairs.imp And.symm) hx hy).1
  · intro hnone
    exact h.differ_pairwise.imp_of_mem fun hx hy hxy => hxy.mpr ⟨hnone _ hx _ hy, hnone _ hy _ hx⟩

/-- Without values that are texts, no key is a value. -/
theorem not_keyIsValueOf (hbacking : entry.backing ≠ some .string) :
    ∀ x ∈ entry.cases, ∀ y ∈ entry.cases, ¬ x.KeyIsValueOf y := by
  rintro x - y hy ⟨-, htext⟩
  have hnull : y.value ≠ .null := by
    intro hnull
    rw [hnull] at htext
    cases htext
  cases hk : entry.backing with
  | none => exact hnull (h.unbacked hk y hy)
  | some k =>
    have hkind := (h.backed k hk y hy).resolve_left hnull
    rw [BackingKind.ofValue?, Value.isText, htext] at hkind
    split at hkind
    · cases hkind
    · cases hkind
      exact hbacking hk

end ClassDef.Describes

/-- **Choices told apart.** There is one choice for each case. The choices of two cases of a class
that passes the tests are told apart unless one of the cases has no value and its key is the value of
the other. So all choices are told apart just where no key of a case without value is a value, and
this is so where values are no texts and where no case lacks a value. -/
theorem choices_differ_iff {entry : Entry} (h : entry.IsOfClass) :
    entry.choices.length = entry.cases.length ∧
    ((entry.cases.zip entry.choices).Pairwise fun p q =>
      (Value.Differ p.2.value q.2.value ↔ ¬ p.1.KeyIsValueOf q.1 ∧ ¬ q.1.KeyIsValueOf p.1)) ∧
    ((entry.choices.map Choice.value).Pairwise Value.Differ ↔
      ∀ x ∈ entry.cases, ∀ y ∈ entry.cases, ¬ x.KeyIsValueOf y) ∧
    (entry.backing ≠ some .string → (entry.choices.map Choice.value).Pairwise Value.Differ) ∧
    ((∀ x ∈ entry.cases, x.value ≠ .null) →
      (entry.choices.map Choice.value).Pairwise Value.Differ) := by
  obtain ⟨known, d, c, ms, candidate, files, r, locale, q, hc, hvalid, hentry⟩ := h
  have hdescribes := ClassDef.describes_of_entry hc hvalid hentry
  have hiff := hdescribes.choices_differ
  refine ⟨?_, ?_, hiff, fun hbacking => hiff.mpr (hdescribes.not_keyIsValueOf hbacking), ?_⟩
  · rw [hdescribes.choices, List.length_map]
  · have hzip : entry.cases.zip entry.choices =
        entry.cases.map fun x => (x, x.choice r locale) := by
      rw [hdescribes.choices]
      exact List.map_prod_left_eq_zip.symm
    rw [hzip]
    exact List.pairwise_map.mpr hdescribes.differ_pairwise
  · intro hvalues
    exact hiff.mpr fun x hx y _ => Case.not_keyIsValueOf_of_ne_null (hvalues x hx)

theorem suit_scalarOf (m : Member) : suitClass.scalarOf m = m.value :=
  ClassDef.scalarOf_of_some rfl m

/-- No key of the suit is a value. -/
theorem choices_differ_suit : ∃ entry, (suitClass.entry {} {} .null none).2 = .ok entry ∧
    entry.IsOfClass ∧ (entry.choices.map Choice.value).Pairwise Value.Differ := by
  obtain ⟨entry, hentry, hcases⟩ : ∃ entry, (suitClass.entry {} {} .null none).2 = .ok entry ∧
      ∀ x ∈ entry.cases, ∀ y ∈ entry.cases, ¬ x.KeyIsValueOf y :=
    ⟨_, rfl, by simp [Case.KeyIsValueOf, ClassDef.caseOf, suit_scalarOf, Value.asText?]⟩
  have hclass : entry.IsOfClass :=
    ⟨[], suit, suitClass, [], .class suitClass, {}, {}, .null, none, suit_built, rfl, hentry⟩
  exact ⟨entry, hentry, hclass, (choices_differ_iff hclass).2.2.1.mpr hcases⟩

/-! ## A case without value whose key is the value of another -/

/-- A declaration of texts that keeps its values. -/
def stage : ClassDecl where
  name := "Stage"
  qualifiedName := "Stage"
  module := "app"
  bases := [.marker, .text, .enumeration]
  members := [("Draft", .given .null), ("Live", .given (.text "Draft"))]
  keepsValues := true

/-- The class of that declaration. -/
def stageClass : ClassDef where
  name := "Stage"
  qualifiedName := "Stage"
  module := "app"
  line := [{ self := .declared "Stage" }, { self := .marker }, { self := .text },
    { self := .enumeration }, { self := .object }]
  table :=
    { names := [("Draft", ⟨"Draft", .null⟩), ("Live", ⟨"Live", .text "Draft"⟩)]
      listed := [⟨"Draft", .null⟩, ⟨"Live", .text "Draft"⟩] }
  notes := []
  keepsValues := true

theorem stage_table :
    MemberTable.build false .part {} [("Draft", .null), ("Live", .text "Draft")] =
      .ok stageClass.table := by
  have hbuild : MemberTable.build false .part {} [("Draft", .null), ("Live", .text "Draft")] =
      .ok ((({} : MemberTable).add false "Draft" .null).add false "Live" (.text "Draft")) := rfl
  rw [hbuild]
  simp [MemberTable.add, MemberTable.find?, Value.beq_eq_same, Value.same, Value.scalarSame?,
    Value.numeral?, Value.asInt?, Value.asFloat?, Value.asText?, Value.unhashable?, stageClass]

theorem stage_built : ClassDef.ofDeclOver [] stage = .ok stageClass := by
  have hbuild : ClassDef.ofDeclOver [] stage =
      (MemberTable.build false .part {} [("Draft", .null), ("Live", .text "Draft")] >>= fun t =>
        .ok { stageClass with table := t }) := rfl
  rw [hbuild, stage_table]
  rfl

/-- `Stage` passes the tests, and both its choices carry the text `Draft`. -/
theorem stage_choices_agree : ClassDef.ofDeclOver [] stage = .ok stageClass ∧
    Modules.validate [] (.class stageClass) = .ok stageClass ∧
    ∃ entry, (stageClass.entry {} {} .null none).2 = .ok entry ∧
      entry.choices.map Choice.value = [.text "Draft", .text "Draft"] ∧
      ¬ (entry.choices.map Choice.value).Pairwise Value.Differ := by
  obtain ⟨entry, hentry, hchoices⟩ : ∃ entry, (stageClass.entry {} {} .null none).2 = .ok entry ∧
      entry.choices.map Choice.value = [.text "Draft", .text "Draft"] := ⟨_, rfl, rfl⟩
  refine ⟨stage_built, rfl, entry, hentry, hchoices, ?_⟩
  rw [hchoices]
  simp [Value.Differ, Value.same_text]

end EnumExport
