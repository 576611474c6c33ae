import EnumExport.Class.Entry
import EnumExport.Class.Validity
import EnumExport.Proofs.Class.Members
import EnumExport.Proofs.Value.Scalar

/-!
# What an entry says of its class

The entry of a class that passes the tests describes the class, whatever the locale is and however
labels are resolved: `ClassDef.Describes`. This rests on three invariants, one of each part.

* The table of members is well formed, so keys and values are told apart.
* The tests let no value pass that is not of the scalar kind of the class.
* The results of methods keep clear of the core fields.

So such an entry is well formed but for the spelling of its keys: `entry_of_validated`.
-/

namespace EnumExport

/-- The choice of a case: its value, or its key where it has none, and one text of its label. -/
def Case.choice (r : LabelResolver) (locale : Value) (x : Case) : Choice where
  value := match x.value with
    | .null => .text x.key
    | v => v
  label := r.flatten x.label locale

/-- Two values that are told apart, as they are not equal unless one of them is null. -/
def Value.Apart (v w : Value) : Prop :=
  v ≠ .null → w ≠ .null → v.same w = false ∧ w.same v = false

/-- What the entry of a class says of the class. -/
structure ClassDef.Describes (c : ClassDef) (r : LabelResolver) (locale : Value) (entry : Entry) :
    Prop where
  /-- the scalar kind is that of the class -/
  backing : entry.backing = c.backing
  /-- there is a case -/
  nonempty : entry.cases ≠ []
  /-- there is one case for each member that is gone through, in that order -/
  keys : entry.cases.map Case.key = c.members.map Member.name
  /-- the values of the cases are the scalars of the members -/
  values : entry.cases.map Case.value = c.members.map c.scalarOf
  /-- no two cases have one key -/
  distinct : (entry.cases.map Case.key).Nodup
  /-- without a scalar kind there are no values -/
  unbacked : entry.backing = none → ∀ x ∈ entry.cases, x.value = .null
  /-- with a scalar kind, a value is null or of just that kind -/
  backed : ∀ k, entry.backing = some k →
    ∀ x ∈ entry.cases, x.value = .null ∨ BackingKind.ofValue? x.value = some k
  /-- no two values are equal unless they are null -/
  apart : (entry.cases.map Case.value).Pairwise Value.Apart
  /-- no further property is named like a core field -/
  extra : ∀ x ∈ entry.cases, ∀ p ∈ x.extra, isCoreField p.1 = false
  /-- there is one choice for each case, in order -/
  choices : entry.choices = entry.cases.map (Case.choice r locale)

/-! ## The tests -/

theorem Modules.validate_ok {ms : Modules} {candidate : Candidate} {c : ClassDef}
    (h : ms.validate candidate = .ok c) :
    c.isEnum = true ∧ c.members ≠ [] ∧ c.mixedKinds? = none := by
  rw [validate] at h
  split at h
  · cases h
  · rw [checkClass] at h
    split at h
    · cases h
    · next henum =>
      split at h
      · cases h
      · split at h
        · cases h
        · next hmembers =>
          split at h
          · cases h
          · next hkinds =>
            obtain rfl := Except.ok.inj h
            exact ⟨by simpa using henum, by simpa using hmembers, hkinds⟩
  · cases h

theorem BackingKind.text_inj {k k' : BackingKind} (h : k.text = k'.text) : k = k' := by
  rw [← Option.some_inj, ← ofText?_text, ← ofText?_text, h]

/-- The values of a class of a scalar kind that passes the tests are null or of that kind. -/
theorem ClassDef.kind_of_mixedKinds?_none {c : ClassDef} {k : BackingKind}
    (h : c.mixedKinds? = none) (hk : c.backing = some k) :
    ∀ m ∈ c.members, m.value = .null ∨ BackingKind.ofValue? m.value = some k := by
  intro m hm
  rw [mixedKinds?, hk] at h
  dsimp only at h
  split at h
  · next hall =>
    cases hnull : m.value.isNull with
    | true =>
      left
      cases hv : m.value <;> first | rfl | simp [hv, Value.isNull] at hnull
    | false =>
      right
      have hword : kindWord m.value = k.text := by
        have hmem : kindWord m.value ∈
            ((c.members.map Member.value).filter fun v => !v.isNull).map kindWord :=
          List.mem_map_of_mem (List.mem_filter.mpr ⟨List.mem_map_of_mem hm, by rw [hnull]; rfl⟩)
        exact beq_iff_eq.mp (List.all_eq_true.mp hall _ hmem)
      rw [kindWord] at hword
      split at hword
      · next k' hk' => rw [hk', BackingKind.text_inj hword]
      · cases k <;> simp [BackingKind.text] at hword
  · cases h

/-! ## The results of methods -/

theorem isCoreField_text (s : String) : isCoreField (.text s) = coreFields.contains s := by
  simp only [isCoreField, Value.same_text, List.contains_eq_any_beq]
  exact congrArg (List.any coreFields) (funext fun f => BEq.comm)

/-- No result of a method is named like a core field. -/
theorem ClassDef.resultsFrom_apart (c : ClassDef) (m : Member) (methods : List Method)
    {before : List (String × Value)} (h : ∀ p ∈ before, coreFields.contains p.1 = false) :
    ∀ p ∈ (c.resultsFrom m before methods).1, coreFields.contains p.1 = false := by
  induction methods generalizing before with
  | nil => exact h
  | cons method rest ih =>
    rw [resultsFrom]
    dsimp only
    split
    · exact ih h
    · next hname =>
      split
      · exact ih h
      · next v _ =>
        refine ih fun p hp => ?_
        rcases Assoc.mem_put hp with hp | ⟨q, hq, hqp⟩
        · rw [hp]
          exact Bool.eq_false_iff.mpr hname
        · rw [← hqp]
          exact h q hq

/-! ## Cases and choices -/

theorem ClassDef.extra_caseOf (c : ClassDef) (m : Member) (label : Label) :
    ∀ p ∈ (c.caseOf m label (c.results m).1).extra, isCoreField p.1 = false := by
  intro p hp
  obtain ⟨q, hq, rfl⟩ := List.mem_map.mp hp
  rw [isCoreField_text]
  exact c.resultsFrom_apart m c.exportedMethods (by simp) q hq

/-- The case and the choice of a member, if its label is resolved. -/
def ClassDef.rowOf (c : ClassDef) (files : FileTree) (r : LabelResolver) (locale : Value)
    (m : Member) : Except EntryFault (Case × Choice) :=
  match r.resolve files m.name (c.notesFor m) c.name locale with
  | .error e => .error (.label e)
  | .ok label =>
    .ok (c.caseOf m label (c.results m).1, ⟨c.choiceValue m, r.flatten label locale⟩)

/-- A row is made of its member and the label that is resolved for it. -/
theorem ClassDef.rowOf_ensures (c : ClassDef) (files : FileTree) (r : LabelResolver) (locale : Value)
    (m : Member) : Ensures (c.rowOf files r locale m) fun p => ∃ label,
      r.resolve files m.name (c.notesFor m) c.name locale = .ok label ∧
        p = (c.caseOf m label (c.results m).1, ⟨c.choiceValue m, r.flatten label locale⟩) := by
  intro p hp
  rw [rowOf] at hp
  split at hp
  · cases hp
  · next label hlabel => exact ⟨label, hlabel, (Except.ok.inj hp).symm⟩

/-- The cases and choices of some members are made for these members one by one. -/
theorem ClassDef.casesFrom_eq (c : ClassDef) (files : FileTree) (r : LabelResolver) (locale : Value)
    (members : List Member) :
    (c.casesFrom files r locale members).2 = members.mapM (c.rowOf files r locale) := by
  induction members with
  | nil => rfl
  | cons m ms ih =>
    rw [casesFrom, List.mapM_cons, ← ih, rowOf]
    cases r.resolve files m.name (c.notesFor m) c.name locale with
    | error e => rfl
    | ok label =>
      dsimp only
      cases (c.casesFrom files r locale ms).2 <;> rfl

/-- The cases and choices of an entry are the rows of the members of its class. -/
theorem ClassDef.rows_of_entry {c : ClassDef} {files : FileTree} {r : LabelResolver}
    {locale : Value} {qualifiedName : Option String} {entry : Entry}
    (h : (c.entry files r locale qualifiedName).2 = .ok entry) :
    ∃ rows, c.members.mapM (c.rowOf files r locale) = .ok rows ∧
      entry.cases = rows.map Prod.fst ∧ entry.choices = rows.map Prod.snd := by
  unfold ClassDef.entry at h
  split at h
  · cases h
  · rw [← casesFrom_eq]
    cases hcases : (c.casesFrom files r locale c.members).2 with
    | error e =>
      simp only [hcases, Except.map] at h
      cases h
    | ok rows =>
      simp only [hcases, Except.map] at h
      obtain rfl := Except.ok.inj h
      exact ⟨rows, rfl, rfl, rfl⟩

theorem ClassDef.casesFrom_spec (c : ClassDef) (files : FileTree) (r : LabelResolver)
    (locale : Value) (members : List Member) :
    Ensures (c.casesFrom files r locale members).2 fun cs =>
      (cs.map fun p => p.1.key) = members.map Member.name ∧
      (cs.map fun p => p.1.value) = members.map c.scalarOf ∧
      ∀ p ∈ cs, (∀ q ∈ p.1.extra, isCoreField q.1 = false) ∧ p.2 = p.1.choice r locale := by
  rw [casesFrom_eq]
  have hrow := c.rowOf_ensures files r locale
  intro cs hcs
  refine ⟨Ensures.mapM (fun m _ p hp => ?_) cs hcs, Ensures.mapM (fun m _ p hp => ?_) cs hcs,
    (Ensures.mapM_forall (fun m _ p hp => ?_) cs hcs).2⟩
  all_goals obtain ⟨label, -, rfl⟩ := hrow m p hp
  · rfl
  · rfl
  · exact ⟨c.extra_caseOf m label, rfl⟩

/-! ## The entry -/

section Built

variable {known : List ClassDef} {d : ClassDecl} {c : ClassDef} {ms : Modules}
  {candidate : Candidate} {k : BackingKind}

theorem ClassDef.scalarOf_of_none (h : c.backing = none) (m : Member) : c.scalarOf m = .null := by
  rw [scalarOf, h]
  rfl

theorem ClassDef.scalarOf_of_some (h : c.backing = some k) (m : Member) :
    c.scalarOf m = m.value := by
  rw [scalarOf, h]
  rfl

/-- No two members of a class that passes the tests have equal scalars unless these are null. -/
theorem ClassDef.scalars_apart (hc : ofDeclOver known d = .ok c)
    (hvalid : ms.validate candidate = .ok c) :
    (c.members.map c.scalarOf).Pairwise Value.Apart := by
  obtain ⟨-, -, hkinds⟩ := Modules.validate_ok hvalid
  refine List.pairwise_map.mpr ((table_wellFormed known d c hc).apart.imp_of_mem ?_)
  intro m n hm hn hapart hmnull hnnull
  cases hk : c.backing with
  | none => exact absurd (scalarOf_of_none hk m) hmnull
  | some k =>
    rw [scalarOf_of_some hk] at hmnull hnnull ⊢
    rw [scalarOf_of_some hk]
    have hmkind := (kind_of_mixedKinds?_none hkinds hk m hm).resolve_left hmnull
    have hnkind := (kind_of_mixedKinds?_none hkinds hk n hn).resolve_left hnnull
    obtain ⟨a, ha⟩ := BackingKind.scalar?_of_ofValue? hmkind
    obtain ⟨b, hb⟩ := BackingKind.scalar?_of_ofValue? hnkind
    -- the table tells values apart in one direction; among scalars that is enough
    have hne := hapart (Value.unhashable?_of_scalar ha)
    rw [Value.same_of_scalar ha hb] at hne
    rw [Value.same_of_scalar ha hb, Value.same_of_scalar hb ha]
    have hab : a ≠ b := of_decide_eq_false hne
    exact ⟨decide_eq_false hab, decide_eq_false hab.symm⟩

/-- The entry of a class that passes the tests describes it. -/
theorem ClassDef.describes_of_entry {files : FileTree} {r : LabelResolver} {locale : Value}
    {qualifiedName : Option String} {entry : Entry} (hc : ofDeclOver known d = .ok c)
    (hvalid : ms.validate candidate = .ok c)
    (hentry : (c.entry files r locale qualifiedName).2 = .ok entry) :
    c.Describes r locale entry := by
  obtain ⟨henum, hmembers, hkinds⟩ := Modules.validate_ok hvalid
  have htable := table_wellFormed known d c hc
  unfold ClassDef.entry at hentry
  rw [henum] at hentry
  cases hcases : (c.casesFrom files r locale c.members).2 with
  | error e =>
    simp [hcases, Except.map] at hentry
  | ok cs =>
    simp only [Bool.not_true, Bool.false_eq_true, if_false, hcases, Except.map] at hentry
    obtain rfl := Except.ok.inj hentry
    obtain ⟨hkeys, hvalues, hmade⟩ := c.casesFrom_spec files r locale c.members cs hcases
    have hkeys : (cs.map Prod.fst).map Case.key = c.members.map Member.name := by
      rw [List.map_map]
      exact hkeys
    have hvalues : (cs.map Prod.fst).map Case.value = c.members.map c.scalarOf := by
      rw [List.map_map]
      exact hvalues
    have hvalue : ∀ x ∈ cs.map Prod.fst, ∃ m ∈ c.members, c.scalarOf m = x.value := by
      intro x hx
      have hmem := List.mem_map_of_mem (f := Case.value) hx
      rw [hvalues] at hmem
      exact List.mem_map.mp hmem
    refine ⟨rfl, ?_, hkeys, hvalues, ?_, ?_, ?_, ?_, ?_, ?_⟩
    · intro hnil
      rw [show cs.map Prod.fst = [] from hnil] at hkeys
      exact hmembers (List.map_eq_nil_iff.mp hkeys.symm)
    · rw [hkeys]
      exact htable.listed.nodup htable.distinct
    · intro hnone x hx
      obtain ⟨m, -, hm⟩ := hvalue x hx
      rw [← hm, scalarOf_of_none hnone]
    · intro k hk x hx
      obtain ⟨m, hmem, hm⟩ := hvalue x hx
      rw [← hm, scalarOf_of_some hk]
      exact kind_of_mixedKinds?_none hkinds hk m hmem
    · rw [hvalues]
      exact scalars_apart hc hvalid
    · intro x hx
      obtain ⟨p, hp, rfl⟩ := List.mem_map.mp hx
      exact (hmade p hp).1
    · rw [List.map_map]
      exact List.map_congr_left fun p hp => (hmade p hp).2

/-- A check of cases with keys and scalars of their own finds fault with the spelling of a key or with
nothing. -/
theorem checkCases_error {keys : List String} {values : List Value} {cases : List Case}
    (hdistinct : (cases.map Case.key).Nodup) (hkeys : ∀ x ∈ cases, x.key ∉ keys)
    (hscalar : ∀ x ∈ cases, x.value = .null ∨ ∃ a, x.value.scalar? = some a)
    (hapart : (cases.map Case.value).Pairwise Value.Apart)
    (hvalues : ∀ w ∈ values, ∀ x ∈ cases, x.value ≠ .null → x.value.same w = false)
    {e : GenerateError} (he : checkCases keys values cases = .error e) :
    ∃ key, e = .rejected (.reservedKey key) ∨ e = .rejected (.notIdentifier key) := by
  induction cases generalizing keys values with
  | nil => cases he
  | cons x rest ih =>
    obtain ⟨hx, hdistinct⟩ := List.nodup_cons.mp hdistinct
    obtain ⟨hxapart, hapart⟩ := List.pairwise_cons.mp hapart
    have hnext : ∀ y ∈ rest, y.key ∉ x.key :: keys := by
      intro y hy hmem
      rcases List.mem_cons.mp hmem with heq | hmem
      · exact hx (heq ▸ List.mem_map_of_mem hy)
      · exact hkeys y (by simp [hy]) hmem
    have hscalars : ∀ y ∈ rest, y.value = .null ∨ ∃ a, y.value.scalar? = some a :=
      fun y hy => hscalar y (by simp [hy])
    have hbefore : ∀ w ∈ values, ∀ y ∈ rest, y.value ≠ .null → y.value.same w = false :=
      fun w hw y hy => hvalues w hw y (by simp [hy])
    rw [checkCases] at he
    -- the tests of one case, in their order: key, spelling, value
    split at he
    · next hcontains => exact absurd (List.contains_iff_mem.mp hcontains) (hkeys x (by simp))
    · split at he
      · exact ⟨x.key, .inl (Except.error.inj he).symm⟩
      · split at he
        · exact ⟨x.key, .inr (Except.error.inj he).symm⟩
        · split at he
          · exact ih hdistinct hnext hscalars hapart hbefore he
          · next hnull =>
            obtain ⟨a, ha⟩ := (hscalar x (by simp)).resolve_left hnull
            rw [Value.unhashable?_of_scalar ha] at he
            dsimp only at he
            split at he
            · next hany =>
              obtain ⟨w, hw, hcollides⟩ := List.any_eq_true.mp hany
              have hsame := hvalues w hw x (by simp) hnull
              simp [Value.collides, hsame] at hcollides
            · refine ih hdistinct hnext hscalars hapart ?_ he
              intro w hw y hy hynull
              rcases List.mem_cons.mp hw with rfl | hw
              · exact (hxapart y.value (List.mem_map_of_mem hy) hnull hynull).2
              · exact hbefore w hw y hy hynull

/-- An entry that describes a class is well formed but for the spelling of its keys. -/
theorem ClassDef.Describes.check_error {r : LabelResolver} {locale : Value} {entry : Entry}
    (h : c.Describes r locale entry) {e : GenerateError} (he : entry.check = .error e) :
    ∃ key, e = .rejected (.reservedKey key) ∨ e = .rejected (.notIdentifier key) := by
  rw [Entry.check, if_neg (by simpa using h.nonempty)] at he
  refine checkCases_error h.distinct (by simp) ?_ h.apart (by simp) he
  intro x hx
  cases hk : entry.backing with
  | none => exact .inl (h.unbacked hk x hx)
  | some k => exact (h.backed k hk x hx).imp_right BackingKind.scalar?_of_ofValue?

/-- **Entries of classes that pass the tests.** Whatever the candidate, the modules, the resolver
and the locale are, the entry of such a class describes the class, and no more can be wrong with it
than that a key is a name of the generated object or is no identifier. -/
theorem ClassDef.entry_of_validated {files : FileTree} {r : LabelResolver} {locale : Value}
    {qualifiedName : Option String} {entry : Entry} (hc : ofDeclOver known d = .ok c)
    (hvalid : ms.validate candidate = .ok c)
    (hentry : (c.entry files r locale qualifiedName).2 = .ok entry) :
    c.Describes r locale entry ∧
      ∀ e, entry.check = .error e →
        ∃ key, e = .rejected (.reservedKey key) ∨ e = .rejected (.notIdentifier key) := by
  have hdescribes := describes_of_entry hc hvalid hentry
  exact ⟨hdescribes, fun e he => hdescribes.check_error he⟩

end Built

/-! ## A class with another name for a member and a member without value -/

/-- A declaration of texts that keeps its values. -/
def suit : ClassDecl where
  name := "Suit"
  qualifiedName := "Suit"
  module := "app"
  bases := [.marker, .text, .enumeration]
  members := [("Hearts", .given (.text "H")), ("Reds", .given (.text "H")),
    ("Nothing", .given .null)]
  keepsValues := true

/-- The class of that declaration. -/
def suitClass : ClassDef where
  name := "Suit"
  qualifiedName := "Suit"
  module := "app"
  line := [{ self := .declared "Suit" }, { self := .marker }, { self := .text },
    { self := .enumeration }, { self := .object }]
  table :=
    { names := [("Hearts", ⟨"Hearts", .text "H"⟩), ("Reds", ⟨"Hearts", .text "H"⟩),
        ("Nothing", ⟨"Nothing", .null⟩)]
      listed := [⟨"Hearts", .text "H"⟩, ⟨"Nothing", .null⟩] }
  notes := []
  keepsValues := true

theorem suit_table :
    MemberTable.build false .part {}
      [("Hearts", .text "H"), ("Reds", .text "H"), ("Nothing", .null)] = .ok suitClass.table := by
  have hbuild : MemberTable.build false .part {}
      [("Hearts", .text "H"), ("Reds", .text "H"), ("Nothing", .null)] =
        .ok (((({} : MemberTable).add false "Hearts" (.text "H")).add false "Reds" (.text "H")).add
          false "Nothing" .null) := rfl
  rw [hbuild]
  simp [MemberTable.add, MemberTable.find?, Value.beq_eq_same, Value.same, Value.scalarSame?, Value.numeral?,
    Value.asInt?, Value.asFloat?, Value.asText?, Value.unhashable?, suitClass]

theorem suit_built : ClassDef.ofDeclOver [] suit = .ok suitClass := by
  have hbuild : ClassDef.ofDeclOver [] suit =
      (MemberTable.build false .part {}
        [("Hearts", .text "H"), ("Reds", .text "H"), ("Nothing", .null)] >>= fun t =>
          .ok { suitClass with table := t }) := rfl
  rw [hbuild, suit_table]
  rfl

theorem entry_of_suit : ∃ entry, (suitClass.entry {} {} .null none).2 = .ok entry ∧
    suitClass.Describes {} .null entry := by
  have hvalid : Modules.validate [] (.class suitClass) = .ok suitClass := rfl
  obtain ⟨entry, hentry⟩ : ∃ entry, (suitClass.entry {} {} .null none).2 = .ok entry := ⟨_, rfl⟩
  exact ⟨entry, hentry, (ClassDef.entry_of_validated suit_built hvalid hentry).1⟩

end EnumExport
