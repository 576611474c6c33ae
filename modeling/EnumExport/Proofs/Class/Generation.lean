import EnumExport.Proofs.Class.Description
import EnumExport.Proofs.Manifest.Check
import EnumExport.Proofs.Script.Generation

/-!
# Generating the modules of classes

The entry of a class that passes the tests is made of its members (`cases_of_entry`), so there is
little that can keep its module from being generated:

* the values are scalars or null and the further properties are named by texts, so nothing goes wrong
  with these;
* a key may not be free, and metadata or the result of a method may have no JSON form:
  `error_of_generate`;
* metadata may be named by something else than texts: `nameless_iff`.
-/

namespace EnumExport

/-- What a class says of a member besides its value and label: the metadata, and the results of the
exported methods. -/
def ClassDef.dataOf (c : ClassDef) (m : Member) : List Value :=
  .map (c.notesFor m).metadata :: Assoc.values (c.results m).1

/-! ## Cases -/

/-- The cases of some members are made of these members. -/
theorem ClassDef.mem_casesFrom (c : ClassDef) (files : FileTree) (r : LabelResolver)
    (locale : Value) (members : List Member) :
    Ensures (c.casesFrom files r locale members).2 fun cs =>
      ∀ p ∈ cs, ∃ m ∈ members, ∃ label, p.1 = c.caseOf m label (c.results m).1 := by
  rw [casesFrom_eq]
  intro cs hcs p hp
  obtain ⟨m, hm, hrow⟩ := (mem_mapM_ok_iff hcs p).mp hp
  obtain ⟨label, -, rfl⟩ := c.rowOf_ensures files r locale m p hrow
  exact ⟨m, hm, label, rfl⟩

/-- An entry of a class that passes the tests, whatever locale and resolver it is made with. -/
def Entry.IsOfClass (e : Entry) : Prop :=
  ∃ (known : List ClassDef) (d : ClassDecl) (c : ClassDef) (ms : Modules) (candidate : Candidate)
    (files : FileTree) (r : LabelResolver) (locale : Value) (qualifiedName : Option String),
    ClassDef.ofDeclOver known d = .ok c ∧ ms.validate candidate = .ok c ∧
      (c.entry files r locale qualifiedName).2 = .ok e

section Class

variable {known : List ClassDef} {d : ClassDecl} {c : ClassDef} {ms : Modules}
  {candidate : Candidate} {files : FileTree} {r : LabelResolver} {locale : Value}
  {qualifiedName : Option String} {entry : Entry}

/-- The cases of an entry are made of the members of its class. -/
theorem ClassDef.cases_of_entry (hentry : (c.entry files r locale qualifiedName).2 = .ok entry) :
    ∀ x ∈ entry.cases, ∃ m ∈ c.members, ∃ label, x = c.caseOf m label (c.results m).1 := by
  obtain ⟨rows, hrows, hcases, -⟩ := rows_of_entry hentry
  rw [← casesFrom_eq] at hrows
  rw [hcases]
  intro x hx
  obtain ⟨p, hp, rfl⟩ := List.mem_map.mp hx
  exact c.mem_casesFrom files r locale c.members rows hrows p hp

/-! ## Values -/

/-- A scalar has a JSON form. -/
theorem Json.ofValue_of_scalar {v : Value} {a : Scalar} (h : v.scalar? = some a) :
    ∃ j, Json.ofValue v = .ok j := by
  cases v with
  | member tag v =>
    obtain ⟨owner, name, data, shows, isFlag⟩ := tag
    cases data <;> cases v <;> first | exact ⟨_, rfl⟩ | simp [Value.scalar?, Value.asText?, Value.asInt?] at h
  | _ => first | exact ⟨_, rfl⟩ | simp [Value.scalar?, Value.asText?, Value.asInt?] at h

namespace ClassDef.Describes

variable (h : c.Describes r locale entry)
include h

theorem scalar_or_null : ∀ x ∈ entry.cases, x.value = .null ∨ ∃ a, x.value.scalar? = some a := by
  intro x hx
  cases hk : entry.backing with
  | none => exact .inl (h.unbacked hk x hx)
  | some k => exact (h.backed k hk x hx).imp_right BackingKind.scalar?_of_ofValue?

/-- The values of the cases have a JSON form. -/
theorem written : ∀ x ∈ entry.cases, ∃ j, Json.ofValue x.value = .ok j := by
  intro x hx
  rcases h.scalar_or_null x hx with hnull | ⟨a, ha⟩
  · rw [hnull]
    exact ⟨.null, rfl⟩
  · exact Json.ofValue_of_scalar ha

/-- And so do those of the choices. -/
theorem choices_written : ∀ o ∈ entry.choices, ∃ j, Json.ofValue o.value = .ok j := by
  intro o ho
  rw [h.choices] at ho
  obtain ⟨x, hx, rfl⟩ := List.mem_map.mp ho
  rw [Case.choice]
  dsimp only
  split
  · exact ⟨_, rfl⟩
  · exact h.written x hx

/-- Where a value of the entry has no JSON form, it is something that the class says of a member. -/
theorem unwritten (hcases : ∀ x ∈ entry.cases, ∃ m ∈ c.members, ∃ label,
      x = c.caseOf m label (c.results m).1) {e : GenerateError}
    (he : Script.Unwritten entry.dataValues e) :
    ∃ m ∈ c.members, Script.Unwritten (c.dataOf m) e := by
  obtain ⟨v, hv, u, hu, rfl⟩ := he
  rcases List.mem_append.mp hv with hv | hv
  · obtain ⟨x, hx, hv⟩ := List.mem_flatMap.mp hv
    obtain ⟨m, hm, label, rfl⟩ := hcases x hx
    rcases List.mem_cons.mp hv with rfl | hv
    · obtain ⟨j, hj⟩ := h.written _ hx
      rw [hj] at hu
      cases hu
    · refine ⟨m, hm, v, ?_, u, hu, rfl⟩
      simpa [caseOf, dataOf, Assoc.values] using hv
  · obtain ⟨o, ho, rfl⟩ := List.mem_map.mp hv
    obtain ⟨j, hj⟩ := h.choices_written o ho
    rw [hj] at hu
    cases hu

end ClassDef.Describes

/-! ## Errors -/

/-- A class of which the metadata is named by texts. -/
def ClassDef.IsNamed (c : ClassDef) : Prop :=
  ∀ m ∈ c.members, ∀ p ∈ (c.notesFor m).metadata, p.1.isText = true

theorem ClassDef.extra_isText (hentry : (c.entry files r locale qualifiedName).2 = .ok entry) :
    ∀ x ∈ entry.cases, ∀ p ∈ x.extra, p.1.isText = true := by
  intro x hx p hp
  obtain ⟨m, -, label, rfl⟩ := c.cases_of_entry hentry x hx
  obtain ⟨q, -, rfl⟩ := List.mem_map.mp hp
  rfl

theorem ClassDef.isNamed_entry (hnamed : c.IsNamed)
    (hentry : (c.entry files r locale qualifiedName).2 = .ok entry) : entry.IsNamed where
  data := by
    intro x hx p hp
    obtain ⟨m, hm, label, rfl⟩ := c.cases_of_entry hentry x hx
    exact hnamed m hm p hp
  extra := c.extra_isText hentry

/-- Where metadata is named by texts, the module of a class that passes the tests is not generated
only because the name of a member is not free or something said of a member has no JSON form. -/
theorem ClassDef.error_of_generate (hc : ofDeclOver known d = .ok c)
    (hvalid : ms.validate candidate = .ok c) (hnamed : c.IsNamed)
    (hentry : (c.entry files r locale qualifiedName).2 = .ok entry) (name : String)
    (options : Script.Options) :
    FailsWith (Script.generate name entry options) fun e =>
      (∃ m ∈ c.members, e.misspelled? = some m.name ∧ isFreeKey m.name = false) ∨
        ∃ m ∈ c.members, Script.Unwritten (c.dataOf m) e := by
  have hdescribes := describes_of_entry hc hvalid hentry
  intro e he
  rcases Script.error_of_generate (isNamed_entry hnamed hentry) name options e he with he | he
  · obtain ⟨key, hkey⟩ : ∃ key, e.misspelled? = some key := by
      obtain ⟨key, rfl | rfl⟩ := hdescribes.check_error he <;> exact ⟨key, rfl⟩
    obtain ⟨x, hx, rfl, hfree⟩ := Entry.misspelled_of_check he hkey
    obtain ⟨m, hm, label, rfl⟩ := c.cases_of_entry hentry x hx
    exact .inl ⟨m, hm, hkey, hfree⟩
  · exact .inr (hdescribes.unwritten (c.cases_of_entry hentry) he)

theorem Script.generate_of_check {e : GenerateError} (h : entry.check = .error e) (name : String)
    (options : Script.Options) : Script.generate name entry options = .error e := by
  rw [Script.generate, Script.moduleItems, h]
  rfl

/-- Where the further properties of an entry are named by texts but not all fields are, some metadata
is not. -/
theorem Entry.exists_not_isText (hextra : ∀ x ∈ entry.cases, ∀ p ∈ x.extra, p.1.isText = true)
    (h : ¬ entry.IsNamed) : ∃ x ∈ entry.cases, ∃ p ∈ x.data, p.1.isText = false := by
  by_cases hsome : ∃ x ∈ entry.cases, ∃ p ∈ x.data, p.1.isText = false
  · exact hsome
  · refine absurd ⟨fun x hx p hp => ?_, hextra⟩ h
    cases htext : p.1.isText with
    | true => rfl
    | false => exact absurd ⟨x, hx, p, hp, htext⟩ hsome

/-- The module of a class that passes the tests ends with an error about a name exactly when its
entry is well formed and some metadata is not named by a text. -/
theorem Entry.IsOfClass.nameless_iff (h : entry.IsOfClass) (name : String)
    (options : Script.Options) :
    (∃ kind, Script.generate name entry options = .error (.nameless kind)) ↔
      entry.check = .ok () ∧ ¬ entry.IsNamed := by
  obtain ⟨known, d, c, ms, candidate, files, r, locale, q, hc, hvalid, hentry⟩ := h
  have hdescribes := ClassDef.describes_of_entry hc hvalid hentry
  -- the check of an entry finds fault with the spelling of a key only
  have hspelling : ∀ kind, entry.check ≠ .error (.nameless kind) := by
    intro kind hcheck
    obtain ⟨key, he | he⟩ := hdescribes.check_error hcheck <;> cases he
  constructor
  · rintro ⟨kind, hkind⟩
    constructor
    · cases hcheck : entry.check with
      | ok u => rfl
      | error e =>
        rw [Script.generate_of_check hcheck] at hkind
        obtain rfl := Except.error.inj hkind
        exact absurd hcheck (hspelling kind)
    · intro hnamed
      rcases Script.error_of_generate hnamed name options _ hkind with he | ⟨v, -, u, -, he⟩
      · exact hspelling kind he
      · cases he
  · rintro ⟨hcheck, hnamed⟩
    have hdata := Entry.exists_not_isText (c.extra_isText hentry) hnamed
    obtain ⟨body, hbody⟩ := Script.valueBody_isOk hdescribes.written name
    obtain ⟨kind, hkind⟩ := Script.metaBody_error hdata
    refine ⟨kind, ?_⟩
    rw [Script.generate, Script.moduleItems, hcheck, Script.typeItems, hbody, hkind]
    rfl

end Class

end EnumExport
