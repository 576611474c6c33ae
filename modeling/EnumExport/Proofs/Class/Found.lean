import EnumExport.Class.Validity
import EnumExport.Proofs.Outcome

/-!
# Classes that are found

A dotted name leads from a module through attributes. Whatever class it leads to is a class of one of
the modules: each step keeps this, `follow?_declared`, and so does following all of them,
`declared_of_resolve`. So what is known of all classes of some modules is known of every class that
passes the tests: `mem_of_validate`.
-/

namespace EnumExport.Modules

/-- If this is a class, one of the modules has it. -/
def Declares (ms : Modules) (f : Found) : Prop :=
  ∀ c, f = .class c → ∃ m ∈ ms, c ∈ m.classes

variable {ms : Modules} {f g : Found} {name : String}

theorem declares_of_attribute? {m : ModuleDef} (hm : m ∈ ms) (h : attribute? m name = some f) :
    ms.Declares f := by
  rintro c rfl
  rw [attribute?] at h
  split at h
  · cases h
  · split at h
    · next d hd =>
      cases h
      exact ⟨m, hm, List.mem_reverse.mp (List.mem_of_find?_eq_some hd)⟩
    · split at h <;> cases h

/-- The attributes of a class are no classes. -/
theorem classAttribute?_ne_class {c d : ClassDef} : classAttribute? c name ≠ some (.class d) := by
  intro h
  rw [classAttribute?] at h
  split at h
  · cases h
  · split at h
    · cases h
    · cases h
    · split at h <;> cases h

/-- A class that an attribute leads to is one of the modules'. -/
theorem follow?_declared (h : follow? ms f name = some g) : ms.Declares g := by
  rintro c rfl
  unfold follow? at h
  dsimp only at h
  split at h
  · cases h
  · split at h
    · exact absurd h classAttribute?_ne_class
    · obtain ⟨m, hm, hattribute⟩ := Option.bind_eq_some_iff.mp h
      exact declares_of_attribute? (List.mem_of_find?_eq_some hm) hattribute c rfl
    · split at h
      · cases h
      · split at h
        · cases h
        · exact absurd h classAttribute?_ne_class
    · cases h
    · cases h

theorem foldlM_declared {names : List String} (hf : ms.Declares f)
    (h : names.foldlM ms.follow? f = some g) : ms.Declares g := by
  induction names generalizing f with
  | nil =>
    cases h
    exact hf
  | cons name rest ih =>
    rw [List.foldlM_cons] at h
    obtain ⟨f', hfollow, hrest⟩ := Option.bind_eq_some_iff.mp h
    exact ih (follow?_declared hfollow) hrest

theorem lookup?_declared {module : String} {names : List String}
    (h : ms.lookup? module names = some f) : ms.Declares f := by
  cases names with
  | nil => cases h
  | cons name rest =>
    rw [lookup?] at h
    split at h
    · cases h
    · cases h
    · next f' hnotnull hattribute =>
      obtain ⟨m, hm, hattribute⟩ := Option.bind_eq_some_iff.mp hattribute
      exact foldlM_declared (declares_of_attribute? (List.mem_of_find?_eq_some hm) hattribute) h

theorem resolveWithin_declared {parts : List String} {n : Nat}
    (h : ms.resolveWithin parts n = .ok (some f)) : ms.Declares f := by
  induction n with
  | zero => cases h
  | succ n ih =>
    rw [resolveWithin] at h
    split at h
    · exact lookup?_declared (Except.ok.inj h)
    · split at h
      · exact ih h
      · cases h

/-- A class that a name leads to is one of the modules'. -/
theorem declared_of_resolve (h : ms.resolve name = .ok (some f)) : ms.Declares f :=
  resolveWithin_declared h

/-- The tests of a class answer the class itself, which can describe itself. -/
theorem checkClass_ok {c d : ClassDef} (h : checkClass name c = .ok d) :
    d = c ∧ c.describesItself = true := by
  unfold checkClass at h
  split at h
  · cases h
  · split at h
    · cases h
    · next hdescribes =>
      split at h
      · cases h
      · split at h
        · cases h
        · exact ⟨(Except.ok.inj h).symm, by simpa using hdescribes⟩

/-- A candidate that passes the tests was found as a class, which can describe itself. -/
theorem found_of_validate {candidate : Candidate} {c : ClassDef}
    (h : ms.validate candidate = .ok c) :
    ms.found candidate = .ok (.class c) ∧ c.describesItself = true := by
  rw [validate] at h
  split at h
  · cases h
  · next d hfound =>
    obtain ⟨rfl, hdescribes⟩ := checkClass_ok h
    exact ⟨hfound, hdescribes⟩
  · cases h

/-- A named candidate that passes the tests is a class of the modules. -/
theorem mem_of_validate {c : ClassDef} (h : ms.validate (.named name) = .ok c) :
    ∃ m ∈ ms, c ∈ m.classes := by
  obtain ⟨hfound, -⟩ := found_of_validate h
  rw [found] at hfound
  split at hfound
  · cases hfound
  · cases hfound
  · next f hresolve =>
    cases hfound
    exact declared_of_resolve hresolve c rfl

end EnumExport.Modules
