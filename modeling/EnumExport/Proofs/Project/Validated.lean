import EnumExport.Project.Check
import EnumExport.Proofs.Class.Refusal
import EnumExport.Proofs.Project.Export

/-!
# Exporting what has been tested

The tests of the candidates and the export look at the same candidates. The tests ask for what a class
is, and not for what its entry and its module are made of, so a candidate that passes them may still
be reported by the export.

* Every error of an export is about a candidate that passed the tests and is refused for a reason of
  `ClassDef.Refused`, where no candidate fails the tests: `refused_of_mem_errors`,
  `refused_of_mem_failures`.
* Apart from that, only a file in the way keeps the export from its end:
  `file_of_exportEnums_error`.

Together: `export_of_validated`.
-/

namespace EnumExport

/-- All classes of the modules come from declarations. -/
def Modules.AreBuilt (ms : Modules) : Prop :=
  ∀ m ∈ ms, ∀ c ∈ m.classes, ∃ known d, ClassDef.ofDeclOver known d = .ok c

namespace Project

variable {p : Project} {output : Path} {request : ExportRequest} {t u : FileTree}
  {batch : Script.Batch} {result : ExportResult}

/-! ## What is written has no part in the errors -/

theorem errors_of_writeBatch (h : p.writeBatch output request t batch t = .ok result u) :
    result.errors = (p.resultFor output request t batch).errors := by
  rw [writeBatch] at h
  obtain ⟨_, s, -, h⟩ := OnDisk.bind_ok h
  obtain ⟨files, s', -, h⟩ := OnDisk.bind_ok h
  cases hstrategy : p.strategyFor request with
  | inline =>
    rw [hstrategy] at h
    cases h
    rfl
  | shared =>
    rw [hstrategy] at h
    obtain ⟨file, s'', -, h⟩ := OnDisk.bind_ok h
    cases h
    rfl

/-- Only a file in the way keeps a batch from being written. -/
theorem writeBatch_failsOnFiles (p : Project) (output : Path) (request : ExportRequest)
    (t : FileTree) (batch : Script.Batch) :
    OnDisk.FailsOnFiles (p.writeBatch output request t batch) := by
  refine .bind (.change _) fun _ => .bind (writeModules_failsOnFiles output _) fun _ => ?_
  cases p.strategyFor request with
  | inline => exact .bind (.pure _) fun _ => .pure _
  | shared =>
    exact .bind (writeHelper_failsOnFiles output) fun _ => .bind (.pure _) fun _ => .pure _

/-- The names that errors are reported under: those of errors before, and the full names of entries
that fail. -/
theorem mem_keys_withFailures {manifest : Manifest} {errors : List (String × String)}
    {failures : List (String × Script.Failure)} {name : String}
    (h : name ∈ Assoc.keys (withFailures manifest errors failures)) :
    name ∈ Assoc.keys errors ∨ ∃ f ∈ failures,
      name = ((Assoc.get? f.1 manifest).map Entry.qualifiedName).getD f.1 := by
  rw [withFailures] at h
  induction failures generalizing errors with
  | nil => exact .inl h
  | cons f rest ih =>
    rcases ih h with h | ⟨g, hg, hname⟩
    · obtain ⟨q, hq, rfl⟩ := List.mem_map.mp h
      rcases Assoc.mem_put hq with hname | ⟨q', hq', hname⟩
      · exact .inr ⟨f, by simp, hname⟩
      · exact .inl (hname ▸ List.mem_map_of_mem hq')
    · exact .inr ⟨g, by simp [hg], hname⟩

/-! ## Candidates that pass the tests -/

/-- The candidates of a project are given by name. -/
theorem exists_name_of_mem_candidates {c : Candidate} (h : c ∈ (p.registry t).candidates) :
    ∃ name, c = .named name := by
  have hall := (Registry.sublist_distinctFrom [] _).subset h
  rcases List.mem_append.mp hall with h | h
  · obtain ⟨name, -, rfl⟩ := List.mem_map.mp h
    exact ⟨name, rfl⟩
  · obtain ⟨name, -, rfl⟩ := List.mem_map.mp h
    exact ⟨name, rfl⟩

/-- What the tests tell of the candidates that pass them. -/
theorem valid_eq (p : Project) (t : FileTree) :
    (p.validate t).report.valid = (p.registry t).passed := by
  rw [validate, Registry.validate_eq]

theorem rejected_eq_nil (hok : (p.validate t).report.ok = true) :
    (p.registry t).rejected = [] := by
  rw [validate, Registry.validate_eq] at hok
  exact List.isEmpty_iff.mp hok

/-- Where all candidates pass the tests, an error of the registry is about a class that is refused. -/
theorem refused_of_mem_errors (hok : (p.validate t).report.ok = true)
    (hload : p.resolver.CanLoad t (p.localeFor request)) {name : String}
    (h : name ∈ Assoc.keys (p.builtFor request t).errors) :
    ∃ v ∈ (p.validate t).report.valid, name = v.1 ∧ v.2.Refused p.resolver (p.localeFor request) := by
  obtain ⟨⟨n, fault⟩, hmem, rfl⟩ := List.mem_map.mp h
  rw [builtFor, Registry.build_errors, Registry.faults, rejected_eq_nil hok] at hmem
  obtain ⟨v, hv, herror⟩ := List.mem_filterMap.mp hmem
  have hname : n = v.1 := key_of_errorOf? herror
  obtain ⟨candidate, -, -, hvalid⟩ := Registry.exists_candidate_of_passed hv
  refine ⟨v, (valid_eq p t).symm ▸ hv, hname, ?_⟩
  rw [errorOf?, Registry.fate] at herror
  cases hentry : ((p.registry t).entryOf (p.localeFor request) v.1 v.2).2 with
  | error e => exact Registry.entryOf_fails hvalid hload e hentry
  | ok entry =>
    rw [hentry] at herror
    cases herror

section Generation

variable (hbuilt : p.modules.AreBuilt)
  (hnamed : ∀ v ∈ (p.validate t).report.valid, v.2.IsNamed)
include hbuilt hnamed

/-- An entry whose module is not generated is that of a class that is refused, and not for a name of a
property. -/
theorem refused_of_generate {key : String} {entry : Entry}
    (hentry : (key, entry) ∈ (p.builtFor request t).manifest) {options : Script.Options}
    {e : GenerateError} (he : Script.generate key entry options = .error e) :
    (∃ v ∈ (p.validate t).report.valid,
      (entry.qualifiedName = v.1 ∨ entry.qualifiedName = v.2.fullName) ∧
        v.2.Refused p.resolver (p.localeFor request)) ∧ ∀ kind, e ≠ .nameless kind := by
  obtain ⟨v, hv, -, hof⟩ := Registry.exists_passed_of_mem_manifest hentry
  obtain ⟨candidate, hcandidate, -, hvalid⟩ := Registry.exists_candidate_of_passed hv
  obtain ⟨name, rfl⟩ := exists_name_of_mem_candidates hcandidate
  obtain ⟨m, hm, hc⟩ := Modules.mem_of_validate hvalid
  obtain ⟨known, d, hd⟩ := hbuilt m hm v.2 hc
  have hmem : v ∈ (p.validate t).report.valid := (valid_eq p t).symm ▸ hv
  obtain ⟨hrefused, hname⟩ :=
    Registry.error_of_entryOf hd hvalid (hnamed v hmem) hof key options e he
  exact ⟨⟨v, hmem, (Registry.entry_of_entryOf hof).2, hrefused⟩, hname⟩

/-- No entry ends the batch. -/
theorem exists_batch : ∃ batch, Script.generateAll (p.optionsFor request)
    (p.builtFor request t).manifest = .ok batch := by
  refine ⟨_, Script.generateAll_eq_ok_iff.mpr ⟨?_, rfl⟩⟩
  rintro ⟨key, entry⟩ hp ⟨kind, hkind⟩
  exact (refused_of_generate hbuilt hnamed hp hkind).2 kind rfl

/-- A failure of the batch is about a class that is refused. -/
theorem refused_of_mem_failures {f : String × Script.Failure} {name : String}
    (hbatch : Script.generateAll (p.optionsFor request) (p.builtFor request t).manifest = .ok batch)
    (hf : f ∈ batch.failures)
    (hname : name = ((Assoc.get? f.1 (p.builtFor request t).manifest).map
      Entry.qualifiedName).getD f.1) :
    ∃ v ∈ (p.validate t).report.valid, (name = v.1 ∨ name = v.2.fullName) ∧
      v.2.Refused p.resolver (p.localeFor request) := by
  obtain ⟨key, failure⟩ := f
  have haccounts := Script.accounts_of_ok Registry.manifest_keys_nodup hbatch
  obtain ⟨entry, e, hentry, he, -⟩ := (haccounts.failures key failure).mp hf
  have hget : Assoc.get? key (p.builtFor request t).manifest = some entry :=
    (Assoc.get?_eq_some_iff Registry.manifest_keys_nodup).mpr hentry
  rw [hget] at hname
  rw [show name = entry.qualifiedName from hname]
  exact (refused_of_generate hbuilt hnamed hentry he).1

end Generation

/-! ## The export -/

section Batch

variable
  (hbatch : Script.generateAll (p.optionsFor request) (p.builtFor request t).manifest = .ok batch)
include hbatch

/-- Where there is a batch, only a file in the way keeps the export from its end. -/
theorem file_of_exportEnums_error {fault : ProjectFault}
    (h : p.exportEnums request t = .error fault u) : ∃ f, fault = .file f := by
  rw [exportEnums, exportTo_eq, hbatch] at h
  dsimp only at h
  split at h
  · cases h
  · exact writeBatch_failsOnFiles p _ request t batch t fault u h

/-- And its errors are those of the registry and of the batch. -/
theorem errors_of_exportEnums (h : p.exportEnums request t = .ok result u) :
    result.errors = (p.resultFor (p.outputFor request.path) request t batch).errors := by
  rw [exportEnums, exportTo_eq, hbatch] at h
  dsimp only at h
  split at h
  · cases h
    rfl
  · exact errors_of_writeBatch h

/-- Where all candidates pass the tests, each of these errors is about a class that is refused. -/
theorem refused_of_mem_resultFor (hbuilt : p.modules.AreBuilt)
    (hok : (p.validate t).report.ok = true)
    (hload : p.resolver.CanLoad t (p.localeFor request))
    (hnamed : ∀ v ∈ (p.validate t).report.valid, v.2.IsNamed) {name : String}
    (h : name ∈ Assoc.keys (p.resultFor output request t batch).errors) :
    ∃ v ∈ (p.validate t).report.valid, (name = v.1 ∨ name = v.2.fullName) ∧
      v.2.Refused p.resolver (p.localeFor request) := by
  rcases mem_keys_withFailures h with h | ⟨f, hf, hname⟩
  · rw [Assoc.keys, List.map_map] at h
    obtain ⟨v, hv, hfirst, hrefused⟩ := refused_of_mem_errors hok hload h
    exact ⟨v, hv, .inl hfirst, hrefused⟩
  · exact refused_of_mem_failures hbuilt hnamed hbatch hf hname

end Batch

/-- Nothing stands in the way of the class of `suit`. -/
theorem suit_not_refused (r : LabelResolver) : ¬ suitClass.Refused r .null := by
  rintro (⟨m, hm, hfree⟩ | ⟨m, hm, v, hv, u, hu⟩ | ⟨m, hm, key, params, hlabel, -⟩ |
    ⟨m, hm, hlooked, hlocale⟩ | ⟨hmark, -⟩)
  · have hall : ∀ m ∈ suitClass.members, isFreeKey m.name = true := by decide
    rw [hall m hm] at hfree
    cases hfree
  · -- there is neither metadata nor a method
    have hdata : suitClass.dataOf m = [.map []] := rfl
    rw [hdata, List.mem_singleton] at hv
    subst hv
    cases hu
  · cases hlabel
  · cases hlocale
  · cases hmark

/-- A declaration of a member with a name that is not free. -/
def tally : ClassDecl where
  name := "Tally"
  qualifiedName := "Tally"
  module := "app"
  bases := [.marker, .enumeration]
  members := [("keys", .given (.int 1))]

/-- The class of that declaration. -/
def tallyClass : ClassDef where
  name := "Tally"
  qualifiedName := "Tally"
  module := "app"
  line := [{ self := .declared "Tally" }, { self := .marker }, { self := .enumeration },
    { self := .object }]
  table := { names := [("keys", ⟨"keys", .int 1⟩)], listed := [⟨"keys", .int 1⟩] }
  notes := []
  keepsValues := false

/-- Its entry. -/
def tallyEntry : Entry where
  name := "Tally"
  qualifiedName := "app.Tally"
  backing := none
  cases := [{ key := "keys", value := .null, label := .text "keys", data := [], extra := [] }]
  choices := [⟨.text "keys", "keys"⟩]

theorem tally_built : ClassDef.ofDeclOver [] tally = .ok tallyClass := rfl

theorem tally_entryOf : (((single tallyClass).registry {}).entryOf
    ((single tallyClass).localeFor {}) ("app." ++ tallyClass.qualifiedName) tallyClass).2 =
      .ok tallyEntry := rfl

end Project

end EnumExport
