import EnumExport.Proofs.Settings.Verbatim
import EnumExport.Proofs.Value.Order

/-!
# What the check of a settings file answers

The check puts the names that are not known in order before it tells of them. It answers where they
can be put in order, in the map of the file and in those that are its sections, whatever else the
file holds: `exists_contentErrors_iff`. Where it finds nothing wrong, all names are known:
`allKnown_of_contentErrors`.

Both are about the three maps of a settings file at once, each with the names that are known there,
`InMaps`.
-/

namespace EnumExport.Settings

open Value

/-- The names that are not known, as they stand. -/
def strangers (known : List String) (pairs : List (Value × Value)) : List Value :=
  (Assoc.keys pairs).filter fun k => !known.any fun n => k == .text n

/-- Something is so in the map of a settings file, and in each of its sections that is a map. -/
structure InMaps (P : List String → List (Value × Value) → Prop)
    (pairs : List (Value × Value)) : Prop where
  top : P topNames pairs
  output : ∀ ps, field? "export" pairs = some (.map ps) → P exportNames ps
  discovery : ∀ ps, field? "autodiscovery" pairs = some (.map ps) → P discoveryNames ps

/-- The names that are not known have an order. -/
def StrangersAlike (known : List String) (pairs : List (Value × Value)) : Prop :=
  Alike (strangers known pairs)

/-- All names are known. -/
def AllKnown (known : List String) (pairs : List (Value × Value)) : Prop :=
  ∀ p ∈ pairs, ∃ n ∈ known, p.1 = .text n

variable {known : List String} {front name : String} {pairs : List (Value × Value)}

/-! ## Where the check answers -/

theorem exists_unknownErrors_iff (front : String) :
    (∃ errors, unknownErrors known front pairs = .ok errors) ↔ StrangersAlike known pairs := by
  rw [StrangersAlike, ← exists_sort?_iff, unknownErrors, exists_bind_ok_iff, unknownNames, strangers]
  cases sort? ((Assoc.keys pairs).filter fun k => !known.any fun n => k == .text n) with
  | none => simp
  | some ks => exact ⟨fun _ => ⟨ks, rfl⟩, fun _ => ⟨ks, rfl, _, rfl⟩⟩

theorem exists_exportErrors_iff :
    (∃ errors, exportErrors pairs = .ok errors) ↔ StrangersAlike exportNames pairs := by
  rw [← exists_unknownErrors_iff "export.", exportErrors, exists_bind_ok_iff]
  exact ⟨fun ⟨unknown, h, _⟩ => ⟨unknown, h⟩, fun ⟨unknown, h⟩ => ⟨unknown, h, _, rfl⟩⟩

theorem exists_discoveryErrors_iff :
    (∃ errors, discoveryErrors pairs = .ok errors) ↔ StrangersAlike discoveryNames pairs := by
  rw [← exists_unknownErrors_iff "autodiscovery.", discoveryErrors, exists_bind_ok_iff]
  exact ⟨fun ⟨unknown, h, _⟩ => ⟨unknown, h⟩, fun ⟨unknown, h⟩ => ⟨unknown, h, _, rfl⟩⟩

/-- A section that is no map is told of at once. -/
theorem exists_sectionErrors_iff
    {check : List (Value × Value) → Except SettingsFault (List String)} :
    (∃ errors, sectionErrors name check pairs = .ok errors) ↔
      ∀ ps, field? name pairs = some (.map ps) → ∃ errors, check ps = .ok errors := by
  rw [sectionErrors]
  cases hv : field? name pairs with
  | none => simp
  | some v => cases v <;> simp

/-- The check answers where the unknown names of each map have an order. -/
theorem exists_contentErrors_iff (v : Value) :
    (∃ errors, contentErrors v = .ok errors) ↔
      ∀ pairs, v = .map pairs → InMaps StrangersAlike pairs := by
  cases v with
  | map pairs =>
    rw [contentErrors]
    simp only [exists_bind_ok_iff]
    constructor
    · rintro ⟨unknown, htop, output, houtput, discovery, hdiscovery, -⟩ _ hpairs
      cases hpairs
      exact
        { top := (exists_unknownErrors_iff _).mp ⟨unknown, htop⟩
          output := fun ps hps =>
            exists_exportErrors_iff.mp (exists_sectionErrors_iff.mp ⟨output, houtput⟩ ps hps)
          discovery := fun ps hps =>
            exists_discoveryErrors_iff.mp
              (exists_sectionErrors_iff.mp ⟨discovery, hdiscovery⟩ ps hps) }
    · intro h
      obtain ⟨htop, houtput, hdiscovery⟩ := h pairs rfl
      obtain ⟨unknown, htop⟩ := (exists_unknownErrors_iff _).mpr htop
      obtain ⟨output, houtput⟩ := exists_sectionErrors_iff.mpr fun ps hps =>
        exists_exportErrors_iff.mpr (houtput ps hps)
      obtain ⟨discovery, hdiscovery⟩ := exists_sectionErrors_iff.mpr fun ps hps =>
        exists_discoveryErrors_iff.mpr (hdiscovery ps hps)
      exact ⟨unknown, htop, output, houtput, discovery, hdiscovery, _, rfl⟩
  | _ => simp [contentErrors]

/-! ## Where nothing is found wrong -/

theorem strangers_of_unknownErrors (h : unknownErrors known front pairs = .ok []) :
    strangers known pairs = [] := by
  obtain ⟨ks, hks, h⟩ := exists_of_bind_ok h
  obtain rfl : ks = [] := List.map_eq_nil_iff.mp (Except.ok.inj h)
  rw [unknownNames] at hks
  split at hks
  · next hsort =>
    cases hks
    exact (perm_of_sort? hsort).nil_eq.symm
  · cases hks

/-- Where no name of a document is told to be unknown, each is one of the known texts. -/
theorem allKnown_of_unknownErrors (hdoc : pairsDocument pairs = true)
    (h : unknownErrors known front pairs = .ok []) : AllKnown known pairs := by
  intro p hp
  have hnone := List.filter_eq_nil_iff.mp (strangers_of_unknownErrors h) p.1
    (List.mem_map_of_mem hp)
  obtain ⟨n, hn, hsame⟩ : ∃ n ∈ known, (p.1 == .text n) = true := by simpa using hnone
  obtain ⟨s, hs⟩ := eq_text_of_isText (pairsDocument_iff.mp hdoc p hp).1 (isText_of_same hsame)
  refine ⟨n, hn, ?_⟩
  rw [hs, beq_eq_same, same_text, beq_iff_eq] at hsame
  rw [hs, hsame]

theorem allKnown_of_exportErrors (hdoc : pairsDocument pairs = true)
    (h : exportErrors pairs = .ok []) : AllKnown exportNames pairs := by
  obtain ⟨unknown, hunknown, h⟩ := exists_of_bind_ok h
  have herrors := Except.ok.inj h
  simp only [List.append_eq_nil_iff] at herrors
  exact allKnown_of_unknownErrors hdoc (herrors.1.1.1.1.1 ▸ hunknown)

theorem allKnown_of_discoveryErrors (hdoc : pairsDocument pairs = true)
    (h : discoveryErrors pairs = .ok []) : AllKnown discoveryNames pairs := by
  obtain ⟨unknown, hunknown, h⟩ := exists_of_bind_ok h
  have herrors := Except.ok.inj h
  simp only [List.append_eq_nil_iff] at herrors
  exact allKnown_of_unknownErrors hdoc (herrors.1.1.1 ▸ hunknown)

/-- Where nothing is found wrong with a document, it is null or a map of known names, those of its
sections included. -/
theorem allKnown_of_contentErrors {v : Value} (hdoc : v.isDocument = true)
    (h : contentErrors v = .ok []) : v = .null ∨ ∃ pairs, v = .map pairs ∧ InMaps AllKnown pairs := by
  cases v with
  | null => exact .inl rfl
  | map pairs =>
    obtain ⟨unknown, hunknown, h⟩ := exists_of_bind_ok h
    obtain ⟨output, houtput, h⟩ := exists_of_bind_ok h
    obtain ⟨discovery, hdiscovery, h⟩ := exists_of_bind_ok h
    have herrors := Except.ok.inj h
    simp only [List.append_eq_nil_iff] at herrors
    obtain ⟨⟨⟨⟨⟨rfl, -⟩, -⟩, -⟩, rfl⟩, rfl⟩ := herrors
    have hsection : ∀ name ps, field? name pairs = some (.map ps) → pairsDocument ps = true :=
      fun name ps hps => isDocument_of_field? hdoc hps
    refine .inr ⟨pairs, rfl, allKnown_of_unknownErrors hdoc hunknown, fun ps hps => ?_,
      fun ps hps => ?_⟩
    · rw [sectionErrors, hps] at houtput
      exact allKnown_of_exportErrors (hsection _ ps hps) houtput
    · rw [sectionErrors, hps] at hdiscovery
      exact allKnown_of_discoveryErrors (hsection _ ps hps) hdiscovery
  | _ => cases h

/-! ## Files -/

/-- **Checked settings.** The check of a settings file answers with a list of errors where the text
of the file is malformed, or has a value and, in each of the maps of settings in there, those names
that are not known have an order: they are one at most, or all of one kind. Where the list is empty
the file holds nothing or a map, and all names in each of the maps are known. -/
theorem checkFile_answers (files : FileTree) (p : Path) :
    ((∃ errors, checkFile files p = .ok errors) ↔
      Wording.loadYaml files p = .error (.text .malformed) ∨
        ∃ v, Wording.loadYaml files p = .ok v ∧
          ∀ pairs, v = .map pairs → InMaps StrangersAlike pairs) ∧
      (checkFile files p = .ok [] →
        Wording.loadYaml files p = .ok .null ∨
          ∃ pairs, Wording.loadYaml files p = .ok (.map pairs) ∧ InMaps AllKnown pairs) := by
  rw [checkFile]
  cases hload : Wording.loadYaml files p with
  | ok v =>
    refine ⟨?_, fun h => ?_⟩
    · simpa using exists_contentErrors_iff v
    · simpa using allKnown_of_contentErrors (isDocument_of_loadYaml hload) h
  | error e =>
    split
    · next v hv => cases hv
    · next hmalformed =>
      cases hmalformed
      simp
    · next e' hother he =>
      cases he
      have hne : e ≠ .text .malformed := hother
      simp [hne]

theorem settled_names_known :
    Wording.loadYaml settledFiles (file { parts := ["home"] }) = .ok .null ∨
      ∃ pairs, Wording.loadYaml settledFiles (file { parts := ["home"] }) = .ok (.map pairs) ∧
        InMaps AllKnown pairs :=
  (checkFile_answers settledFiles (file { parts := ["home"] })).2 checkFile_settled

/-- A project whose settings file has two names that are not known, one of them a number. -/
def mixedFiles : FileTree where
  nodes :=
    [(["home"], .folder), (["home", ".enumshare"], .folder),
      (["home", ".enumshare", "config.yaml"], .file (bytesOfText "1: a\nb: c\n"))]

/-- A number and a text have no order, so that the check has no answer for a map. -/
theorem mixed_names_unanswered :
    (∃ v, Wording.loadYaml mixedFiles (file { parts := ["home"] }) = .ok v) ∧
      ¬∃ errors, checkFile mixedFiles (file { parts := ["home"] }) = .ok errors := by
  have hvalue : (Wording.loadYaml mixedFiles (file { parts := ["home"] })).toOption.map
      Value.isMap = some true := by
    decide +kernel
  have hnone : (checkFile mixedFiles (file { parts := ["home"] })).toOption = none := by
    decide +kernel
  obtain ⟨v, hv, -⟩ := exists_of_toOption hvalue
  refine ⟨⟨v, hv⟩, ?_⟩
  rintro ⟨errors, herrors⟩
  rw [herrors] at hnone
  cases hnone

end EnumExport.Settings
