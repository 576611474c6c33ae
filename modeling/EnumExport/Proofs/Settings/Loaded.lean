import EnumExport.Proofs.Settings.Verbatim

/-!
# Settings that can be loaded

Most settings are made of whatever stands in the file. Those that are lists are gone through, and
what cannot be gone through, a number, a truth value or a time, keeps the settings from being loaded
unless it counts as false: `exists_load_iff`. Nothing else does, once the file has a value:
`load_fails`.
-/

namespace EnumExport.Settings

open Value

/-- What stands under a name counts as false or can be gone through. -/
def Iterable (name : String) (pairs : List (Value × Value)) : Prop :=
  ∀ v, field? name pairs = some v → v.truthy = true → v.items?.isSome = true

/-- The lists of all settings can be gone through. -/
structure ListsIterable (pairs : List (Value × Value)) : Prop where
  enums : Iterable "enums" pairs
  markers : Iterable "markers" pairs
  locales : Iterable "locales" (sectionOf "export" pairs)
  paths : Iterable "paths" (sectionOf "autodiscovery" pairs)
  namespaces : Iterable "namespaces" (sectionOf "autodiscovery" pairs)

variable {environment pairs : List (Value × Value)}

/-! ## Maps of settings -/

theorem exists_textsOr_iff {name : String} (default : List String) :
    (∃ xs, textsOr name default pairs = .ok xs) ↔ Iterable name pairs := by
  rw [textsOr, truthy?, Iterable]
  cases hv : field? name pairs with
  | none => simp
  | some v =>
    cases htruthy : v.truthy with
    | false => simp [Option.filter, htruthy]
    | true => cases hitems : v.items? <;> simp [Option.filter, htruthy, hitems]

theorem textsOr_fails (name : String) (default : List String) (pairs : List (Value × Value)) :
    FailsWith (textsOr name default pairs) fun e => ∃ kind, e = .notItems kind := by
  rw [textsOr]
  split
  · exact .ok _
  · next v _ =>
    split
    · exact .ok _
    · intro e he
      cases he
      exact ⟨v.kindName, rfl⟩

theorem exists_ofPairs_iff :
    (∃ settings, ofPairs environment pairs = .ok settings) ↔ ListsIterable pairs := by
  rw [ofPairs]
  simp only [exists_bind_ok_iff]
  constructor
  · rintro ⟨enums, henums, locales, hlocales, paths, hpaths, namespaces, hnamespaces, markers,
      hmarkers, -⟩
    exact
      { enums := (exists_textsOr_iff _).mp ⟨enums, henums⟩
        markers := (exists_textsOr_iff _).mp ⟨markers, hmarkers⟩
        locales := (exists_textsOr_iff _).mp ⟨locales, hlocales⟩
        paths := (exists_textsOr_iff _).mp ⟨paths, hpaths⟩
        namespaces := (exists_textsOr_iff _).mp ⟨namespaces, hnamespaces⟩ }
  · intro h
    obtain ⟨enums, henums⟩ := (exists_textsOr_iff _).mpr h.enums
    obtain ⟨locales, hlocales⟩ := (exists_textsOr_iff _).mpr h.locales
    obtain ⟨paths, hpaths⟩ := (exists_textsOr_iff _).mpr h.paths
    obtain ⟨namespaces, hnamespaces⟩ := (exists_textsOr_iff _).mpr h.namespaces
    obtain ⟨markers, hmarkers⟩ := (exists_textsOr_iff _).mpr h.markers
    exact ⟨enums, henums, locales, hlocales, paths, hpaths, namespaces, hnamespaces, markers,
      hmarkers, _, rfl⟩

theorem ofPairs_fails (environment pairs : List (Value × Value)) :
    FailsWith (ofPairs environment pairs) fun e => ∃ kind, e = .notItems kind := by
  rw [ofPairs]
  refine .bind (textsOr_fails _ _ _) fun _ _ => .bind (textsOr_fails _ _ _) fun _ _ =>
    .bind (textsOr_fails _ _ _) fun _ _ => .bind (textsOr_fails _ _ _) fun _ _ =>
    .bind (textsOr_fails _ _ _) fun _ _ => .ok _

/-! ## Files -/

variable {files : FileTree} {dir : Path}

theorem load_of_loadYaml {v : Value} (h : Wording.loadYaml files (file dir) = .ok v) :
    load files dir environment = ofPairs environment (v.pairs?.getD []) := by
  rw [load, has_of_loadYaml h, h]
  rfl

/-- Settings can be loaded where there is no file for them, or the file has a value of which the
lists can be gone through. -/
theorem exists_load_iff : (∃ settings, load files dir environment = .ok settings) ↔
    files.has (file dir) = false ∨ ∃ v, Wording.loadYaml files (file dir) = .ok v ∧
      ListsIterable (v.pairs?.getD []) := by
  cases hhas : files.has (file dir) with
  | false =>
    have hnone : ∀ name, Iterable name [] := fun name v hv => by cases hv
    rw [load, hhas]
    simpa using exists_ofPairs_iff.mpr ⟨hnone _, hnone _, hnone _, hnone _, hnone _⟩
  | true =>
    rw [load, hhas]
    cases hload : Wording.loadYaml files (file dir) with
    | error e => simp
    | ok v => simpa using exists_ofPairs_iff

/-- A file with a value keeps its settings from being loaded only by what cannot be gone through. -/
theorem load_fails {v : Value} (h : Wording.loadYaml files (file dir) = .ok v) :
    FailsWith (load files dir environment) fun e => ∃ kind, e = .notItems kind := by
  rw [load_of_loadYaml h]
  exact ofPairs_fails _ _

end EnumExport.Settings
