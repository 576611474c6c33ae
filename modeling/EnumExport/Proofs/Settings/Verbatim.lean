import EnumExport.Proofs.Value.Scalar
import EnumExport.Proofs.Yaml.Document
import EnumExport.Settings.Check

/-!
# Settings that pass their check

A settings file is checked by one piece of the program and read by another. What the check lets
through is read without a loss: each setting is taken as it stands in the file, and the defaults
stand in for what is absent, null or empty, and for nothing else.

* Each kind of setting has its own account of how the value in the file and the setting belong
  together: `TextsFrom`, `TextFrom`, `LocaleFrom`, `FlagFrom`, `StrategyFrom`, and `SectionFrom` for
  the maps that hold them. `Verbatim` puts them together.
* For each kind, a setting about which the check says nothing is read in that way —
  `textsOr_of_listErrors`, `textOr_of_kindErrors`, `localeOf_of_kindErrors`, `flagOr_of_kindErrors`,
  `strategyOf_of_kindErrors`, `sectionOf_of_sectionErrors`.
* So a file in which nothing is found wrong can be loaded, and is taken as it stands:
  `load_of_checkFile`.

The check asks whether a value counts as a text, and members of enumerations may do so; documents
hold none.
-/

namespace EnumExport.Settings

open Value

/-! ## What a setting is taken from -/

/-- Texts and what they are taken from: nothing, null or an empty list stand for the default. -/
inductive TextsFrom (default : List String) : Option Value → List String → Prop
  /-- nothing is set -/
  | absent : TextsFrom default none default
  /-- null is set -/
  | null : TextsFrom default (some .null) default
  /-- no text is set -/
  | empty : TextsFrom default (some (.list [])) default
  /-- the texts are those that are set, in order -/
  | verbatim {xs : List String} (h : xs ≠ []) : TextsFrom default (some (.list (xs.map .text))) xs

/-- A text and what it is taken from: nothing or an empty text stand for the default. -/
inductive TextFrom (default : String) : Option Value → String → Prop
  /-- nothing is set -/
  | absent : TextFrom default none default
  /-- the empty text is set -/
  | empty : TextFrom default (some (.text "")) default
  /-- the text is the one that is set -/
  | verbatim {s : String} (h : s ≠ "") : TextFrom default (some (.text s)) s

/-- A locale and what it is taken from; no locale stands for another. -/
inductive LocaleFrom : Option Value → Value → Prop
  /-- nothing is set -/
  | absent : LocaleFrom none .null
  /-- null is set -/
  | null : LocaleFrom (some .null) .null
  /-- the locale is the one that is set -/
  | verbatim (s : String) : LocaleFrom (some (.text s)) (.text s)

/-- A truth value and what it is taken from. -/
inductive FlagFrom (default : Bool) : Option Value → Bool → Prop
  /-- nothing is set -/
  | absent : FlagFrom default none default
  /-- the truth value is the one that is set -/
  | verbatim (b : Bool) : FlagFrom default (some (.bool b)) b

/-- A strategy and what it is taken from. -/
inductive StrategyFrom : Option Value → Script.Strategy → Prop
  /-- nothing is set -/
  | absent : StrategyFrom none .inline
  /-- null is set -/
  | null : StrategyFrom (some .null) .inline
  /-- the strategy is the one whose name is set -/
  | verbatim (s : Script.Strategy) : StrategyFrom (some (.text s.text)) s

/-- The pairs of a section and what they are taken from. -/
inductive SectionFrom : Option Value → List (Value × Value) → Prop
  /-- there is no section -/
  | absent : SectionFrom none []
  /-- the section is null -/
  | null : SectionFrom (some .null) []
  /-- the pairs are those of the section -/
  | verbatim (ps : List (Value × Value)) : SectionFrom (some (.map ps)) ps

/-- What the environment says about discovery, if it says something that is understood. -/
def environmentFlag? (environment : List (Value × Value)) : Option Bool :=
  ((Value.field? discoveryVariable environment).bind Value.asText?).bind parseBool?

/-- What is set for the export is taken from its section. -/
structure ExportFrom (pairs : List (Value × Value)) (s : ExportSettings) : Prop where
  path : TextFrom "frontend/src/enums" (field? "path" pairs) s.path
  locale : LocaleFrom (field? "locale" pairs) s.locale
  locales : TextsFrom [] (field? "locales" pairs) s.locales
  types : FlagFrom false (field? "types" pairs) s.types
  strategy : StrategyFrom (field? "strategy" pairs) s.strategy

/-- What is set for discovery is taken from its section, unless the environment decides. -/
structure DiscoveryFrom (environment pairs : List (Value × Value))
    (s : DiscoverySettings) : Prop where
  decided : ∀ b, environmentFlag? environment = some b → s.enabled = b
  enabled : environmentFlag? environment = none → FlagFrom true (field? "enabled" pairs) s.enabled
  paths : TextsFrom ["app/enums"] (field? "paths" pairs) s.paths
  namespaces : TextsFrom [] (field? "namespaces" pairs) s.namespaces

/-- The settings are those of a map, its sections included. -/
structure Verbatim (environment pairs : List (Value × Value)) (s : Settings) : Prop where
  enums : TextsFrom [] (field? "enums" pairs) s.enums
  output : ∃ ps, SectionFrom (field? "export" pairs) ps ∧ ExportFrom ps s.output
  discovery : ∃ ps, SectionFrom (field? "autodiscovery" pairs) ps ∧
    DiscoveryFrom environment ps s.discovery
  langNamespace : TextFrom "enums" (field? "lang_namespace" pairs) s.langNamespace
  langPath : TextFrom "lang" (field? "lang_path" pairs) s.langPath
  defaultLocale : TextFrom "en" (field? "default_locale" pairs) s.defaultLocale
  markers : TextsFrom ["SharesWithFrontend"] (field? "markers" pairs) s.markers

/-! ## What the check leaves of a setting -/

/-- The values of a document that count as texts are texts. -/
theorem exists_texts {xs : List Value} (hdoc : areDocument xs = true)
    (h : xs.all Value.isText = true) : ∃ ss : List String, xs = ss.map .text := by
  induction xs with
  | nil => exact ⟨[], rfl⟩
  | cons x xs ih =>
    simp only [areDocument, List.all_cons, Bool.and_eq_true] at hdoc h
    obtain ⟨s, rfl⟩ := eq_text_of_isText hdoc.1 h.1
    obtain ⟨ss, rfl⟩ := ih hdoc.2 h.2
    exact ⟨s :: ss, rfl⟩

theorem display_texts (ss : List String) : (ss.map Value.text).map Value.display = ss := by
  simp [Value.display, Function.comp_def]

/-- Where a test that fails leads to an error, it has not failed. -/
theorem of_no_error {test : Bool} {e : String} (h : (if test then [] else [e]) = []) :
    test = true := by
  cases test with
  | false => cases h
  | true => rfl

/-- A setting that is there passes the test of its kind. -/
theorem of_kindErrors {test : Value → Bool} {name front need : String}
    {pairs : List (Value × Value)} (h : kindErrors test name front need pairs = [])
    {v : Value} (hv : field? name pairs = some v) : test v = true := by
  rw [kindErrors, hv] at h
  exact of_no_error h

section Document

variable {pairs : List (Value × Value)} (hdoc : pairsDocument pairs = true)
include hdoc

theorem textsOr_of_listErrors (default : List String) {name front : String}
    (h : listErrors name front pairs = []) :
    ∃ xs, textsOr name default pairs = .ok xs ∧ TextsFrom default (field? name pairs) xs := by
  rw [textsOr, truthy?]
  rw [listErrors] at h
  cases hv : field? name pairs with
  | none => exact ⟨default, rfl, .absent⟩
  | some v =>
    rw [hv, Option.getD_some] at h
    split at h
    · exact ⟨default, rfl, .null⟩
    · -- what is there is a list, and all of its items are texts
      have htexts : isTextList v = true := of_no_error h
      obtain ⟨xs, rfl⟩ : ∃ xs, v = .list xs := by
        cases v with
        | list xs => exact ⟨xs, rfl⟩
        | _ => cases htexts
      obtain ⟨ss, rfl⟩ := exists_texts (isDocument_of_field? hdoc hv) htexts
      cases ss with
      | nil => exact ⟨default, rfl, .empty⟩
      | cons s ss =>
        refine ⟨s :: ss, ?_, .verbatim (List.cons_ne_nil s ss)⟩
        exact congrArg Except.ok (display_texts (s :: ss))

theorem textOr_of_kindErrors (default : String) {name front need : String}
    (h : kindErrors Value.isText name front need pairs = []) :
    TextFrom default (field? name pairs) (textOr name default pairs) := by
  rw [textOr, truthy?]
  cases hv : field? name pairs with
  | none => exact .absent
  | some v =>
    obtain ⟨s, rfl⟩ := eq_text_of_isText (isDocument_of_field? hdoc hv) (of_kindErrors h hv)
    by_cases hs : s = ""
    · subst hs
      exact .empty
    · have htruthy : (some (Value.text s)).filter Value.truthy = some (.text s) := by
        simp [Option.filter, Value.truthy, hs]
      rw [htruthy]
      exact .verbatim hs

theorem localeOf_of_kindErrors {name front need : String}
    (h : kindErrors isTextOrNull name front need pairs = []) :
    LocaleFrom (field? name pairs) ((field? name pairs).getD .null) := by
  cases hv : field? name pairs with
  | none => exact .absent
  | some v =>
    rcases Bool.or_eq_true_iff.mp (of_kindErrors h hv) with hnull | htext
    · cases v with
      | null => exact .null
      | _ => cases hnull
    · obtain ⟨s, rfl⟩ := eq_text_of_isText (isDocument_of_field? hdoc hv) htext
      exact .verbatim s

omit hdoc in
theorem flagOr_of_kindErrors (default : Bool) {name front need : String}
    (h : kindErrors Value.isBool name front need pairs = []) :
    FlagFrom default (field? name pairs) (flagOr name default pairs) := by
  rw [flagOr]
  cases hv : field? name pairs with
  | none => exact .absent
  | some v =>
    have hbool := of_kindErrors h hv
    cases v with
    | bool b => exact .verbatim b
    | _ => cases hbool

omit hdoc in
/-- The name of a strategy is all in small letters. -/
theorem ofText?_lower_text (s : Script.Strategy) :
    Script.Strategy.ofText? (Text.lower s.text) = some s := by
  cases s <;> decide +kernel

theorem strategyOf_of_kindErrors {front need : String}
    (h : kindErrors isStrategyOrNull "strategy" front need pairs = []) :
    StrategyFrom (field? "strategy" pairs) (strategyOf pairs) := by
  rw [strategyOf]
  cases hv : field? "strategy" pairs with
  | none => exact .absent
  | some v =>
    rcases Bool.or_eq_true_iff.mp (of_kindErrors h hv) with hnull | hname
    · cases v with
      | null => exact .null
      | _ => cases hnull
    · obtain ⟨s, -, hs⟩ := List.any_eq_true.mp hname
      obtain ⟨t, rfl⟩ := eq_text_of_isText (isDocument_of_field? hdoc hv) (isText_of_same hs)
      obtain rfl : t = s.text := by simpa [beq_eq_same, same_text] using hs
      have hread : (some (Value.text s.text)).bind
          (fun v => Script.Strategy.ofText? (Text.lower v.display)) = some s :=
        ofText?_lower_text s
      rw [hread]
      exact .verbatim s

/-- A section in which nothing is found wrong is made of what documents hold, and the pairs that
are taken from it pass the check of its pairs: where it is absent or null these are none. -/
theorem sectionOf_of_sectionErrors {name : String}
    {check : List (Value × Value) → Except SettingsFault (List String)} (hnone : check [] = .ok [])
    (h : sectionErrors name check pairs = .ok []) :
    SectionFrom (field? name pairs) (sectionOf name pairs) ∧
      pairsDocument (sectionOf name pairs) = true ∧ check (sectionOf name pairs) = .ok [] := by
  rw [sectionErrors] at h
  rw [sectionOf]
  cases hv : field? name pairs with
  | none => exact ⟨.absent, rfl, hnone⟩
  | some v =>
    rw [hv, Option.getD_some] at h
    split at h
    · exact ⟨.null, rfl, hnone⟩
    · next ps => exact ⟨.verbatim ps, isDocument_of_field? hdoc hv, h⟩
    · cases h

/-! ## The sections and the whole -/

theorem exportFrom_of_exportErrors (h : exportErrors pairs = .ok []) :
    ∃ locales, textsOr "locales" [] pairs = .ok locales ∧
      ExportFrom pairs
        { path := textOr "path" "frontend/src/enums" pairs
          locale := (field? "locale" pairs).getD .null
          locales
          types := flagOr "types" false pairs
          strategy := strategyOf pairs } := by
  obtain ⟨unknown, -, h⟩ := exists_of_bind_ok h
  have herrors := Except.ok.inj h
  simp only [List.append_eq_nil_iff] at herrors
  obtain ⟨⟨⟨⟨⟨-, hpath⟩, hlocale⟩, hlocales⟩, htypes⟩, hstrategy⟩ := herrors
  obtain ⟨locales, hread, hfrom⟩ := textsOr_of_listErrors hdoc [] hlocales
  exact ⟨locales, hread,
    { path := textOr_of_kindErrors hdoc _ hpath
      locale := localeOf_of_kindErrors hdoc hlocale
      locales := hfrom
      types := flagOr_of_kindErrors _ htypes
      strategy := strategyOf_of_kindErrors hdoc hstrategy }⟩

theorem discoveryFrom_of_discoveryErrors (environment : List (Value × Value))
    (h : discoveryErrors pairs = .ok []) :
    ∃ paths namespaces, textsOr "paths" ["app/enums"] pairs = .ok paths ∧
      textsOr "namespaces" [] pairs = .ok namespaces ∧
      DiscoveryFrom environment pairs
        { enabled := enabledOf environment pairs, paths, namespaces } := by
  obtain ⟨unknown, -, h⟩ := exists_of_bind_ok h
  have herrors := Except.ok.inj h
  simp only [List.append_eq_nil_iff] at herrors
  obtain ⟨⟨⟨-, henabled⟩, hpaths⟩, hnamespaces⟩ := herrors
  obtain ⟨paths, hpathsRead, hpathsFrom⟩ := textsOr_of_listErrors hdoc ["app/enums"] hpaths
  obtain ⟨namespaces, hnamesRead, hnamesFrom⟩ := textsOr_of_listErrors hdoc [] hnamespaces
  have hflag : enabledOf environment pairs =
      (environmentFlag? environment).getD (flagOr "enabled" true pairs) := by
    rw [enabledOf, ← environmentFlag?]
    cases environmentFlag? environment <;> rfl
  refine ⟨paths, namespaces, hpathsRead, hnamesRead, fun b hb => ?_, fun hnone => ?_,
    hpathsFrom, hnamesFrom⟩
  · rw [hflag, hb, Option.getD_some]
  · rw [hflag, hnone, Option.getD_none]
    exact flagOr_of_kindErrors _ henabled

/-- A map in which nothing is found wrong makes settings, and these are the ones it holds. -/
theorem ofPairs_of_contentErrors (environment : List (Value × Value))
    (h : contentErrors (.map pairs) = .ok []) :
    ∃ settings, ofPairs environment pairs = .ok settings ∧
      Verbatim environment pairs settings := by
  obtain ⟨unknown, -, h⟩ := exists_of_bind_ok h
  obtain ⟨exporting, hexporting, h⟩ := exists_of_bind_ok h
  obtain ⟨discovery, hdiscovery, h⟩ := exists_of_bind_ok h
  have herrors := Except.ok.inj h
  simp only [List.append_eq_nil_iff, List.flatMap_cons, List.flatMap_nil, and_true] at herrors
  obtain ⟨⟨⟨⟨⟨-, henums⟩, hmarkers⟩, hnamespace, hpath, hlocale⟩, rfl⟩, rfl⟩ := herrors
  obtain ⟨enums, henumsRead, henumsFrom⟩ := textsOr_of_listErrors hdoc [] henums
  obtain ⟨markers, hmarkersRead, hmarkersFrom⟩ :=
    textsOr_of_listErrors hdoc ["SharesWithFrontend"] hmarkers
  obtain ⟨hexport, hexportDoc, hexportErrors⟩ := sectionOf_of_sectionErrors hdoc rfl hexporting
  obtain ⟨hdiscover, hdiscoverDoc, hdiscoverErrors⟩ :=
    sectionOf_of_sectionErrors hdoc rfl hdiscovery
  obtain ⟨locales, hlocales, houtput⟩ := exportFrom_of_exportErrors hexportDoc hexportErrors
  obtain ⟨paths, namespaces, hpaths, hnamespaces, hfound⟩ :=
    discoveryFrom_of_discoveryErrors hdiscoverDoc environment hdiscoverErrors
  apply Exists.intro
  constructor
  case left =>
    rw [ofPairs, henumsRead, hlocales, hpaths, hnamespaces, hmarkersRead]
    rfl
  case right =>
    exact
      { enums := henumsFrom
        output := ⟨_, hexport, houtput⟩
        discovery := ⟨_, hdiscover, hfound⟩
        langNamespace := textOr_of_kindErrors hdoc _ hnamespace
        langPath := textOr_of_kindErrors hdoc _ hpath
        defaultLocale := textOr_of_kindErrors hdoc _ hlocale
        markers := hmarkersFrom }

end Document

/-- What can be read lies where it is looked for. -/
theorem has_of_loadYaml {files : FileTree} {p : Path} {v : Value}
    (h : Wording.loadYaml files p = .ok v) : files.has p = true := by
  rw [FileTree.has, FileTree.find?]
  cases hplace : files.locate p with
  | error e =>
    simp [Wording.loadYaml, FileTree.readText, FileTree.read, hplace, bind, Except.bind] at h
  | ok place =>
    cases hat : files.at? place with
    | none =>
      simp [Wording.loadYaml, FileTree.readText, FileTree.read, hplace, hat, bind, Except.bind] at h
    | some n => simp [hat]

theorem isDocument_of_loadYaml {files : FileTree} {p : Path} {v : Value}
    (h : Wording.loadYaml files p = .ok v) : v.isDocument = true := by
  rw [Wording.loadYaml] at h
  split at h
  · cases h
  · split at h
    · cases h
    · next hread =>
      cases h
      exact Yaml.isDocument_of_read hread

/-- **Settings that pass their check**: where a settings file is read and nothing in it is found
wrong, it can be loaded, and every setting is the one that the file holds, as it stands there. -/
theorem load_of_checkFile (files : FileTree) (dir : Path) (environment : List (Value × Value))
    (h : checkFile files (file dir) = .ok []) :
    ∃ v pairs settings, Wording.loadYaml files (file dir) = .ok v ∧ SectionFrom (some v) pairs ∧
      load files dir environment = .ok settings ∧ Verbatim environment pairs settings := by
  rw [checkFile] at h
  split at h
  · next v hv =>
    have hdoc := isDocument_of_loadYaml hv
    -- null stands for a map without pairs, and every other document without errors is a map
    obtain ⟨pairs, hfrom, hpairs, hdocPairs, herrors⟩ : ∃ pairs, SectionFrom (some v) pairs ∧
        v.pairs?.getD [] = pairs ∧ pairsDocument pairs = true ∧
        contentErrors (.map pairs) = .ok [] := by
      cases v with
      | null => exact ⟨[], .null, rfl, rfl, rfl⟩
      | map ps => exact ⟨ps, .verbatim ps, rfl, hdoc, h⟩
      | _ => cases h
    obtain ⟨settings, hsettings, hverbatim⟩ :=
      ofPairs_of_contentErrors hdocPairs environment herrors
    refine ⟨v, pairs, settings, hv, hfrom, ?_, hverbatim⟩
    rw [load, has_of_loadYaml hv, hv, if_pos rfl]
    simpa [hpairs] using hsettings
  · cases h
  · cases h

/-- A project whose settings file sets something in each section. -/
def settledFiles : FileTree where
  nodes :=
    [(["home"], .folder), (["home", ".enumshare"], .folder),
      (["home", ".enumshare", "config.yaml"],
        .file (bytesOfText
          "enums: [app.Suit]\nexport: \x7bpath: web, strategy: shared\x7d\nautodiscovery: \x7benabled: false\x7d\n"))]

theorem checkFile_settled : checkFile settledFiles (file { parts := ["home"] }) = .ok [] := by
  have hvalue : (checkFile settledFiles (file { parts := ["home"] })).toOption = some [] := by
    decide +kernel
  cases h : checkFile settledFiles (file { parts := ["home"] }) with
  | error e =>
    rw [h] at hvalue
    cases hvalue
  | ok errors =>
    rw [h] at hvalue
    exact congrArg _ (Option.some.inj hvalue)

theorem load_settled : ∃ v pairs settings,
    Wording.loadYaml settledFiles (file { parts := ["home"] }) = .ok v ∧
      SectionFrom (some v) pairs ∧ load settledFiles { parts := ["home"] } [] = .ok settings ∧
      Verbatim [] pairs settings :=
  load_of_checkFile settledFiles { parts := ["home"] } [] checkFile_settled

end EnumExport.Settings
