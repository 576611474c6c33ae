import EnumExport.Command.Basic
import EnumExport.Proofs.Script.Properties
import EnumExport.Proofs.Settings.Loaded

/-!
# Commands and the settings file

Every command but the one that starts a project begins with the settings of its project. Where these
can be loaded it gets to work with them, `projectIn_of_load` and `projectOrDefault_of_load`; where the
file has a value and they cannot, it fails at once and leaves the files as they are,
`runRequest_of_load_error`.

The command that checks the files of a project, once at work, tells what the check finds, and its
exit code says whether that is nothing: `runRequest_checkFiles`.
-/

namespace EnumExport

/-! ## Checking the files of a project -/

/-- Each language file of a project can be checked. -/
def Project.LangCheckable (p : Project) (t : FileTree) : Prop :=
  ∀ f ∈ p.langFiles t, ∃ e, p.langFileErrors t f = .ok e

/-- The files of a project can be checked where its settings file and each language file can. -/
theorem Project.exists_checkFiles {p : Project} {t : FileTree} {errors : List String}
    (hthere : t.has (Settings.file p.dir) = true)
    (herrors : Settings.checkFile t (Settings.file p.dir) = .ok errors)
    (hlang : p.LangCheckable t) :
    ∃ r, p.checkFiles t = .ok r ∧ r.errors = errors := by
  have hnever : FailsWith ((p.langFiles t).mapM (p.langFileErrors t)) fun _ => False := by
    refine .mapM fun f hf e he => ?_
    obtain ⟨x, hx⟩ := hlang f hf
    rw [hx] at he
    cases he
  obtain ⟨langErrors, hlangErrors⟩ := hnever.isOk fun _ => id
  refine ⟨{ file := Settings.file p.dir, isThere := true, errors, langErrors }, ?_, rfl⟩
  rw [checkFiles, hthere, herrors, hlangErrors]
  rfl

namespace Report

theorem isPlain_texts (xs : List String) : (texts xs).isPlain = true := by
  refine Value.arePlain_of_forall fun v hv => ?_
  obtain ⟨s, -, rfl⟩ := List.mem_map.mp hv
  rfl

theorem isPlain_fields {pairs : List (String × Value)} (h : ∀ p ∈ pairs, p.2.isPlain = true) :
    (fields pairs).isPlain = true := by
  rw [fields, Value.isPlain]
  induction pairs with
  | nil => rfl
  | cons p pairs ih =>
    rw [List.map_cons, Value.pairsPlain, h p (by simp), ih fun q hq => h q (by simp [hq])]
    rfl

end Report

/-- Plain data can be printed. -/
theorem Console.exists_printJson {v : Value} (h : v.isPlain = true) (out : String) :
    ∃ more, printJson v out = .ok () more := by
  obtain ⟨j, hj, -, -⟩ := Notation.ofValue_of_isPlain v h
  have hrender : Json.renderValue (.indented 2) v = .ok (Json.render (.indented 2) j) := by
    rw [Json.renderValue, hj]
    rfl
  exact ⟨_, by rw [printJson, hrender]⟩

/-- As JSON, what was found wrong with files can always be told. -/
theorem FilesResult.exists_report_json (r : FilesResult) (dir : Path) (out : String) :
    ∃ more, r.report .json dir out = .ok () more := by
  refine Console.exists_printJson (Report.isPlain_fields ?_) out
  have hlang : (Report.fields (r.langErrors.map fun e => (e.1, Report.texts e.2))).isPlain =
      true := by
    refine Report.isPlain_fields fun p hp => ?_
    obtain ⟨e, -, rfl⟩ := List.mem_map.mp hp
    exact Report.isPlain_texts e.2
  simp [Value.isPlain, Report.isPlain_texts, hlang]

namespace Command

open Running

variable {around : Surroundings} {files : FileTree} {dir : Path} {directory : String}

/-- The directory that a command works in. -/
def Surroundings.folder (around : Surroundings) (directory : String) : Path :=
  (around.cwd.join directory).normal

/-- The project in a directory, with its settings. -/
def Surroundings.project (around : Surroundings) (dir : Path) (settings : Settings) : Project :=
  { dir, settings, modules := around.modules }

/-! ## Where the settings can be loaded -/

section Loaded

variable {settings : Settings} (h : Settings.load files dir around.environment = .ok settings)
include h

theorem projectIn_of_load (out : String) : projectIn around dir { files, output := out } =
    .ok (around.project dir settings) { files, output := out } := by
  simp only [projectIn, Project.load, bind, EStateM.bind, OnDisk.reading, h]
  rfl

theorem projectOrDefault_of_load (out : String) :
    projectOrDefault around dir { files, output := out } =
      .ok (around.project dir settings) { files, output := out } := by
  simp only [projectOrDefault, Project.load, bind, EStateM.bind, OnDisk.reading, h]
  rfl

end Loaded

/-- What the check finds is told, and the exit code says whether that is nothing. -/
theorem runRequest_checkFiles {settings : Settings} {r : FilesResult} {format : ReportFormat}
    {out : String}
    (hload : Settings.load files (around.folder directory) around.environment = .ok settings)
    (hcheck : (around.project (around.folder directory) settings).checkFiles files = .ok r)
    (hreport : r.report format (around.folder directory) "" = .ok () out) :
    runRequest around files (.invoke { directory, action := .checkFiles format.name }) =
      { code := if r.ok then 0 else 1, output := out, files } := by
  have hproject := projectOrDefault_of_load hload ""
  rw [Surroundings.folder] at *
  simp only [runRequest, perform, bind, EStateM.bind, hproject, reading, onDisk, OnDisk.reading,
    hcheck, askedFormat, ReportFormat.ofName?_name, pure, EStateM.pure, printing, hreport]
  cases r.ok with
  | true => rfl
  | false => rfl

/-! ## Where they cannot -/

/-- How a command ends that cannot use the settings of its project. -/
def Outcome.refused (fault : SettingsFault) (files : FileTree) : Outcome :=
  { code := 1, fault := some (.project (.settings fault)), output := "", files }

theorem bind_of_error {α β : Type} {x : Running α} {f : α → Running β} {s s' : State}
    {e : Nat ⊕ Fault} (h : x s = .error e s') : (x >>= f) s = .error e s' := by
  simp only [bind, EStateM.bind, h]

theorem projectLoad_of_load_error {fault : SettingsFault}
    (hload : Settings.load files dir around.environment = .error fault) :
    Project.load dir around.modules around.environment files = .error (.settings fault) files := by
  simp only [Project.load, bind, EStateM.bind, OnDisk.reading, hload]

section Refused

variable {fault : SettingsFault} (hload : Settings.load files dir around.environment = .error fault)
  (hfault : fault ≠ .load (.text .malformed))
include hload hfault

theorem projectIn_of_load_error (out : String) : projectIn around dir { files, output := out } =
    .error (.inr (.project (.settings fault))) { files, output := out } := by
  simp only [projectIn, projectLoad_of_load_error hload]
  split
  · next h => cases h
  · next h => cases h; exact absurd rfl hfault
  · next h => cases h; rfl

theorem projectOrDefault_of_load_error (out : String) :
    projectOrDefault around dir { files, output := out } =
      .error (.inr (.project (.settings fault))) { files, output := out } := by
  simp only [projectOrDefault, projectLoad_of_load_error hload]
  split
  · next h => cases h
  · next h => cases h; exact absurd rfl hfault
  · next h => cases h; rfl

/-- Every command but the one that starts a project begins with its settings. -/
theorem perform_of_load_error {action : Action} (haction : action ≠ .init) (out : String) :
    perform around dir action { files, output := out } =
      .error (.inr (.project (.settings fault))) { files, output := out } := by
  cases action with
  | init => exact absurd rfl haction
  | checkFiles format => exact bind_of_error (projectOrDefault_of_load_error hload hfault out)
  | _ => exact bind_of_error (projectIn_of_load_error hload hfault out)

end Refused

theorem runRequest_of_load_error {fault : SettingsFault}
    (hload : Settings.load files (around.folder directory) around.environment = .error fault)
    (hfault : fault ≠ .load (.text .malformed)) {action : Action} (haction : action ≠ .init) :
    runRequest around files (.invoke { directory, action }) = .refused fault files := by
  rw [Surroundings.folder] at hload
  simp only [runRequest, perform_of_load_error hload hfault haction, Outcome.refused]

/-! ## The settings file of a project -/

/-- The check of a project's files finds errors in its settings file, and the command that makes it
tells of them, in each format that can be printed, and ends with the exit code 1. -/
def Reports (around : Surroundings) (files : FileTree) (directory : String) (p : Project)
    (errors : List String) : Prop :=
  ∃ r, p.checkFiles files = .ok r ∧ r.errors = errors ∧
    (∃ out, r.report .json p.dir "" = .ok () out) ∧
    ∀ format out, r.report format p.dir "" = .ok () out →
      runRequest around files (.invoke { directory, action := .checkFiles format.name }) =
        { code := 1, output := out, files }

/-- What is wrong with the settings is told where the settings can be loaded, unless a language file
keeps the check from its end. -/
theorem reports_of_load {v : Value} {settings : Settings} {errors : List String}
    (hvalue : Wording.loadYaml files (Settings.file (around.folder directory)) = .ok v)
    (hload : Settings.load files (around.folder directory) around.environment = .ok settings)
    (herrors : Settings.checkFile files (Settings.file (around.folder directory)) = .ok errors)
    (hwrong : errors ≠ [])
    (hlang : (around.project (around.folder directory) settings).LangCheckable files) :
    Reports around files directory (around.project (around.folder directory) settings) errors := by
  obtain ⟨r, hr, rfl⟩ := Project.exists_checkFiles
    (p := around.project (around.folder directory) settings)
    (Settings.has_of_loadYaml hvalue) herrors hlang
  have hbad : r.ok = false := by
    rw [FilesResult.ok, List.isEmpty_eq_false_iff.mpr hwrong, Bool.false_and]
  refine ⟨r, hr, rfl, r.exists_report_json _ _, fun format out hout => ?_⟩
  rw [runRequest_checkFiles hload hr hout, hbad]
  rfl

/-- **Commands and the settings file.** The settings of a project can be loaded where it has no file
for them, or this has a value of which all lists can be gone through. So loaded, they are those of
the project that every command works with; what the check finds wrong with a file that has a value
is then told.

A file with a value of which a list cannot be gone through ends every command but the one that
starts a project: it fails at once, tells nothing, and leaves the files as they are. -/
theorem commands_start (around : Surroundings) (files : FileTree) (directory : String) :
    ((∃ settings, Settings.load files (around.folder directory) around.environment = .ok settings) ↔
      files.has (Settings.file (around.folder directory)) = false ∨
        ∃ v, Wording.loadYaml files (Settings.file (around.folder directory)) = .ok v ∧
          Settings.ListsIterable (v.pairs?.getD [])) ∧
      (∀ settings,
        Settings.load files (around.folder directory) around.environment = .ok settings →
          projectIn around (around.folder directory) { files } =
              .ok (around.project (around.folder directory) settings) { files } ∧
            projectOrDefault around (around.folder directory) { files } =
              .ok (around.project (around.folder directory) settings) { files }) ∧
      ∀ v, Wording.loadYaml files (Settings.file (around.folder directory)) = .ok v →
        (∀ settings errors,
          Settings.load files (around.folder directory) around.environment = .ok settings →
          Settings.checkFile files (Settings.file (around.folder directory)) = .ok errors →
          errors ≠ [] →
          (around.project (around.folder directory) settings).LangCheckable files →
          Reports around files directory (around.project (around.folder directory) settings)
            errors) ∧
        ∀ fault,
          Settings.load files (around.folder directory) around.environment = .error fault →
          (∃ kind, fault = .notItems kind) ∧
            ∀ action, action ≠ .init →
              runRequest around files (.invoke { directory, action }) = .refused fault files := by
  refine ⟨Settings.exists_load_iff, fun settings hload => ?_, fun v hvalue => ⟨?_, ?_⟩⟩
  · exact ⟨projectIn_of_load hload "", projectOrDefault_of_load hload ""⟩
  · intro settings errors hload herrors hwrong hlang
    exact reports_of_load hvalue hload herrors hwrong hlang
  · intro fault hload
    obtain ⟨kind, rfl⟩ := Settings.load_fails hvalue fault hload
    refine ⟨⟨kind, rfl⟩, fun action haction => ?_⟩
    exact runRequest_of_load_error hload (fun h => by cases h) haction

/-- A project whose settings file misspells a name. -/
def misspelledFiles : FileTree where
  nodes :=
    [(["home"], .folder), (["home", ".enumshare"], .folder),
      (["home", ".enumshare", "config.yaml"], .file (bytesOfText "enum: [app.Suit]\n"))]

theorem misspelled_told : ∃ settings,
    Settings.load misspelledFiles { parts := ["home"] } [] = .ok settings ∧
      Reports { cwd := { parts := ["home"] } } misspelledFiles "."
        { dir := { parts := ["home"] }, settings } ["Unknown key 'enum'"] := by
  have hvalue : (Wording.loadYaml misspelledFiles (Settings.file { parts := ["home"] })).toOption.map
      Value.isMap = some true := by
    decide +kernel
  have hsettings : (Settings.load misspelledFiles { parts := ["home"] } []).toOption.map
      (fun s => Project.langFiles { dir := { parts := ["home"] }, settings := s } misspelledFiles) =
        some [] := by
    decide +kernel
  have herrors : (Settings.checkFile misspelledFiles
      (Settings.file { parts := ["home"] })).toOption.map id = some ["Unknown key 'enum'"] := by
    decide +kernel
  obtain ⟨v, hv, -⟩ := exists_of_toOption hvalue
  obtain ⟨settings, hload, hlang⟩ := exists_of_toOption hsettings
  obtain ⟨errors, hcheck, rfl⟩ := exists_of_toOption herrors
  refine ⟨settings, hload, ?_⟩
  refine ((commands_start { cwd := { parts := ["home"] } } misspelledFiles ".").2.2 v hv).1
    settings _ hload hcheck (List.cons_ne_nil _ _) fun f hf => ?_
  -- there is no folder of language files
  change f ∈ Project.langFiles { dir := { parts := ["home"] }, settings } misspelledFiles at hf
  rw [hlang] at hf
  cases hf

/-- A project whose settings file has a number where names are expected. -/
def numberedFiles : FileTree where
  nodes :=
    [(["home"], .folder), (["home", ".enumshare"], .folder),
      (["home", ".enumshare", "config.yaml"], .file (bytesOfText "enums: 5\n"))]

/-- There is something to tell about a number where names are expected, and the command that checks
the files fails before it can. -/
theorem numbered_not_told :
    (Settings.checkFile numberedFiles (Settings.file { parts := ["home"] })).toOption =
        some ["'enums' must be a list of strings"] ∧
      let outcome := runRequest { cwd := { parts := ["home"] } } numberedFiles
        (.invoke { directory := ".", action := .checkFiles "text" })
      outcome.fault.isSome = true ∧ outcome.output = "" := by
  decide +kernel

end Command

end EnumExport
