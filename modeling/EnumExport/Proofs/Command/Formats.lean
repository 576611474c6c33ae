import EnumExport.Proofs.Class.Description
import EnumExport.Proofs.Command.Starting

/-!
# Exports and the format of their reports

An export does all of its work before the format of its report is looked at: it is its work, and
then the report, `perform_eq_bind`. The settings of the project and the strategy that is asked for
come first, and where one of these cannot be used nothing is changed.

So an export in a format that is not known fails, but leaves the files as the same export does in a
format that is: `export_in_unknown_format`.
-/

namespace EnumExport

/-- There are two formats. -/
theorem ReportFormat.ofName?_eq_none {format : String} (htext : format ≠ "text")
    (hjson : format ≠ "json") : ofName? format = none := by
  unfold ofName?
  split
  · exact absurd rfl htext
  · exact absurd rfl hjson
  · rfl

namespace Command

open Running

namespace Action

/-- The format that an export is asked to report in. -/
def exportFormat? : Action → Option String
  | exportOnce _ _ _ _ format | exportAll _ _ _ format => some format
  | discover _ | validate _ | init | checkFiles _ => none

/-- The same export with its report in another format. -/
def inFormat (format : String) : Action → Action
  | exportOnce path locale types strategy _ => exportOnce path locale types strategy format
  | exportAll locales base types _ => exportAll locales base types format
  | action => action

/-- The strategy that an export asks for. -/
def strategy? : Action → Option String
  | exportOnce _ _ _ strategy _ => strategy
  | _ => none

/-- An export up to its report, which it can tell in each format. -/
def work? (around : Surroundings) (dir : Path) :
    Action → Option (Running (ReportFormat → Printing Unit))
  | exportOnce path locale types strategy _ => some do
    let p ← projectIn around dir
    let strategy ← askedStrategy strategy
    let r ← onDisk (p.exportEnums { path := path.getD "", locale, types, strategy })
    return fun format => r.report format dir
  | exportAll locales base types _ => some do
    let p ← projectIn around dir
    let r ← onDisk (p.exportAll locales (base.getD "") types)
    return fun format => r.report format dir
  | _ => none

end Action

/-! ## Running quietly -/

/-- Nothing is printed up to the end, and an early end by an exit code is one by 1. -/
structure Running.IsQuiet {α : Type} (x : Running α) : Prop where
  /-- the end leaves what was printed as it was -/
  output : ∀ {s a s'}, x s = .ok a s' → s'.output = s.output
  /-- there is one exit code -/
  code : ∀ {s c s'}, x s = .error (.inl c) s' → c = 1

namespace Running.IsQuiet

variable {α β : Type}

theorem pure (a : α) : IsQuiet (Pure.pure a) where
  output := by
    intro s b s' h
    cases h
    rfl
  code := by
    intro s c s' h
    cases h

theorem fail (f : Fault) : IsQuiet (Running.fail f : Running α) where
  output := by
    intro s b s' h
    cases h
  code := by
    intro s c s' h
    cases h

theorem bind {x : Running α} {f : α → Running β} (hx : IsQuiet x) (hf : ∀ a, IsQuiet (f a)) :
    IsQuiet (x >>= f) where
  output := by
    intro s b s' h
    simp only [Bind.bind, EStateM.bind] at h
    split at h
    · next a t hxs => exact ((hf a).output h).trans (hx.output hxs)
    · cases h
  code := by
    intro s c s' h
    simp only [Bind.bind, EStateM.bind] at h
    split at h
    · next a t hxs => exact (hf a).code h
    · next e t hxs =>
      cases h
      exact hx.code hxs

theorem onDisk (x : OnDisk α) : IsQuiet (Running.onDisk x) where
  output := by
    intro s a s' h
    simp only [Running.onDisk] at h
    split at h
    · cases h
      rfl
    · cases h
  code := by
    intro s c s' h
    simp only [Running.onDisk] at h
    split at h <;> cases h

theorem askedStrategy (spelling : Option String) : IsQuiet (Running.askedStrategy spelling) := by
  unfold Running.askedStrategy
  split
  · exact pure _
  · exact pure _
  · split
    · exact pure _
    · exact fail _

end Running.IsQuiet

/-! ## The work of an export -/

section Work

variable {around : Surroundings} {files : FileTree} {dir : Path}

/-- Settings that cannot be loaded end a command, with the files as they are. -/
theorem exists_projectIn_of_load_error {fault : SettingsFault}
    (hload : Settings.load files dir around.environment = .error fault) (out : String) :
    ∃ e told, projectIn around dir { files, output := out } = .error e { files, output := told } ∧
      ∀ c, e = .inl c → c = 1 := by
  by_cases hfault : fault = .load (.text .malformed)
  · -- malformed settings are told of
    subst hfault
    simp only [projectIn, projectLoad_of_load_error hload, printing, bind, EStateM.bind]
    cases Console.print _ out with
    | ok u told => exact ⟨.inl 1, told, rfl, fun c hc => (Sum.inl.inj hc).symm⟩
    | error e told => exact ⟨.inr (.print e), told, rfl, fun c hc => absurd hc Sum.inr_ne_inl⟩
  · exact ⟨_, out, projectIn_of_load_error hload hfault out, fun c hc => absurd hc Sum.inr_ne_inl⟩

theorem isQuiet_projectIn : IsQuiet (projectIn around dir) := by
  have hcases : ∀ s : State, (∃ p, projectIn around dir s = .ok p s) ∨
      ∃ e s', projectIn around dir s = .error e s' ∧ ∀ c, e = .inl c → c = 1 := by
    rintro ⟨files, out⟩
    cases hload : Settings.load files dir around.environment with
    | ok settings => exact .inl ⟨_, projectIn_of_load hload out⟩
    | error fault =>
      obtain ⟨e, told, hproject, hcode⟩ := exists_projectIn_of_load_error hload out
      exact .inr ⟨e, _, hproject, hcode⟩
  constructor
  · intro s p s' h
    rcases hcases s with ⟨q, hq⟩ | ⟨e, t, he, -⟩
    · rw [hq] at h
      cases h
      rfl
    · rw [he] at h
      cases h
  · intro s c s' h
    rcases hcases s with ⟨q, hq⟩ | ⟨e, t, he, hcode⟩
    · rw [hq] at h
      cases h
    · rw [he] at h
      cases h
      exact hcode c rfl

variable {action : Action} {work : Running (ReportFormat → Printing Unit)}

theorem isQuiet_work (hwork : action.work? around dir = some work) : IsQuiet work := by
  cases action with
  | exportOnce path locale types strategy format =>
    obtain rfl := Option.some.inj hwork
    exact .bind isQuiet_projectIn fun p => .bind (.askedStrategy strategy) fun s =>
      .bind (.onDisk _) fun r => .pure _
  | exportAll locales base types format =>
    obtain rfl := Option.some.inj hwork
    exact .bind isQuiet_projectIn fun p => .bind (.onDisk _) fun r => .pure _
  | _ => cases hwork

/-- An export is its work, and then its report. -/
theorem perform_eq_bind {format : String} (hwork : action.work? around dir = some work)
    (hformat : action.exportFormat? = some format) :
    perform around dir action = work >>= fun report =>
      askedFormat format >>= fun f => printing (report f) := by
  cases action with
  | exportOnce path locale types strategy _ =>
    cases hformat
    obtain rfl := Option.some.inj hwork
    simp only [perform, bind_assoc, pure_bind]
  | exportAll locales base types _ =>
    cases hformat
    obtain rfl := Option.some.inj hwork
    simp only [perform, bind_assoc, pure_bind]
  | _ => cases hformat

variable (around dir) in
theorem exists_work {format : String} (hformat : action.exportFormat? = some format) :
    ∃ work, action.work? around dir = some work ∧ ∀ other,
      (action.inFormat other).work? around dir = some work ∧
        (action.inFormat other).exportFormat? = some other := by
  cases action with
  | exportOnce path locale types strategy _ => exact ⟨_, rfl, fun _ => ⟨rfl, rfl⟩⟩
  | exportAll locales base types _ => exact ⟨_, rfl, fun _ => ⟨rfl, rfl⟩⟩
  | _ => cases hformat

theorem exists_perform_of_load_error {format : String} {fault : SettingsFault}
    (hformat : action.exportFormat? = some format)
    (hload : Settings.load files dir around.environment = .error fault) :
    ∃ e told, perform around dir action { files } = .error e { files, output := told } := by
  obtain ⟨e, told, hproject, -⟩ := exists_projectIn_of_load_error hload ""
  cases action with
  | exportOnce | exportAll => exact ⟨e, told, bind_of_error hproject⟩
  | _ => cases hformat

/-- An export with a strategy that is not known ends before it changes anything. -/
theorem exists_perform_of_noStrategy {s : String} (hstrategy : action.strategy? = some s)
    (hsome : s ≠ "") (hnone : Script.Strategy.ofText? s = none) :
    ∃ e told, perform around dir action { files } = .error e { files, output := told } := by
  cases action with
  | exportOnce path locale types strategy format =>
    cases hload : Settings.load files dir around.environment with
    | error fault => exact exists_perform_of_load_error rfl hload
    | ok settings =>
      obtain rfl : strategy = some s := hstrategy
      have hasked : askedStrategy (some s) = fail (.noStrategy s) := by
        unfold askedStrategy
        split
        · next h => cases h
        · next h => exact absurd (Option.some.inj h) hsome
        · next t _ h =>
          cases h
          rw [hnone]
      refine ⟨.inr (.noStrategy s), "", ?_⟩
      simp only [perform, bind, EStateM.bind, projectIn_of_load hload, hasked]
      rfl
  | _ => cases hstrategy

end Work

/-! ## Exports in a format that is not known -/

section Exports

variable {around : Surroundings} {files : FileTree} {directory : String} {action : Action}
  {work : Running (ReportFormat → Printing Unit)} {format : String}

/-- The outcome of a command that ends early. -/
def Outcome.early (e : Nat ⊕ Fault) (s : State) : Outcome :=
  match e with
  | .inl code => { code, output := s.output, files := s.files }
  | .inr f => { code := 1, fault := some f, output := s.output, files := s.files }

@[simp] theorem Outcome.early_files (e : Nat ⊕ Fault) (s : State) :
    (early e s).files = s.files := by
  cases e <;> rfl

theorem Outcome.early_code {e : Nat ⊕ Fault} (h : ∀ c, e = .inl c → c = 1) (s : State) :
    (early e s).code = 1 := by
  cases e with
  | inl c => exact h c rfl
  | inr f => rfl

theorem runRequest_of_error {e : Nat ⊕ Fault} {s : State}
    (h : perform around (around.folder directory) action { files } = .error e s) :
    runRequest around files (.invoke { directory, action }) = .early e s := by
  rw [Surroundings.folder] at h
  simp only [runRequest, h, Outcome.early]
  cases e <;> rfl

variable (hwork : action.work? around (around.folder directory) = some work)
  (hformat : action.exportFormat? = some format)
include hwork hformat

/-- An export whose work ends early ends with it, in each format. -/
theorem runRequest_of_work_error {e : Nat ⊕ Fault} {s : State} (h : work { files } = .error e s) :
    runRequest around files (.invoke { directory, action }) = .early e s := by
  apply runRequest_of_error
  rw [perform_eq_bind hwork hformat]
  exact bind_of_error h

/-- An export that has done its work fails where its format is not known. -/
theorem runRequest_of_noFormat {report : ReportFormat → Printing Unit} {s : State}
    (hnone : ReportFormat.ofName? format = none) (h : work { files } = .ok report s) :
    runRequest around files (.invoke { directory, action }) =
      .early (.inr (.noFormat format)) s := by
  apply runRequest_of_error
  rw [perform_eq_bind hwork hformat]
  simp only [bind, EStateM.bind, h, askedFormat, hnone]
  rfl

/-- The report of an export changes no file. -/
theorem files_of_format {report : ReportFormat → Printing Unit} {s : State} {f : ReportFormat}
    (hname : ReportFormat.ofName? format = some f) (h : work { files } = .ok report s) :
    (runRequest around files (.invoke { directory, action })).files = s.files := by
  have hperform := perform_eq_bind hwork hformat
  rw [Surroundings.folder] at hperform
  simp only [runRequest, hperform, bind, EStateM.bind, h, askedFormat, hname, pure, EStateM.pure,
    printing]
  cases report f s.output <;> rfl

end Exports

/-- **Exports in a format that is not known.** An export whose report is asked for in a format that
is not known fails. It leaves the files as the same export does in each format that is known: where
that one succeeds, all of its work is done, and nothing is told of it. Settings that cannot be
loaded and a strategy that is not known end an export before it changes a file. -/
theorem export_in_unknown_format {around : Surroundings} {arguments : List String}
    {files : FileTree} {i : Invocation} {format : String}
    (hrequest : Request.ofArguments arguments = .invoke i)
    (hexport : i.action.exportFormat? = some format) (htext : format ≠ "text")
    (hjson : format ≠ "json") :
    let outcome := run around arguments files
    let known (f : ReportFormat) := runRequest around files
      (.invoke { i with action := i.action.inFormat f.name })
    outcome.code = 1 ∧ (∀ f, outcome.files = (known f).files) ∧
      (∀ f, (known f).code = 0 → outcome =
        { code := 1, fault := some (.noFormat format), output := "", files := (known f).files }) ∧
      (∀ fault, Settings.load files (around.folder i.directory) around.environment = .error fault →
        outcome.files = files) ∧
      ∀ s, i.action.strategy? = some s → s ≠ "" → Script.Strategy.ofText? s = none →
        outcome.files = files := by
  intro outcome known
  have hrun : outcome = runRequest around files (.invoke i) := by rw [← hrequest]; rfl
  have hnone := ReportFormat.ofName?_eq_none htext hjson
  obtain ⟨work, hwork, hother⟩ := exists_work around (around.folder i.directory) hexport
  have hquiet := isQuiet_work hwork
  refine ⟨?_, ?_, ?_, fun fault hload => ?_, fun s hstrategy hsome hunknown => ?_⟩
  · rw [hrun]
    cases hend : work { files } with
    | ok report s => rw [runRequest_of_noFormat hwork hexport hnone hend]; rfl
    | error e s =>
      rw [runRequest_of_work_error hwork hexport hend]
      exact Outcome.early_code (fun c hc => hquiet.code (hc ▸ hend)) s
  · intro f
    obtain ⟨hworkf, hformatf⟩ := hother f.name
    rw [hrun]
    cases hend : work { files } with
    | ok report s =>
      rw [runRequest_of_noFormat hwork hexport hnone hend, Outcome.early_files]
      exact (files_of_format hworkf hformatf f.ofName?_name hend).symm
    | error e s =>
      rw [runRequest_of_work_error hwork hexport hend]
      exact congrArg Outcome.files (runRequest_of_work_error hworkf hformatf hend).symm
  · intro f hzero
    obtain ⟨hworkf, hformatf⟩ := hother f.name
    cases hend : work { files } with
    | ok report s =>
      have hsilent : s.output = "" := hquiet.output hend
      have hfiles : (known f).files = s.files :=
        files_of_format hworkf hformatf f.ofName?_name hend
      rw [hrun, runRequest_of_noFormat hwork hexport hnone hend, hfiles, ← hsilent]
      rfl
    | error e s =>
      -- work that ends early does not end with the exit code 0
      have hearly : known f = .early e s := runRequest_of_work_error hworkf hformatf hend
      rw [hearly, Outcome.early_code (fun c hc => hquiet.code (hc ▸ hend)) s] at hzero
      cases hzero
  · obtain ⟨e, told, hperform⟩ := exists_perform_of_load_error hexport hload
    rw [hrun, runRequest_of_error hperform, Outcome.early_files]
  · obtain ⟨e, told, hperform⟩ := exists_perform_of_noStrategy hstrategy hsome hunknown
    rw [hrun, runRequest_of_error hperform, Outcome.early_files]

/-- A project whose settings name a class. -/
def suitFiles : FileTree where
  nodes :=
    [(["home"], .folder), (["home", ".enumshare"], .folder),
      (["home", ".enumshare", "config.yaml"], .file (bytesOfText "enums: [app.Suit]\n"))]

/-- A module with that class. -/
def suitAround : Surroundings where
  cwd := { parts := ["home"] }
  modules := [{ name := "app", classes := [suitClass] }]

theorem suit_in_unknown_format :
    let outcome := run suitAround ["export", "--format", "xml"] suitFiles
    outcome.code = 1 ∧ outcome.files = (runRequest suitAround suitFiles
      (.invoke ⟨".", .exportOnce none none none none "text"⟩)).files := by
  have hrequest : Request.ofArguments ["export", "--format", "xml"] =
      .invoke ⟨".", .exportOnce none none none none "xml"⟩ := by decide +kernel
  have hexport := @export_in_unknown_format suitAround _ suitFiles _ _ hrequest rfl (by decide)
    (by decide)
  exact ⟨hexport.1, hexport.2.1 .text⟩

/-- The module of the class is written although the command fails. -/
theorem suit_written_unreported :
    let outcome := run suitAround ["export", "--format", "xml"] suitFiles
    outcome.code = 1 ∧
      suitFiles.has { parts := ["home", "frontend", "src", "enums", "Suit.ts"] } = false ∧
      outcome.files.has { parts := ["home", "frontend", "src", "enums", "Suit.ts"] } = true := by
  decide +kernel

end Command

end EnumExport
