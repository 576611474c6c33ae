import EnumExport.Proofs.Project.Single
import EnumExport.Proofs.Project.Writing
import EnumExport.Proofs.Script.Batch
import EnumExport.Proofs.Script.Embedding

/-!
# What an export does to the files

An export generates the batch of its manifest and, where that has a source, writes it:
`exportTo_eq`.

* The modules are written into one folder, each under a name of its own, as the names of the manifest
  are told apart; the helper is written after them: `writeBatch_ok`.
* Into a folder that is ready, every batch can be written: `exportTo_isOk`.
* Each file holds the module of its enumeration, unless that has the name of the helper, and all other
  files stay: `exportTo_writes`.
-/

namespace EnumExport

/-! ## First lines -/

namespace Script

/-- The text of some lines begins with the first one. -/
theorem exists_toList_lines (first : String) (rest : List String) :
    ∃ more, ("\n".intercalate (first :: rest) ++ "\n").toList = first.toList ++ more := by
  rw [String.toList_append, toList_lines, List.append_assoc]
  exact ⟨_, rfl⟩

/-- Every module begins with the first line. -/
theorem exists_toList_of_generate {name : String} {entry : Entry} {options : Options} {text : String}
    (h : generate name entry options = .ok text) :
    ∃ more, text.toList = ("// " ++ headLine).toList ++ more := by
  rw [generate] at h
  cases hitems : moduleItems name entry options with
  | error e =>
    rw [hitems] at h
    cases h
  | ok items =>
    rw [hitems] at h
    obtain rfl := Except.ok.inj h
    have hensures : Ensures (moduleItems name entry options)
        fun items => ∃ more, items = .comment headLine :: more := by
      refine .bind fun _ _ => .bind fun _ _ => ?_
      dsimp only
      split <;> exact .bind fun _ _ => .pure ⟨_, rfl⟩
    obtain ⟨more, rfl⟩ := hensures items hitems
    exact exists_toList_lines _ _

/-- No module has the text of the helper. -/
theorem generate_ne_helperText (name : String) (entry : Entry) (options : Options) :
    generate name entry options ≠ .ok helperText := by
  intro h
  obtain ⟨more, hmodule⟩ := exists_toList_of_generate h
  obtain ⟨rest, hhelper⟩ := exists_toList_lines
    "// Shared runtime used by enum modules generated with the shared strategy." helperLines.tail
  have heq : "// Shared runtime used by enum modules generated with the shared strategy.".toList ++
      rest = ("// " ++ headLine).toList ++ more := hhelper.symm.trans hmodule
  have hfourth := congrArg (fun cs => cs[3]?) heq
  simp [headLine] at hfourth

end Script

namespace Project

variable (p : Project) (output : Path) (request : ExportRequest) (t : FileTree)

/-! ## The parts of an export -/

/-- The strategy that a request asks for. -/
def strategyFor : Script.Strategy := request.strategy.getD p.settings.output.strategy

/-- How the modules of a request are generated. -/
def optionsFor : Script.Options where
  exportTypes := request.types.getD p.settings.output.types
  strategy := p.strategyFor request
  locale := if (p.localeFor request).truthy then some (p.localeFor request).display else none

/-- What the registry makes of a request. -/
def builtFor : RegistryResult := (p.registry t).build (p.localeFor request)

/-- What an export tells of a batch, the written files aside. -/
def resultFor (batch : Script.Batch) : ExportResult where
  output
  locale := p.localeFor request
  strategy := p.strategyFor request
  errors := withFailures (p.builtFor request t).manifest
    ((p.builtFor request t).errors.map fun e => (e.1, e.2.message)) batch.failures
  notices := (p.builtFor request t).notices

/-- Writes the sources of a batch, and the helper where it is needed. -/
def writeBatch (batch : Script.Batch) : OnDisk ExportResult := do
  OnDisk.change fun t => t.makeFolders output
  let files ← writeModules output batch.sources
  let helper ← match p.strategyFor request with
    | .shared => do pure (some (← writeHelper output))
    | .inline => pure none
  return { p.resultFor output request t batch with files, helper }

/-- An export generates the batch of the manifest, and writes it where there is a source. -/
theorem exportTo_eq : p.exportTo output request t =
    match Script.generateAll (p.optionsFor request) (p.builtFor request t).manifest with
    | .error e => .error (.generation e) t
    | .ok batch =>
      if batch.sources.isEmpty then .ok (p.resultFor output request t batch) t
      else p.writeBatch output request t batch t := by
  have hsplit : p.exportTo output request t =
      (if (p.builtFor request t).manifest.isEmpty then
        pure (p.resultFor output request t ⟨[], []⟩)
      else
        OnDisk.reading ProjectFault.generation (fun _ => Script.generateAll (p.optionsFor request)
          (p.builtFor request t).manifest) >>= fun batch =>
          if batch.sources.isEmpty then pure (p.resultFor output request t batch)
          else p.writeBatch output request t batch) t := rfl
  rw [hsplit]
  cases hmanifest : (p.builtFor request t).manifest with
  -- an empty manifest has the empty batch
  | nil => rfl
  | cons entry rest =>
    cases hall : Script.generateAll (p.optionsFor request) (entry :: rest) with
    | error e => simp [bind, EStateM.bind, OnDisk.reading]
    | ok batch =>
      simp only [List.isEmpty_cons, Bool.false_eq_true, if_false, bind, EStateM.bind,
        OnDisk.reading]
      split <;> rfl

section Writes

variable {output : Path} {t u : FileTree} {here : Place}

/-- What writing a batch comes to: folders are made, and then the modules and the helper are put into
one of them. -/
theorem writeBatch_ok {p : Project} {request : ExportRequest} {batch : Script.Batch}
    {result : ExportResult} (hnames : ∀ s ∈ batch.sources, '/' ∉ s.1.toList)
    (h : p.writeBatch output request t batch t = .ok result u) :
    ∃ made here, t.MadeFolders made output ∧ made.locate output = .ok here ∧
      u = made.putFiles
        (moduleWrites here batch.sources ++ helperWrites here (p.strategyFor request)) ∧
      u.locate output = .ok here ∧ u.at? here = some .folder ∧
      result = { p.resultFor output request t batch with
        files := batch.sources.map fun s => (s.1, output.child (moduleFile s.1))
        helper := helperPath? output (p.strategyFor request) } := by
  rw [writeBatch] at h
  obtain ⟨_, made, hmake, h⟩ := OnDisk.bind_ok h
  obtain ⟨files, s, hmodules, h⟩ := OnDisk.bind_ok h
  have hmade := FileTree.makeFolders_ok (OnDisk.change_ok hmake)
  obtain ⟨here, hlocate, hfolder⟩ := FileTree.exists_locate_of_isFolder hmade.made
  obtain ⟨rfl, rfl, hkeeps⟩ := writeModules_ok hnames hlocate hfolder hmodules
  have hlocate' := FileTree.locate_of_keepsFolders hkeeps hlocate
  refine ⟨made, here, hmade, hlocate, ?_⟩
  cases hstrategy : p.strategyFor request with
  | inline =>
    rw [hstrategy] at h
    cases h
    exact ⟨by rw [helperWrites, List.append_nil], hlocate', hkeeps here hfolder, rfl⟩
  | shared =>
    rw [hstrategy] at h
    obtain ⟨file, s', hfile, h⟩ := OnDisk.bind_ok h
    cases h
    obtain ⟨rfl, rfl, hkeeps'⟩ := writeHelper_ok hlocate' (hkeeps here hfolder) hfile
    refine ⟨(FileTree.putFiles_append _ _ _).symm, FileTree.locate_of_keepsFolders hkeeps' hlocate',
      hkeeps' here (hkeeps here hfolder), rfl⟩

/-- A batch is written into a folder that is ready. -/
theorem Ready.writeBatch {p : Project} {request : ExportRequest} {batch : Script.Batch}
    (h : Ready t output here) (hnames : ∀ s ∈ batch.sources, '/' ∉ s.1.toList) :
    ∃ result u, p.writeBatch output request t batch t = .ok result u := by
  have hmake : t.makeFolders output = .ok t := by
    rw [FileTree.makeFolders, if_pos (FileTree.isFolder_of_locate h.located h.folder)]
  obtain ⟨files, s, hmodules, hready⟩ := h.writeModules hnames
  obtain ⟨file, u, hhelper, -⟩ := hready.writeHelper
  unfold Project.writeBatch
  cases p.strategyFor request with
  | inline =>
    simp only [bind, EStateM.bind, OnDisk.change, hmake, hmodules]
    exact ⟨_, s, rfl⟩
  | shared =>
    simp only [bind, EStateM.bind, OnDisk.change, hmake, hmodules, hhelper]
    exact ⟨_, u, rfl⟩

end Writes

/-! ## The files after an export -/

/-- What an export that ends well has made of the files of a tree. -/
structure Exported (p : Project) (output : Path) (request : ExportRequest) (t u : FileTree)
    (batch : Script.Batch) (result : ExportResult) : Prop where
  /-- the batch is that of the manifest -/
  generated : Script.generateAll (p.optionsFor request) (p.builtFor request t).manifest = .ok batch
  /-- which gives for each entry what it gives alone, in order -/
  accounts : batch.Accounts (p.optionsFor request) (p.builtFor request t).manifest
  /-- there is one file for each source, in the same order -/
  files : result.files = batch.sources.map fun s => (s.1, output.child (moduleFile s.1))
  /-- with the shared strategy there is the helper, unless there is no source -/
  helper : result.helper =
    if p.strategyFor request = .shared ∧ batch.sources ≠ [] then
      some (output.child Script.helperFile)
    else none
  /-- the file of a source holds its text, unless it is the helper's, too -/
  contents : ∀ s ∈ batch.sources,
    u.read (output.child (moduleFile s.1)) = .ok (bytesOfText s.2) ↔
      ¬ (p.strategyFor request = .shared ∧ s.1 = "EnumRuntime")
  /-- the file of the helper holds the helper -/
  helper_content : ∀ file, result.helper = some file →
    u.read file = .ok (bytesOfText Script.helperText)
  /-- every other file is as it was, and there is no new one -/
  others : ∀ place content,
    (∀ file ∈ result.files.map Prod.snd ++ result.helper.toList, u.locate file ≠ .ok place) →
      (u.at? place = some (.file content) ↔ t.at? place = some (.file content))
  /-- without a source nothing is created at all -/
  nothing : batch.sources = [] → u = t

section Exported

variable {p : Project} {output : Path} {request : ExportRequest} {t u : FileTree} {here : Place}
  {batch : Script.Batch}

/-- What the file of a module holds after modules and helper have been put into a folder. -/
theorem at?_module {made : FileTree} {strategy : Script.Strategy}
    (hkeys : (Assoc.keys batch.sources).Nodup) {s : String × String} (hs : s ∈ batch.sources) :
    (made.putFiles (moduleWrites here batch.sources ++ helperWrites here strategy)).at?
        (here ++ [moduleFile s.1]) =
      some (.file (bytesOfText (if strategy = .shared ∧ s.1 = "EnumRuntime" then Script.helperText
        else s.2))) := by
  have hplace : here ++ [moduleFile s.1] ≠ [] := by simp
  rw [FileTree.putFiles_append]
  split
  · next h =>
    obtain ⟨rfl, hname⟩ := h
    refine FileTree.at?_putFiles_of_mem hplace (List.nodup_singleton _) ?_
    rw [hname]
    exact List.mem_singleton.mpr rfl
  · next h =>
    rw [FileTree.at?_putFiles_of_not_mem fun hmem => h (mem_helperWrites.mp hmem)]
    exact FileTree.at?_putFiles_of_mem hplace (moduleWrites_nodup hkeys)
      (List.mem_map.mpr ⟨s, hs, rfl⟩)

/-- Whatever is put into the folder is put where a file of the result leads. -/
theorem exists_file_of_mem_writes {strategy : Script.Strategy} {place : Place}
    (hlocate : ∀ name, name ≠ ".." → u.locate (output.child name) = .ok (here ++ [name]))
    (h : place ∈ (moduleWrites here batch.sources ++ helperWrites here strategy).map Prod.fst) :
    ∃ file ∈ (batch.sources.map fun s => output.child (moduleFile s.1)) ++
      (helperPath? output strategy).toList, u.locate file = .ok place := by
  rw [List.map_append] at h
  rcases List.mem_append.mp h with h | h
  · obtain ⟨w, hw, rfl⟩ := List.mem_map.mp h
    obtain ⟨s, hs, rfl⟩ := List.mem_map.mp hw
    exact ⟨_, List.mem_append_left _ (List.mem_map.mpr ⟨s, hs, rfl⟩),
      hlocate _ (moduleFile_ne_back s.1)⟩
  · cases strategy with
    | inline => cases h
    | shared =>
      rcases List.mem_singleton.mp h with rfl
      exact ⟨_, List.mem_append_right _ (List.mem_singleton.mpr rfl), hlocate _ (by decide)⟩

/-- The helper is put into the folder last. -/
theorem at?_helper {made : FileTree} : (made.putFiles (moduleWrites here batch.sources ++
      helperWrites here .shared)).at? (here ++ [Script.helperFile]) =
    some (.file (bytesOfText Script.helperText)) := by
  rw [FileTree.putFiles_append]
  exact FileTree.at?_putFiles_of_mem (by simp) (List.nodup_singleton _) (List.mem_singleton.mpr rfl)

/-- No source has the text of the helper. -/
theorem text_ne_helperText {options : Script.Options} {manifest : Manifest}
    (haccounts : batch.Accounts options manifest) {s : String × String} (hs : s ∈ batch.sources) :
    s.2 ≠ Script.helperText := by
  obtain ⟨name, text⟩ := s
  obtain ⟨entry, -, hgenerate⟩ := (haccounts.sources name text).mp hs
  rintro rfl
  exact Script.generate_ne_helperText name entry options hgenerate

section Batch

variable {result : ExportResult}
  (hbatch : Script.generateAll (p.optionsFor request) (p.builtFor request t).manifest = .ok batch)
include hbatch

/-- Without a source the files stay as they are. -/
theorem exported_of_nothing (hsources : batch.sources = []) :
    p.Exported output request t t batch (p.resultFor output request t batch) where
  generated := hbatch
  accounts := Script.accounts_of_ok Registry.manifest_keys_nodup hbatch
  files := by
    rw [hsources]
    rfl
  helper := by
    rw [if_neg fun h => h.2 hsources]
    rfl
  contents := by simp [hsources]
  helper_content := by
    intro file hfile
    cases hfile
  others := fun _ _ _ => Iff.rfl
  nothing := fun _ => rfl

/-- What is said of the names of the manifest holds for those of the sources. -/
theorem names_of_sources {P : String → Prop}
    (hnames : ∀ name ∈ Assoc.keys (p.builtFor request t).manifest, P name) :
    ∀ s ∈ batch.sources, P s.1 := by
  intro s hs
  have haccounts := Script.accounts_of_ok Registry.manifest_keys_nodup hbatch
  exact hnames s.1 (haccounts.sources_order.subset (List.mem_map_of_mem hs))

/-- An export into a folder that is ready comes to its end where it has a batch. -/
theorem exportTo_isOk (hready : Ready t output here)
    (hnames : ∀ name ∈ Assoc.keys (p.builtFor request t).manifest, '/' ∉ name.toList) :
    ∃ result u, p.exportTo output request t = .ok result u := by
  rw [exportTo_eq, hbatch]
  dsimp only
  split
  · exact ⟨_, t, rfl⟩
  · exact hready.writeBatch (names_of_sources hbatch hnames)

/-- A batch that has been written is found in the files. -/
theorem exported_of_written (hsources : batch.sources ≠ [])
    (hnames : ∀ name ∈ Assoc.keys (p.builtFor request t).manifest, '/' ∉ name.toList)
    (h : p.writeBatch output request t batch t = .ok result u) :
    p.Exported output request t u batch result := by
  have haccounts := Script.accounts_of_ok Registry.manifest_keys_nodup hbatch
  have hkeys := haccounts.sources_order.nodup Registry.manifest_keys_nodup
  have hslash := names_of_sources hbatch hnames
  obtain ⟨made, here, hmade, -, hput, hlocate, hfolder, rfl⟩ := writeBatch_ok hslash h
  -- the files of the result lead into the folder, one step down
  have hchild : ∀ name, name ≠ ".." → u.locate (output.child name) = .ok (here ++ [name]) := by
    intro name hname
    exact FileTree.locate_child hlocate hfolder hname
  subst hput
  refine ⟨hbatch, haccounts, rfl, ?helper, ?contents, ?helper_content, ?others, ?nothing⟩
  case helper => cases p.strategyFor request <;> simp [hsources, helperPath?]
  case contents =>
    intro s hs
    rw [FileTree.read_of_locate (hchild _ (moduleFile_ne_back s.1)) (at?_module hkeys hs)]
    by_cases hsame : p.strategyFor request = .shared ∧ s.1 = "EnumRuntime"
    · rw [if_pos hsame]
      apply iff_of_false
      · intro heq
        exact text_ne_helperText haccounts hs (bytesOfText_inj (Except.ok.inj heq)).symm
      · exact fun hnot => hnot hsame
    · rw [if_neg hsame]
      exact iff_of_true rfl hsame
  case helper_content =>
    intro file hfile
    cases hstrategy : p.strategyFor request with
    | inline =>
      rw [hstrategy] at hfile
      cases hfile
    | shared =>
      rw [hstrategy] at hfile hchild
      obtain rfl := Option.some.inj hfile
      exact FileTree.read_of_locate (hchild _ (by decide)) at?_helper
  case others =>
    intro place content hplace
    rw [FileTree.at?_putFiles_of_not_mem, hmade.files place content]
    intro hmem
    obtain ⟨file, hfile, hleads⟩ := exists_file_of_mem_writes hchild hmem
    refine hplace file ?_ hleads
    rw [List.map_map]
    exact hfile
  case nothing => exact fun hnone => absurd hnone hsources

end Batch

/-- **What an export does to the files.** Into whatever folder the modules are exported, for whatever
locale and strategy, they and the helper are all that is written; and each file holds the module that
the batch has for its enumeration, unless an enumeration has the name of the helper. -/
theorem exportTo_writes (p : Project) (output : Path) (request : ExportRequest) (t u : FileTree)
    (result : ExportResult)
    (hnames : ∀ name ∈ Assoc.keys (p.builtFor request t).manifest, '/' ∉ name.toList)
    (h : p.exportTo output request t = .ok result u) :
    ∃ batch, p.Exported output request t u batch result := by
  rw [exportTo_eq] at h
  split at h
  · cases h
  · next batch hbatch =>
    refine ⟨batch, ?_⟩
    split at h
    · next hempty =>
      cases h
      exact exported_of_nothing hbatch (List.isEmpty_iff.mp hempty)
    · next hsome =>
      have hsources : batch.sources ≠ [] := fun hnone => hsome (List.isEmpty_iff.mpr hnone)
      exact exported_of_written hbatch hsources hnames h

/-! ## Projects of one class -/

section Single

variable {c : ClassDef} {entry : Entry} {text : String}
  (h : '.' ∉ c.qualifiedName.toList)
  (hcheck : Modules.checkClass ("app." ++ c.qualifiedName) c = .ok c)
  (hentry : (((single c).registry t).entryOf ((single c).localeFor request)
    ("app." ++ c.qualifiedName) c).2 = .ok entry)
  (htext : Script.generate c.name entry ((single c).optionsFor request) = .ok text)
include h hcheck hentry htext

/-- The batch of a single class that has a module. -/
theorem generateAll_single : Script.generateAll ((single c).optionsFor request)
    ((single c).builtFor request t).manifest = .ok ⟨[(c.name, text)], []⟩ := by
  have hmanifest : ((single c).builtFor request t).manifest = [(c.name, entry)] :=
    (build_single h hcheck hentry).1
  rw [hmanifest]
  simp [Script.generateAll, htext]

/-- A single class that has a module is written. -/
theorem exportTo_single : (single c).exportTo output request t =
    (single c).writeBatch output request t ⟨[(c.name, text)], []⟩ t := by
  rw [exportTo_eq, generateAll_single h hcheck hentry htext]
  rfl

end Single

/-! ## Two classes, one with the name of the helper -/

/-- An empty folder. -/
def emptyHome : FileTree := { nodes := [(["home"], .folder)] }

theorem emptyHome_ready : Ready emptyHome { parts := ["home"] } ["home"] where
  located := rfl
  folder := rfl
  free := by
    intro name
    simp [emptyHome, FileTree.at?, Assoc.get?]

/-- A request for the folder itself, with the shared strategy. -/
def sharedRequest : ExportRequest := { path := ".", strategy := some .shared }

/-- A class with a module is exported into the empty folder. -/
theorem exportTo_emptyHome {c : ClassDef} {entry : Entry} {text : String}
    (hdot : '.' ∉ c.qualifiedName.toList) (hslash : '/' ∉ c.name.toList)
    (hcheck : Modules.checkClass ("app." ++ c.qualifiedName) c = .ok c)
    (hentry : (((single c).registry emptyHome).entryOf ((single c).localeFor sharedRequest)
      ("app." ++ c.qualifiedName) c).2 = .ok entry)
    (htext : Script.generate c.name entry ((single c).optionsFor sharedRequest) = .ok text) :
    ∃ result u, (single c).exportTo { parts := ["home"] } sharedRequest emptyHome =
      .ok result u := by
  refine exportTo_isOk (generateAll_single hdot hcheck hentry htext) emptyHome_ready ?_
  have hmanifest : ((single c).builtFor sharedRequest emptyHome).manifest = [(c.name, entry)] :=
    (build_single hdot hcheck hentry).1
  rw [hmanifest]
  simpa [Assoc.keys] using hslash

theorem suit_entryOf : (((single suitClass).registry emptyHome).entryOf
    ((single suitClass).localeFor sharedRequest) ("app." ++ suitClass.qualifiedName) suitClass).2 =
      .ok Script.suitEntry := rfl

theorem exportTo_writes_suit : ∃ result u batch,
    (single suitClass).exportTo { parts := ["home"] } sharedRequest emptyHome = .ok result u ∧
    (single suitClass).Exported { parts := ["home"] } sharedRequest emptyHome u batch result := by
  obtain ⟨text, htext⟩ : ∃ text, Script.generate suitClass.name Script.suitEntry
      ((single suitClass).optionsFor sharedRequest) = .ok text := ⟨_, rfl⟩
  have hdot : '.' ∉ suitClass.qualifiedName.toList := by decide
  obtain ⟨result, u, hexport⟩ := exportTo_emptyHome hdot (by decide) rfl suit_entryOf htext
  have hmanifest : ((single suitClass).builtFor sharedRequest emptyHome).manifest =
      [(suitClass.name, Script.suitEntry)] := (build_single hdot rfl suit_entryOf).1
  obtain ⟨batch, hbatch⟩ := exportTo_writes (single suitClass) { parts := ["home"] } sharedRequest
    emptyHome u result (by rw [hmanifest]; decide) hexport
  exact ⟨result, u, batch, hexport, hbatch⟩

/-- A declaration with the name of the helper. -/
def namesake : ClassDecl where
  name := "EnumRuntime"
  qualifiedName := "EnumRuntime"
  module := "app"
  bases := [.marker, .enumeration]
  members := [("One", .given (.int 1))]

/-- The class of that declaration. -/
def namesakeClass : ClassDef where
  name := "EnumRuntime"
  qualifiedName := "EnumRuntime"
  module := "app"
  line := [{ self := .declared "EnumRuntime" }, { self := .marker }, { self := .enumeration },
    { self := .object }]
  table := { names := [("One", ⟨"One", .int 1⟩)], listed := [⟨"One", .int 1⟩] }
  notes := []
  keepsValues := false

/-- Its entry. -/
def namesakeEntry : Entry where
  name := "EnumRuntime"
  qualifiedName := "app.EnumRuntime"
  backing := none
  cases := [{ key := "One", value := .null, label := .text "One", data := [], extra := [] }]
  choices := [⟨.text "One", "One"⟩]

theorem namesake_built : ClassDef.ofDeclOver [] namesake = .ok namesakeClass := rfl

theorem namesake_entryOf : (((single namesakeClass).registry emptyHome).entryOf
    ((single namesakeClass).localeFor sharedRequest) ("app." ++ namesakeClass.qualifiedName)
      namesakeClass).2 = .ok namesakeEntry := rfl

/-- The module of a class with the name of the helper is listed, but its file holds something else. -/
theorem namesake_replaced : ClassDef.ofDeclOver [] namesake = .ok namesakeClass ∧
    ∃ text result u, Script.generateAll ((single namesakeClass).optionsFor sharedRequest)
        ((single namesakeClass).builtFor sharedRequest emptyHome).manifest =
          .ok ⟨[("EnumRuntime", text)], []⟩ ∧
      (single namesakeClass).exportTo { parts := ["home"] } sharedRequest emptyHome =
        .ok result u ∧
      result.files = [("EnumRuntime", { parts := ["home", "EnumRuntime.ts"] })] ∧
      u.read { parts := ["home", "EnumRuntime.ts"] } ≠ .ok (bytesOfText text) := by
  obtain ⟨text, htext⟩ : ∃ text, Script.generate namesakeClass.name namesakeEntry
      ((single namesakeClass).optionsFor sharedRequest) = .ok text := ⟨_, rfl⟩
  have hdot : '.' ∉ namesakeClass.qualifiedName.toList := by decide
  obtain ⟨result, u, hexport⟩ := exportTo_emptyHome hdot (by decide) rfl namesake_entryOf htext
  have hmanifest : ((single namesakeClass).builtFor sharedRequest emptyHome).manifest =
      [(namesakeClass.name, namesakeEntry)] := (build_single hdot rfl namesake_entryOf).1
  have hbatch : Script.generateAll ((single namesakeClass).optionsFor sharedRequest)
      ((single namesakeClass).builtFor sharedRequest emptyHome).manifest =
        .ok ⟨[("EnumRuntime", text)], []⟩ := generateAll_single hdot rfl namesake_entryOf htext
  have hwrite := hexport
  rw [exportTo_single hdot rfl namesake_entryOf htext] at hwrite
  have hexported := exported_of_written hbatch (by simp) (by rw [hmanifest]; decide) hwrite
  refine ⟨namesake_built, text, result, u, hbatch, hexport, hexported.files, ?_⟩
  intro hread
  exact (hexported.contents ("EnumRuntime", text) (by simp)).mp hread ⟨rfl, rfl⟩

end Exported

end Project

end EnumExport
