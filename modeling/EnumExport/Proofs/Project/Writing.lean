import EnumExport.Project.Export
import EnumExport.Proofs.Files.Writes

/-!
# Writing modules and the helper

What is written into a folder is a row of files, each under a name of its own: `moduleWrites`, with
the helper behind them, `helperWrites`.

* Modules of different names are written to different places: `moduleWrites_nodup`.
* The helper takes the place of a module only where that has its name: `mem_helperWrites`.
* Writing them puts these files where they belong, and changes nothing else: `writeModules_ok`,
  `writeHelper_ok`.
* It fails only where a file or folder stands in the way: `writeModules_failsOnFiles`,
  `writeHelper_failsOnFiles`.
-/

namespace EnumExport

/-! ## Computations on disk -/

namespace OnDisk

variable {α β : Type} {t u : FileTree}

theorem bind_ok {x : OnDisk α} {f : α → OnDisk β} {b : β} (h : (x >>= f) t = .ok b u) :
    ∃ a s, x t = .ok a s ∧ f a s = .ok b u := by
  simp only [bind, EStateM.bind] at h
  split at h
  · next a s hx => exact ⟨a, s, hx, h⟩
  · cases h

theorem change_ok {f : FileTree → Except FileFault FileTree} {a : Unit}
    (h : change f t = .ok a u) : f t = .ok u := by
  rw [change] at h
  split at h
  · next s hs =>
    cases h
    exact hs
  · cases h

/-- The computation fails only where a file or folder stands in the way. -/
def FailsOnFiles (x : OnDisk α) : Prop :=
  ∀ t fault u, x t = .error fault u → ∃ f, fault = .file f

theorem FailsOnFiles.pure (a : α) : FailsOnFiles (Pure.pure a) := by
  intro t fault u h
  cases h

theorem FailsOnFiles.bind {x : OnDisk α} {f : α → OnDisk β} (hx : FailsOnFiles x)
    (hf : ∀ a, FailsOnFiles (f a)) : FailsOnFiles (x >>= f) := by
  intro t fault u h
  simp only [Bind.bind, EStateM.bind] at h
  split at h
  · next a s _ => exact hf a s fault u h
  · next e s hx' =>
    cases h
    exact hx t _ _ hx'

theorem FailsOnFiles.change (f : FileTree → Except FileFault FileTree) :
    FailsOnFiles (OnDisk.change f) := by
  intro t fault u h
  rw [OnDisk.change] at h
  split at h
  · cases h
  · next e _ =>
    cases h
    exact ⟨e, rfl⟩

end OnDisk

namespace Project

variable {output : Path} {t u : FileTree} {here : Place}

/-! ## Names of files -/

/-- The file of a module. -/
def moduleFile (name : String) : String := name ++ ".ts"

theorem moduleFile_inj {a b : String} (h : moduleFile a = moduleFile b) : a = b := by
  simpa [moduleFile] using h

theorem moduleFile_helper : moduleFile "EnumRuntime" = Script.helperFile := rfl

/-- A file whose name has no separator lies in the folder itself. -/
theorem join_moduleFile {name : String} (h : '/' ∉ name.toList) :
    output.join (moduleFile name) = output.child (moduleFile name) := by
  have hchars : (moduleFile name).toList = name.toList ++ ['.', 't', 's'] := by
    rw [moduleFile, String.toList_append]
    rfl
  have hsep : '/' ∉ (moduleFile name).toList := by
    rw [hchars]
    simp [h]
  have hlength : 3 ≤ (moduleFile name).toList.length := by
    rw [hchars]
    simp
  have hrooted : Path.isRooted (moduleFile name) = false := by
    rw [Path.isRooted]
    cases hcs : (moduleFile name).toList with
    | nil => rfl
    | cons c cs =>
      have hc : c ≠ '/' := fun heq => hsep (by simp [hcs, heq])
      simpa using hc
  have hne : ∀ s : String, s.toList.length < 3 → moduleFile name ≠ s := by
    intro s hs heq
    rw [heq] at hlength
    omega
  have hnames : Path.names (moduleFile name) = [moduleFile name] := by
    rw [Path.names, Text.split, Text.splitChars_of_not_mem hsep]
    simp [hne "" (by decide), hne "." (by decide)]
  rw [Path.join, hrooted, hnames]
  rfl

theorem moduleFile_ne_back (name : String) : moduleFile name ≠ ".." := by
  intro h
  have hlength := congrArg (fun s => s.toList.length) h
  simp [moduleFile] at hlength

/-! ## What is written -/

/-- The places of some modules in a folder, with their bytes. -/
def moduleWrites (here : Place) (sources : List (String × String)) : List (Place × List UInt8) :=
  sources.map fun s => (here ++ [moduleFile s.1], bytesOfText s.2)

/-- The place of the helper in a folder, with its bytes, where it is needed. -/
def helperWrites (here : Place) : Script.Strategy → List (Place × List UInt8)
  | .inline => []
  | .shared => [(here ++ [Script.helperFile], bytesOfText Script.helperText)]

/-- The file of the helper in a folder, where it is needed. -/
def helperPath? (output : Path) : Script.Strategy → Option Path
  | .inline => none
  | .shared => some (output.child Script.helperFile)

/-- Modules of different names are written to different places. -/
theorem moduleWrites_nodup {sources : List (String × String)} (h : (Assoc.keys sources).Nodup) :
    ((moduleWrites here sources).map Prod.fst).Nodup := by
  rw [moduleWrites, List.map_map]
  refine List.pairwise_map.mpr ((List.pairwise_map.mp h).imp fun hne heq => hne ?_)
  exact moduleFile_inj (by simpa using heq)

/-- The helper takes the place of a module of its name. -/
theorem mem_helperWrites {name : String} {strategy : Script.Strategy} :
    here ++ [moduleFile name] ∈ (helperWrites here strategy).map Prod.fst ↔
      strategy = .shared ∧ name = "EnumRuntime" := by
  cases strategy with
  | inline => simp [helperWrites]
  | shared =>
    rw [helperWrites, ← moduleFile_helper]
    simp only [List.map_cons, List.map_nil, List.mem_singleton, List.append_cancel_left_eq,
      List.cons.injEq, and_true, true_and]
    exact ⟨moduleFile_inj, congrArg moduleFile⟩

/-! ## Writing into a folder -/

/-- One file is written into a folder that is there. -/
theorem writeText_child {name text : String} (hlocate : t.locate output = .ok here)
    (hfolder : t.at? here = some .folder) (hname : name ≠ "..")
    (h : t.writeText (output.child name) text = .ok u) :
    u = t.putFiles [(here ++ [name], bytesOfText text)] ∧ t.KeepsFolders u := by
  obtain ⟨place, hplace, hnofolder, rfl⟩ := FileTree.write_ok h
  rw [FileTree.locate_child hlocate hfolder hname] at hplace
  obtain rfl := Except.ok.inj hplace
  exact ⟨rfl, FileTree.keepsFolders_put hnofolder _⟩

/-- The modules are written one after the other, each under its own name. -/
theorem writeModules_ok {sources : List (String × String)} {files : List (String × Path)}
    (hnames : ∀ s ∈ sources, '/' ∉ s.1.toList) (hlocate : t.locate output = .ok here)
    (hfolder : t.at? here = some .folder) (h : writeModules output sources t = .ok files u) :
    files = sources.map (fun s => (s.1, output.child (moduleFile s.1))) ∧
      u = t.putFiles (moduleWrites here sources) ∧ t.KeepsFolders u := by
  induction sources generalizing t files with
  | nil =>
    cases h
    exact ⟨rfl, rfl, .refl _⟩
  | cons s rest ih =>
    obtain ⟨name, text⟩ := s
    rw [writeModules] at h
    obtain ⟨_, s, hwrite, h⟩ := OnDisk.bind_ok h
    obtain ⟨more, s', hrest, hdone⟩ := OnDisk.bind_ok h
    cases hdone
    have hjoin : output.join (name ++ ".ts") = output.child (moduleFile name) :=
      join_moduleFile (hnames (name, text) (by simp))
    rw [hjoin] at hwrite ⊢
    obtain ⟨rfl, hkeeps⟩ := writeText_child hlocate hfolder (moduleFile_ne_back name)
      (OnDisk.change_ok hwrite)
    obtain ⟨rfl, rfl, hkeeps'⟩ := ih (fun s hs => hnames s (by simp [hs]))
      (FileTree.locate_of_keepsFolders hkeeps hlocate) (hkeeps here hfolder) hrest
    exact ⟨rfl, rfl, hkeeps.trans hkeeps'⟩

/-- The helper is written into the folder, too. -/
theorem writeHelper_ok {file : Path} (hlocate : t.locate output = .ok here)
    (hfolder : t.at? here = some .folder) (h : writeHelper output t = .ok file u) :
    file = output.child Script.helperFile ∧ u = t.putFiles (helperWrites here .shared) ∧
      t.KeepsFolders u := by
  rw [writeHelper] at h
  obtain ⟨_, s, hmake, h⟩ := OnDisk.bind_ok h
  obtain ⟨_, s', hwrite, hdone⟩ := OnDisk.bind_ok h
  cases hdone
  have hsame := OnDisk.change_ok hmake
  rw [FileTree.makeFolders, if_pos (FileTree.isFolder_of_locate hlocate hfolder)] at hsame
  obtain rfl := Except.ok.inj hsame
  obtain ⟨rfl, hkeeps⟩ := writeText_child hlocate hfolder (by decide) (OnDisk.change_ok hwrite)
  exact ⟨rfl, rfl, hkeeps⟩

/-! ## Folders that are ready -/

/-- A folder that can be written to: it is there, and no other folder is in it. -/
structure Ready (t : FileTree) (output : Path) (here : Place) : Prop where
  /-- the path leads there -/
  located : t.locate output = .ok here
  /-- the folder is there -/
  folder : t.at? here = some .folder
  /-- nothing in it is a folder -/
  free : ∀ name, t.at? (here ++ [name]) ≠ some .folder

/-- Writing a file leaves the folder ready for the next one. -/
theorem Ready.writeText (h : Ready t output here) {name : String} (hname : name ≠ "..")
    (text : String) : ∃ u, t.writeText (output.child name) text = .ok u ∧ Ready u output here := by
  have hlocate := FileTree.locate_child h.located h.folder hname
  have hkeeps := FileTree.keepsFolders_put (h.free name) (.file (bytesOfText text))
  refine ⟨_, FileTree.write_of_locate hlocate (h.free name),
    FileTree.locate_of_keepsFolders hkeeps h.located, hkeeps here h.folder, ?_⟩
  intro other hother
  rw [FileTree.at?_put (by simp)] at hother
  split at hother
  · cases hother
  · exact h.free other hother

/-- Modules are written into a folder that is ready. -/
theorem Ready.writeModules (h : Ready t output here) {sources : List (String × String)}
    (hnames : ∀ s ∈ sources, '/' ∉ s.1.toList) :
    ∃ files u, Project.writeModules output sources t = .ok files u ∧ Ready u output here := by
  induction sources generalizing t with
  | nil => exact ⟨[], t, rfl, h⟩
  | cons s rest ih =>
    obtain ⟨name, text⟩ := s
    have hjoin : output.join (name ++ ".ts") = output.child (moduleFile name) :=
      join_moduleFile (hnames (name, text) (by simp))
    obtain ⟨s, hwrite, hready⟩ := h.writeText (moduleFile_ne_back name) text
    obtain ⟨files, u, hrest, hready'⟩ := ih hready fun s hs => hnames s (by simp [hs])
    refine ⟨(name, output.child (moduleFile name)) :: files, u, ?_, hready'⟩
    rw [Project.writeModules, hjoin]
    simp only [bind, EStateM.bind, OnDisk.change, hwrite, hrest]
    rfl

/-- And so is the helper. -/
theorem Ready.writeHelper (h : Ready t output here) :
    ∃ file u, Project.writeHelper output t = .ok file u ∧ Ready u output here := by
  obtain ⟨u, hwrite, hready⟩ :=
    h.writeText (show Script.helperFile ≠ ".." by decide) Script.helperText
  have hmake : t.makeFolders output = .ok t := by
    rw [FileTree.makeFolders, if_pos (FileTree.isFolder_of_locate h.located h.folder)]
  refine ⟨output.child Script.helperFile, u, ?_, hready⟩
  unfold Project.writeHelper
  simp only [bind, EStateM.bind, OnDisk.change, hmake, hwrite]
  rfl

/-! ## Failures -/

theorem writeModules_failsOnFiles (output : Path) (sources : List (String × String)) :
    OnDisk.FailsOnFiles (writeModules output sources) := by
  induction sources with
  | nil => exact .pure []
  | cons s rest ih =>
    obtain ⟨name, text⟩ := s
    rw [writeModules]
    exact .bind (.change _) fun _ => .bind ih fun _ => .pure _

theorem writeHelper_failsOnFiles (output : Path) : OnDisk.FailsOnFiles (writeHelper output) :=
  .bind (.change _) fun _ => .bind (.change _) fun _ => .pure _

end Project

end EnumExport
