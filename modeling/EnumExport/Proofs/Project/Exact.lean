import EnumExport.Proofs.Files.Growth
import EnumExport.Proofs.Project.Export

/-!
# When an export ends well

An export ends well if and only if nothing stands in its way, and then the tree that it leaves is
known exactly: the missing folders are added, and then the files are put into the innermost one.

* For a batch of modules, with their folders and the helper: `fits_of_writeBatch`,
  `writeBatch_of_fits`.
* For the whole export: `exportTo_eq_ok_iff`.
* Whatever is exported, and however it is named, all folders stay: `exportTo_keeps`.
-/

namespace EnumExport

namespace FileTree

variable {t : FileTree} {files : List (Place × List UInt8)}

theorem putFiles_nil (t : FileTree) : t.putFiles [] = t := rfl

theorem putFiles_cons (t : FileTree) (f : Place × List UInt8) (files : List (Place × List UInt8)) :
    t.putFiles (f :: files) = (t.put f.1 (.file f.2)).putFiles files := rfl

/-- Files that replace no folder leave all folders, and make none. -/
theorem putFiles_folder (hfree : ∀ f ∈ files, t.at? f.1 ≠ some .folder) {q : Place} :
    (t.putFiles files).at? q = some .folder ↔ t.at? q = some .folder := by
  induction files generalizing t with
  | nil => rfl
  | cons f files ih =>
    have hplace := hfree f (by simp)
    have hroot : f.1 ≠ [] := fun h => hplace (h ▸ at?_root t)
    have hput : ∀ q, (t.put f.1 (.file f.2)).at? q = some .folder ↔ t.at? q = some .folder := by
      intro q
      rw [at?_put hroot]
      split
      · next heq => simp [heq, hplace]
      · rfl
    rw [putFiles_cons, ih fun g hg => (hput g.1).not.mpr (hfree g (by simp [hg])), hput]

end FileTree

namespace Project

variable {output : Path} {t u s : FileTree} {here : Place}

/-! ## Writing into a folder -/

section Folder

variable (hlocate : t.locate output = .ok here) (hfolder : t.at? here = some .folder)
include hlocate hfolder

theorem writeText_child_iff {name text : String} (hname : name ≠ "..") :
    t.writeText (output.child name) text = .ok u ↔
      t.at? (here ++ [name]) ≠ some .folder ∧
        u = t.putFiles [(here ++ [name], bytesOfText text)] := by
  have hplace := FileTree.locate_child hlocate hfolder hname
  constructor
  · intro h
    obtain ⟨place, hplace', hnofolder, rfl⟩ := FileTree.write_ok h
    rw [hplace] at hplace'
    obtain rfl := Except.ok.inj hplace'
    exact ⟨hnofolder, rfl⟩
  · rintro ⟨hnofolder, rfl⟩
    exact FileTree.write_of_locate hplace hnofolder

/-- Where modules have been written, no folder was to be replaced. -/
theorem free_of_writeModules {sources : List (String × String)} {files : List (String × Path)}
    (hnames : ∀ s ∈ sources, '/' ∉ s.1.toList)
    (h : writeModules output sources t = .ok files u) :
    ∀ w ∈ moduleWrites here sources, t.at? w.1 ≠ some .folder := by
  induction sources generalizing t files with
  | nil =>
    intro w hw
    cases hw
  | cons s rest ih =>
    obtain ⟨name, text⟩ := s
    rw [writeModules] at h
    obtain ⟨_, s, hwrite, h⟩ := OnDisk.bind_ok h
    obtain ⟨more, s', hrest, hdone⟩ := OnDisk.bind_ok h
    cases hdone
    have hjoin : output.join (name ++ ".ts") = output.child (moduleFile name) :=
      join_moduleFile (hnames (name, text) (by simp))
    rw [hjoin] at hwrite
    obtain ⟨hfree, rfl⟩ := (writeText_child_iff hlocate hfolder (moduleFile_ne_back name)).mp
      (OnDisk.change_ok hwrite)
    have hkeeps := FileTree.keepsFolders_put hfree (.file (bytesOfText text))
    have hlater := ih (FileTree.locate_of_keepsFolders hkeeps hlocate) (hkeeps here hfolder)
      (fun s hs => hnames s (by simp [hs])) hrest
    intro w hw
    rcases List.mem_cons.mp hw with rfl | hw
    · exact hfree
    · -- a folder in the way of a later module would still be there when its turn comes
      exact fun heq => hlater w hw (hkeeps _ heq)

/-- Modules can be written where none of them is to replace a folder. -/
theorem writeModules_of_free {sources : List (String × String)}
    (hnames : ∀ s ∈ sources, '/' ∉ s.1.toList)
    (hfree : ∀ w ∈ moduleWrites here sources, t.at? w.1 ≠ some .folder) :
    writeModules output sources t = .ok
      (sources.map fun s => (s.1, output.child (moduleFile s.1)))
      (t.putFiles (moduleWrites here sources)) := by
  induction sources generalizing t with
  | nil => rfl
  | cons s rest ih =>
    obtain ⟨name, text⟩ := s
    have hplace := hfree (here ++ [moduleFile name], bytesOfText text) (by simp [moduleWrites])
    have hwrite : t.writeText (output.child (moduleFile name)) text =
        .ok (t.putFiles [(here ++ [moduleFile name], bytesOfText text)]) :=
      (writeText_child_iff hlocate hfolder (moduleFile_ne_back name)).mpr ⟨hplace, rfl⟩
    have hkeeps := FileTree.keepsFolders_put hplace (.file (bytesOfText text))
    have hrest := ih (FileTree.locate_of_keepsFolders hkeeps hlocate) (hkeeps here hfolder)
      (fun s hs => hnames s (by simp [hs])) fun w hw heq => by
        have hone : ∀ f ∈ [(here ++ [moduleFile name], bytesOfText text)],
            t.at? f.1 ≠ some .folder := by simpa using hplace
        exact hfree w (List.mem_cons_of_mem _ hw) ((FileTree.putFiles_folder hone).mp heq)
    have hjoin : output.join (name ++ ".ts") = output.child (moduleFile name) :=
      join_moduleFile (hnames (name, text) (by simp))
    rw [writeModules, hjoin]
    simp only [bind, EStateM.bind, OnDisk.change, hwrite]
    rw [FileTree.putFiles_cons, FileTree.putFiles_nil, hrest]
    rfl

theorem free_of_writeHelper {file : Path} (h : writeHelper output t = .ok file u) :
    t.at? (here ++ [Script.helperFile]) ≠ some .folder := by
  rw [writeHelper] at h
  obtain ⟨_, s, hmake, h⟩ := OnDisk.bind_ok h
  obtain ⟨_, s', hwrite, -⟩ := OnDisk.bind_ok h
  have hsame := OnDisk.change_ok hmake
  rw [FileTree.makeFolders, if_pos (FileTree.isFolder_of_locate hlocate hfolder)] at hsame
  obtain rfl := Except.ok.inj hsame
  exact ((writeText_child_iff hlocate hfolder (by decide)).mp (OnDisk.change_ok hwrite)).1

theorem writeHelper_of_free (hfree : t.at? (here ++ [Script.helperFile]) ≠ some .folder) :
    writeHelper output t =
      .ok (output.child Script.helperFile) (t.putFiles (helperWrites here .shared)) := by
  have hmake : t.makeFolders output = .ok t := by
    rw [FileTree.makeFolders, if_pos (FileTree.isFolder_of_locate hlocate hfolder)]
  have hwrite : t.writeText (output.child Script.helperFile) Script.helperText =
      .ok (t.putFiles (helperWrites here .shared)) :=
    (writeText_child_iff hlocate hfolder (by decide)).mpr ⟨hfree, rfl⟩
  unfold writeHelper
  simp only [bind, EStateM.bind, OnDisk.change, hmake, hwrite]
  rfl

end Folder

/-! ## Writing a batch -/

/-- The files of a batch in a folder. -/
def batchWrites (here : Place) (strategy : Script.Strategy) (batch : Script.Batch) :
    List (Place × List UInt8) :=
  moduleWrites here batch.sources ++ helperWrites here strategy

/-- Nothing stands in the way of some files in a folder: no file lies where a folder is needed, and
no folder where a file is to be. -/
structure Fits (t : FileTree) (output : Path) (files : List (Place × List UInt8)) : Prop where
  /-- the folders can be made -/
  way : t.NoFiles output.places
  /-- the files can be written -/
  free : ∀ f ∈ files, (t.addFolders output.places).at? f.1 ≠ some .folder

/-- The tree with the folders of a path made, and some files put in. -/
def withFiles (t : FileTree) (output : Path) (files : List (Place × List UInt8)) : FileTree :=
  (t.addFolders output.places).putFiles files

/-- Folders that have been made are where the path leads. -/
theorem locate_made (h : t.makeFolders output = .ok s) :
    s.locate output = .ok output.place ∧ s.at? output.place = some .folder := by
  obtain ⟨here, hlocate, hfolder⟩ :=
    FileTree.exists_locate_of_isFolder (FileTree.makeFolders_ok h).made
  obtain rfl := FileTree.place_of_locate hlocate
  exact ⟨hlocate, hfolder⟩

section Batch

variable {p : Project} {request : ExportRequest} {batch : Script.Batch}
  (hnames : ∀ s ∈ batch.sources, '/' ∉ s.1.toList)
include hnames

theorem fits_of_writeBatch {result : ExportResult}
    (h : p.writeBatch output request t batch s = .ok result u) :
    Fits s output (batchWrites output.place (p.strategyFor request) batch) := by
  rw [writeBatch] at h
  obtain ⟨_, made, hmake, h⟩ := OnDisk.bind_ok h
  obtain ⟨files, v, hmodules, h⟩ := OnDisk.bind_ok h
  have hmade := OnDisk.change_ok hmake
  obtain ⟨hlocate, hfolder⟩ := locate_made hmade
  obtain ⟨hway, rfl⟩ := FileTree.makeFolders_eq_ok_iff.mp hmade
  have hfree := free_of_writeModules hlocate hfolder hnames hmodules
  obtain ⟨-, rfl, hkeeps⟩ := writeModules_ok hnames hlocate hfolder hmodules
  refine ⟨hway, fun f hf => ?_⟩
  rcases List.mem_append.mp hf with hf | hf
  · exact hfree f hf
  · cases hstrategy : p.strategyFor request with
    | inline =>
      rw [hstrategy] at hf
      cases hf
    | shared =>
      rw [hstrategy] at hf h
      obtain ⟨file, v', hhelper, -⟩ := OnDisk.bind_ok h
      rcases List.mem_singleton.mp hf with rfl
      exact fun heq => free_of_writeHelper (FileTree.locate_of_keepsFolders hkeeps hlocate)
        (hkeeps _ hfolder) hhelper (hkeeps _ heq)

/-- What is told of a batch that has been written. -/
def writtenFor (p : Project) (output : Path) (request : ExportRequest) (t : FileTree)
    (batch : Script.Batch) : ExportResult :=
  { p.resultFor output request t batch with
    files := batch.sources.map fun s => (s.1, output.child (moduleFile s.1))
    helper := helperPath? output (p.strategyFor request) }

theorem writeBatch_of_fits
    (h : Fits s output (batchWrites output.place (p.strategyFor request) batch)) :
    p.writeBatch output request t batch s = .ok (p.writtenFor output request t batch)
      (withFiles s output (batchWrites output.place (p.strategyFor request) batch)) := by
  have hmade : s.makeFolders output = .ok (s.addFolders output.places) :=
    FileTree.makeFolders_eq_ok_iff.mpr ⟨h.way, rfl⟩
  obtain ⟨hlocate, hfolder⟩ := locate_made hmade
  have hfree : ∀ w ∈ moduleWrites output.place batch.sources,
      (s.addFolders output.places).at? w.1 ≠ some .folder :=
    fun w hw => h.free w (List.mem_append_left _ hw)
  have hmodules := writeModules_of_free hlocate hfolder hnames hfree
  have hkeeps := (writeModules_ok hnames hlocate hfolder hmodules).2.2
  unfold writeBatch writtenFor withFiles batchWrites
  cases hstrategy : p.strategyFor request with
  | inline =>
    simp only [bind, EStateM.bind, OnDisk.change, hmade, hmodules, helperWrites, List.append_nil]
    rfl
  | shared =>
    have hlast : (s.addFolders output.places).at? (output.place ++ [Script.helperFile]) ≠
        some .folder := by
      refine h.free (output.place ++ [Script.helperFile], bytesOfText Script.helperText) ?_
      rw [hstrategy]
      exact List.mem_append_right _ (List.mem_singleton.mpr rfl)
    have hhelper := writeHelper_of_free (FileTree.locate_of_keepsFolders hkeeps hlocate)
      (hkeeps _ hfolder) ((FileTree.putFiles_folder hfree).not.mpr hlast)
    simp only [bind, EStateM.bind, OnDisk.change, hmade, hmodules, hhelper,
      FileTree.putFiles_append]
    rfl

end Batch

/-! ## The whole export -/

section Export

variable {p : Project} {request : ExportRequest}

/-- The batch of an export, empty where it cannot be generated. -/
def batchFor (p : Project) (request : ExportRequest) (t : FileTree) : Script.Batch :=
  match Script.generateAll (p.optionsFor request) (p.builtFor request t).manifest with
  | .ok batch => batch
  | .error _ => ⟨[], []⟩

/-- Whether an export has a batch. -/
def HasBatch (p : Project) (request : ExportRequest) (t : FileTree) : Prop :=
  Script.generateAll (p.optionsFor request) (p.builtFor request t).manifest =
    .ok (p.batchFor request t)

/-- The files that an export writes; none where there is no source. -/
def writesFor (p : Project) (output : Path) (request : ExportRequest) (t : FileTree) :
    List (Place × List UInt8) :=
  if (p.batchFor request t).sources.isEmpty then []
  else batchWrites output.place (p.strategyFor request) (p.batchFor request t)

/-- The folders that an export needs; none where there is no source. -/
def foldersFor (p : Project) (output : Path) (request : ExportRequest) (t : FileTree) :
    List Place :=
  if (p.batchFor request t).sources.isEmpty then [] else output.places

/-- What an export tells. -/
def toldFor (p : Project) (output : Path) (request : ExportRequest) (t : FileTree) : ExportResult :=
  if (p.batchFor request t).sources.isEmpty then
    p.resultFor output request t (p.batchFor request t)
  else p.writtenFor output request t (p.batchFor request t)

/-- The tree that an export leaves, where the folders and files that it needs are known from another
tree. -/
def leftFor (p : Project) (output : Path) (request : ExportRequest) (t s : FileTree) : FileTree :=
  (s.addFolders (p.foldersFor output request t)).putFiles (p.writesFor output request t)

/-- **When an export ends well.** On any tree where it builds the same manifest, an export ends well
if and only if it has a batch and nothing stands in the way of its folders and files, and then it
leaves just these. -/
theorem exportTo_eq_ok_iff (hbuilt : p.builtFor request s = p.builtFor request t)
    (hnames : ∀ name ∈ Assoc.keys (p.builtFor request t).manifest, '/' ∉ name.toList)
    {result : ExportResult} : p.exportTo output request s = .ok result u ↔
      p.HasBatch request t ∧ s.NoFiles (p.foldersFor output request t) ∧
        (∀ f ∈ p.writesFor output request t,
          (s.addFolders (p.foldersFor output request t)).at? f.1 ≠ some .folder) ∧
        result = p.toldFor output request t ∧ u = p.leftFor output request t s := by
  have hresult : ∀ batch, p.resultFor output request s batch =
      p.resultFor output request t batch := by
    intro batch
    rw [resultFor, resultFor, hbuilt]
  have hwrite : ∀ batch, p.writeBatch output request s batch =
      p.writeBatch output request t batch := by
    intro batch
    unfold writeBatch
    rw [hresult]
  rw [exportTo_eq, hbuilt, HasBatch]
  cases hbatch : Script.generateAll (p.optionsFor request) (p.builtFor request t).manifest with
  | error e => simp
  | ok batch =>
    have heq : p.batchFor request t = batch := by rw [batchFor, hbatch]
    have hslash := names_of_sources hbatch hnames
    rw [foldersFor, writesFor, toldFor, leftFor, foldersFor, writesFor, heq]
    dsimp only
    cases hempty : batch.sources.isEmpty with
    | true =>
      -- nothing is written
      have hnone : s.NoFiles [] := by
        intro q hq
        cases hq
      simp only [if_true, hresult, true_and, hnone, List.not_mem_nil, false_implies, implies_true]
      constructor
      · intro h
        cases h
        exact ⟨rfl, rfl⟩
      · rintro ⟨rfl, rfl⟩
        rfl
    | false =>
      simp only [Bool.false_eq_true, if_false, hwrite, true_and]
      constructor
      · intro h
        have hfits := fits_of_writeBatch hslash h
        rw [writeBatch_of_fits hslash hfits] at h
        cases h
        exact ⟨hfits.way, hfits.free, rfl, rfl⟩
      · rintro ⟨hway, hfree, rfl, rfl⟩
        exact writeBatch_of_fits hslash ⟨hway, hfree⟩

end Export

end Project

/-! ## Folders stay -/

namespace OnDisk

variable {α β : Type}

/-- Where the computation comes to its end, all folders are still there. -/
def Keeps (x : OnDisk α) : Prop := ∀ t a u, x t = .ok a u → t.KeepsFolders u

theorem Keeps.pure (a : α) : Keeps (Pure.pure a) := by
  intro t b u h
  cases h
  exact .refl t

theorem Keeps.bind {x : OnDisk α} {f : α → OnDisk β} (hx : Keeps x) (hf : ∀ a, Keeps (f a)) :
    Keeps (x >>= f) := by
  intro t b u h
  obtain ⟨a, s, ha, hb⟩ := bind_ok h
  exact (hx t a s ha).trans (hf a s b u hb)

theorem Keeps.makeFolders (p : Path) : Keeps (change fun t => t.makeFolders p) :=
  fun _ _ _ h => (FileTree.makeFolders_ok (change_ok h)).folders

theorem Keeps.writeText (p : Path) (text : String) :
    Keeps (change fun t => t.writeText p text) := by
  intro t a u h
  obtain ⟨place, -, hfree, rfl⟩ := FileTree.write_ok (change_ok h)
  exact FileTree.keepsFolders_put hfree _

end OnDisk

namespace Project

theorem writeModules_keeps (output : Path) (sources : List (String × String)) :
    OnDisk.Keeps (writeModules output sources) := by
  induction sources with
  | nil => exact .pure []
  | cons s rest ih =>
    obtain ⟨name, text⟩ := s
    rw [writeModules]
    exact .bind (.writeText _ _) fun _ => .bind ih fun _ => .pure _

theorem writeHelper_keeps (output : Path) : OnDisk.Keeps (writeHelper output) :=
  .bind (.makeFolders _) fun _ => .bind (.writeText _ _) fun _ => .pure _

/-- An export keeps all folders. -/
theorem exportTo_keeps (p : Project) (output : Path) (request : ExportRequest) :
    OnDisk.Keeps (p.exportTo output request) := by
  intro t result u h
  rw [exportTo_eq] at h
  split at h
  · cases h
  · next batch _ =>
    split at h
    · cases h
      exact .refl t
    · refine OnDisk.Keeps.bind (.makeFolders output) (fun _ => ?_) t result u h
      refine .bind (writeModules_keeps output batch.sources) fun _ => ?_
      cases p.strategyFor request with
      | inline => exact .bind (.pure none) fun _ => .pure _
      | shared => exact .bind (writeHelper_keeps output) fun _ => .pure _

/-- So do exports for several locales. -/
theorem exportLocales_keeps (p : Project) (base : Path) (types : Option Bool)
    (locales : List String) : OnDisk.Keeps (p.exportLocales base types locales) := by
  induction locales with
  | nil => exact .pure []
  | cons l rest ih =>
    rw [exportLocales]
    exact .bind (exportTo_keeps p _ _) fun _ => .bind ih fun _ => .pure _

end Project

end EnumExport
