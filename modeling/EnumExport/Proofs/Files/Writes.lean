import EnumExport.Files.Text

/-!
# What writing changes

A change of a tree is told place by place.

* A path leads to the same place as long as the folders on the way stay, whatever else changes:
  `locate_of_keepsFolders`.
* Writing a file changes one place, where no folder lies: `write_ok`.
* Making folders changes no file, and leaves a folder where the path leads: `makeFolders_ok`.
* After several files have been written, a place holds the one that was written there last, or what it
  held before: `at?_putFiles`.
-/

namespace EnumExport

/-! ## Texts as bytes -/

theorem toList_loop (bs : ByteArray) (i : Nat) (r : List UInt8) :
    ByteArray.toList.loop bs i r = r.reverse ++ bs.data.toList.drop i := by
  fun_induction ByteArray.toList.loop bs i r with
  | case1 i r h ih =>
    have hlt : i < bs.data.toList.length := by simpa using h
    have hget : bs.get! i = bs.data.toList[i] := by
      simp [ByteArray.get!, getElem!_pos bs.data i (by simpa using hlt)]
    rw [ih, List.drop_eq_getElem_cons hlt, hget]
    simp
  | case2 i r h =>
    have hge : bs.data.toList.length ≤ i := by simpa using h
    rw [List.drop_eq_nil_of_le hge, List.append_nil]

/-- A text is told by its bytes. -/
theorem bytesOfText_inj {s s' : String} (h : bytesOfText s = bytesOfText s') : s = s' := by
  rw [bytesOfText, bytesOfText, ByteArray.toList, ByteArray.toList, toList_loop, toList_loop] at h
  have hdata : s.toUTF8.data = s'.toUTF8.data := Array.toList_inj.mp (by simpa using h)
  exact String.toByteArray_inj.mp (ByteArray.ext hdata)

namespace FileTree

/-- All folders stay. -/
def KeepsFolders (t u : FileTree) : Prop :=
  ∀ place, t.at? place = some .folder → u.at? place = some .folder

/-- The same files lie at the same places; there may be other folders. -/
def SameFiles (t u : FileTree) : Prop :=
  ∀ place content, u.at? place = some (.file content) ↔ t.at? place = some (.file content)

variable {t u v : FileTree} {p : Path} {place here : Place}

theorem KeepsFolders.refl (t : FileTree) : KeepsFolders t t := fun _ h => h

theorem KeepsFolders.trans (h : KeepsFolders t u) (h' : KeepsFolders u v) : KeepsFolders t v :=
  fun place hplace => h' place (h place hplace)

theorem SameFiles.refl (t : FileTree) : SameFiles t t := fun _ _ => Iff.rfl

theorem SameFiles.trans (h : SameFiles t u) (h' : SameFiles u v) : SameFiles t v :=
  fun place content => (h' place content).trans (h place content)

/-! ## Where paths lead -/

theorem at?_root (t : FileTree) : t.at? [] = some .folder := rfl

theorem walk_append (t : FileTree) (here : Place) (front rest : List String) :
    t.walk here (front ++ rest) = t.walk here front >>= fun place => t.walk place rest := by
  induction front generalizing here with
  | nil => rfl
  | cons name front ih =>
    rw [List.cons_append, walk, walk]
    split
    · rfl
    · rfl
    · exact ih _

theorem walk_of_keepsFolders (hkeeps : KeepsFolders t u) {names : List String}
    (h : t.walk here names = .ok place) : u.walk here names = .ok place := by
  induction names generalizing here with
  | nil => exact h
  | cons name rest ih =>
    rw [walk] at h
    split at h
    · cases h
    · cases h
    · next hfolder =>
      rw [walk, hkeeps here hfolder]
      exact ih h

theorem locate_of_keepsFolders (hkeeps : KeepsFolders t u) (h : t.locate p = .ok place) :
    u.locate p = .ok place := walk_of_keepsFolders hkeeps h

/-- A path that leads to a folder leads on to the items in it. -/
theorem locate_child (hlocate : t.locate p = .ok here) (hfolder : t.at? here = some .folder)
    {name : String} (hname : name ≠ "..") : t.locate (p.child name) = .ok (here ++ [name]) := by
  unfold locate at hlocate ⊢
  rw [Path.child, walk_append, hlocate]
  simp only [bind, Except.bind, walk, hfolder, hname, if_false]

theorem exists_locate_of_isFolder (h : t.isFolder p = true) :
    ∃ here, t.locate p = .ok here ∧ t.at? here = some .folder := by
  rw [isFolder, find?] at h
  split at h
  · next here hhere => exact ⟨here, hhere, by simpa using h⟩
  · cases h

theorem isFolder_of_locate (hlocate : t.locate p = .ok here) (hfolder : t.at? here = some .folder) :
    t.isFolder p = true := by
  rw [isFolder, find?, hlocate]
  simpa using hfolder

theorem read_of_locate {content : List UInt8} (hlocate : t.locate p = .ok place)
    (hfile : t.at? place = some (.file content)) : t.read p = .ok content := by
  unfold read
  rw [hlocate]
  simp only [bind, Except.bind, hfile]
  rfl

/-! ## One change -/

theorem at?_put (hplace : place ≠ []) (n : FileNode) (t : FileTree) (q : Place) :
    (t.put place n).at? q = if q = place then some n else t.at? q := by
  rw [at?, at?, put]
  split
  · next hq => rw [if_neg fun h => hplace (by rw [← h]; exact List.isEmpty_iff.mp hq)]
  · split
    · next hq => rw [hq, Assoc.get?_put_self]
    · next hq => rw [Assoc.get?_put_ne fun h => hq h.symm]

/-- No folder is lost by putting something where none lies. -/
theorem keepsFolders_put (hplace : t.at? place ≠ some .folder) (n : FileNode) :
    KeepsFolders t (t.put place n) := by
  intro q hq
  have hroot : place ≠ [] := fun h => hplace (h ▸ at?_root t)
  have hne : q ≠ place := fun heq => hplace (heq ▸ hq)
  rw [at?_put hroot, if_neg hne]
  exact hq

/-- Writing puts a file where the path leads, if no folder lies there. -/
theorem write_ok {content : List UInt8} (h : t.write p content = .ok u) :
    ∃ place, t.locate p = .ok place ∧ t.at? place ≠ some .folder ∧
      u = t.put place (.file content) := by
  unfold write at h
  cases hlocate : t.locate p with
  | error e =>
    rw [hlocate] at h
    cases h
  | ok place =>
    rw [hlocate] at h
    simp only [bind, Except.bind, isFolderAt, beq_iff_eq] at h
    split at h
    · cases h
    · next hfolder => exact ⟨place, rfl, hfolder, (Except.ok.inj h).symm⟩

/-- Where the path leads to no folder, writing puts the file there. -/
theorem write_of_locate {content : List UInt8} (hlocate : t.locate p = .ok place)
    (hnofolder : t.at? place ≠ some .folder) :
    t.write p content = .ok (t.put place (.file content)) := by
  have hfolder : t.isFolderAt place = false := by simpa [isFolderAt] using hnofolder
  unfold write
  rw [hlocate]
  simp only [bind, Except.bind, hfolder]
  rfl

/-- Making a folder puts one where the path leads, if nothing lies there. -/
theorem makeFolder_ok (h : t.makeFolder p = .ok u) :
    ∃ place, t.locate p = .ok place ∧ t.at? place = none ∧ u = t.put place .folder := by
  unfold makeFolder at h
  cases hlocate : t.locate p with
  | error e =>
    rw [hlocate] at h
    cases h
  | ok place =>
    rw [hlocate] at h
    simp only [bind, Except.bind] at h
    split at h
    · cases h
    · next hnone => exact ⟨place, rfl, by simpa using hnone, (Except.ok.inj h).symm⟩

/-! ## Making folders -/

/-- What making folders comes to: all folders and files stay, and a folder lies where the path
leads. -/
structure MadeFolders (t u : FileTree) (p : Path) : Prop where
  /-- all folders stay -/
  folders : KeepsFolders t u
  /-- no file changes -/
  files : SameFiles t u
  /-- the folder is there -/
  made : u.isFolder p = true

theorem madeFolders_of_makeFolder (h : t.makeFolder p = .ok u) : MadeFolders t u p := by
  obtain ⟨place, hlocate, hnone, rfl⟩ := makeFolder_ok h
  have hnofolder : t.at? place ≠ some .folder := by simp [hnone]
  have hroot : place ≠ [] := fun h => hnofolder (h ▸ at?_root t)
  have hkeeps := keepsFolders_put hnofolder .folder
  refine ⟨hkeeps, fun q content => ?_, ?_⟩
  · rw [at?_put hroot]
    split
    · next hq => simp [hq, hnone]
    · exact Iff.rfl
  · refine isFolder_of_locate (locate_of_keepsFolders hkeeps hlocate) ?_
    rw [at?_put hroot, if_pos rfl]

theorem madeFolders_of_makeAlong {front names : List String} (hnames : names ≠ [])
    (h : t.makeAlong front names = .ok u) : MadeFolders t u { parts := front ++ names } := by
  induction names generalizing t front with
  | nil => exact absurd rfl hnames
  | cons name rest ih =>
    rw [makeAlong] at h
    -- the first name is made or was there, and then the others are
    have hstep : ∃ s, MadeFolders t s { parts := front ++ [name] } ∧
        s.makeAlong (front ++ [name]) rest = .ok u := by
      split at h
      · next s hs => exact ⟨s, madeFolders_of_makeFolder hs, h⟩
      · split at h
        · next hfolder => exact ⟨t, ⟨.refl t, .refl t, hfolder⟩, h⟩
        · cases h
      · cases h
    obtain ⟨s, hmade, hrest⟩ := hstep
    by_cases hnil : rest = []
    · subst hnil
      rw [makeAlong] at hrest
      cases hrest
      exact hmade
    · have hlater := ih hnil hrest
      rw [List.append_assoc] at hlater
      exact ⟨hmade.folders.trans hlater.folders, hmade.files.trans hlater.files, hlater.made⟩

/-- Making folders changes no file, and leaves a folder where the path leads. -/
theorem makeFolders_ok (h : t.makeFolders p = .ok u) : MadeFolders t u p := by
  rw [makeFolders] at h
  split at h
  · next hfolder =>
    cases h
    exact ⟨.refl t, .refl t, hfolder⟩
  · next hfolder =>
    have hnames : p.parts ≠ [] := by
      intro hnil
      have hroot : t.locate p = .ok [] := by rw [locate, hnil, walk]
      exact hfolder (isFolder_of_locate hroot (at?_root t))
    obtain ⟨hfolders, hfiles, hmade⟩ := madeFolders_of_makeAlong hnames h
    exact ⟨hfolders, hfiles, hmade⟩

/-! ## Several files -/

/-- The tree with files put at places, one after the other. -/
def putFiles (t : FileTree) (files : List (Place × List UInt8)) : FileTree :=
  { t with nodes := Assoc.update t.nodes (files.map fun f => (f.1, .file f.2)) }

theorem putFiles_append (t : FileTree) (files more : List (Place × List UInt8)) :
    t.putFiles (files ++ more) = (t.putFiles files).putFiles more := by
  simp only [putFiles, Assoc.update, List.map_append, List.foldl_append]

/-- A place holds the file that was put there last, or what it held before. -/
theorem at?_putFiles (hplace : place ≠ []) (t : FileTree) (files : List (Place × List UInt8)) :
    (t.putFiles files).at? place =
      ((files.filter fun f => f.1 == place).getLast?.map fun f => .file f.2).or (t.at? place) := by
  have hempty : ¬ place.isEmpty = true := by simpa using hplace
  rw [at?, at?, if_neg hempty, if_neg hempty, putFiles, Assoc.update, Assoc.get?_foldl_put,
    List.filter_map, List.getLast?_map, Option.map_map]
  rfl

theorem at?_putFiles_of_not_mem {files : List (Place × List UInt8)}
    (h : place ∉ files.map Prod.fst) : (t.putFiles files).at? place = t.at? place := by
  by_cases hplace : place = []
  · rw [hplace]
    rfl
  · have hnone : (files.filter fun f => f.1 == place) = [] := by
      rw [List.filter_eq_nil_iff]
      intro f hf heq
      exact h (List.mem_map.mpr ⟨f, hf, by simpa using heq⟩)
    rw [at?_putFiles hplace, hnone]
    rfl

/-- Files at places of their own are all there. -/
theorem at?_putFiles_of_mem {files : List (Place × List UInt8)} {content : List UInt8}
    (hplace : place ≠ []) (hdistinct : (files.map Prod.fst).Nodup) (h : (place, content) ∈ files) :
    (t.putFiles files).at? place = some (.file content) := by
  have hone : (files.filter fun f => f.1 == place) = [(place, content)] := by
    induction files with
    | nil => cases h
    | cons f rest ih =>
      obtain ⟨hf, hrest⟩ := List.nodup_cons.mp hdistinct
      rcases List.mem_cons.mp h with rfl | h
      · have hnone : (rest.filter fun f => f.1 == place) = [] := by
          rw [List.filter_eq_nil_iff]
          intro g hg heq
          exact hf (List.mem_map.mpr ⟨g, hg, by simpa using heq⟩)
        rw [List.filter_cons_of_pos (by simp), hnone]
      · have hne : ¬ f.1 = place := fun heq => hf (heq ▸ List.mem_map.mpr ⟨_, h, rfl⟩)
        rw [List.filter_cons_of_neg (by simpa using hne)]
        exact ih hrest h
  rw [at?_putFiles hplace, hone]
  rfl

end FileTree

end EnumExport
