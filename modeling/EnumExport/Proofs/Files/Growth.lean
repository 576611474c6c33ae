import EnumExport.Proofs.Files.Place

/-!
# Trees that grow

Folders and files come into a tree one by one, each into a folder that is there.

* What a disk can take keeps everything in a folder: `WellFormed.put`.
* A tree that has grown has all folders and files that it had, with other bytes at most:
  `Grown.at?_cases`.
* Making folders can be told exactly: it needs that no file lies on the way, and adds what is
  missing there, `makeFolders_eq_ok_iff`. That, and putting files into a folder, lets a tree grow:
  `grown_addFolders`, `grown_putFiles`.
-/

namespace EnumExport.FileTree

variable {t u s : FileTree} {p : Path} {place here : Place} {n : FileNode}

/-- A disk can take this: a folder where nothing lies, or a file where no folder lies, in a folder
that is there. -/
structure Admits (t : FileTree) (place : Place) (n : FileNode) : Prop where
  /-- it comes into a folder -/
  around : ∃ here name, place = here ++ [name] ∧ name ≠ ".." ∧ t.at? here = some .folder
  /-- no folder is replaced -/
  free : t.at? place ≠ some .folder
  /-- a folder replaces nothing -/
  new : n = .folder → t.at? place = none

theorem Admits.ne_root (h : t.Admits place n) : place ≠ [] :=
  fun heq => h.free (heq ▸ at?_root t)

theorem WellFormed.put (hwf : t.WellFormed) (h : t.Admits place n) :
    (t.put place n).WellFormed := by
  have hkeeps := keepsFolders_put h.free n
  obtain ⟨here, name, hplace, hname, hfolder⟩ := h.around
  refine ⟨fun front last hsome => ?_, fun q hq => ?_⟩
  · by_cases heq : front ++ [last] = place
    · rw [hplace] at heq
      rw [(List.append_inj' heq rfl).1]
      exact hkeeps here hfolder
    · rw [at?_put h.ne_root, if_neg heq] at hsome
      exact hkeeps front (hwf.around front last hsome)
  · have hmem : q ∈ Assoc.keys t.nodes ∨ q = place := by
      rw [FileTree.put, Assoc.keys_put] at hq
      split at hq
      · exact .inl hq
      · simpa using hq
    rcases hmem with hmem | rfl
    · exact hwf.forward q hmem
    · have hhere : ".." ∉ here := by
        by_cases hroot : here = []
        · simp [hroot]
        · exact hwf.forward here (mem_keys_of_at? hroot (by simp [hfolder]))
      simp [hplace, hhere, hname.symm]

/-- A tree after some changes of the kind that is allowed, each of which the disk can take. -/
inductive Grown (allowed : Place → FileNode → Prop) (t : FileTree) : FileTree → Prop
  /-- nothing has changed -/
  | same : Grown allowed t t
  /-- something more has been put in -/
  | put {s : FileTree} {place : Place} {n : FileNode} (grown : Grown allowed t s)
      (admits : s.Admits place n) (ok : allowed place n) : Grown allowed t (s.put place n)

namespace Grown

variable {allowed : Place → FileNode → Prop}

theorem trans (h : Grown allowed t s) (h' : Grown allowed s u) : Grown allowed t u := by
  induction h' with
  | same => exact h
  | put _ hadmits hok ih => exact ih.put hadmits hok

theorem wellFormed (h : Grown allowed t s) (hwf : t.WellFormed) : s.WellFormed := by
  induction h with
  | same => exact hwf
  | put _ hadmits _ ih => exact ih.put hadmits

theorem keepsFolders (h : Grown allowed t s) : KeepsFolders t s := by
  induction h with
  | same => exact .refl t
  | put _ hadmits _ ih => exact ih.trans (keepsFolders_put hadmits.free _)

/-- A place is as it was, or something allowed has come there. -/
theorem at?_cases (h : Grown allowed t s) (place : Place) : s.at? place = t.at? place ∨
    ∃ n, s.at? place = some n ∧ allowed place n ∧ t.at? place ≠ some .folder ∧
      (n = .folder → t.at? place = none) := by
  induction h with
  | same => exact .inl rfl
  | @put s q n _ hadmits hok ih =>
    rw [at?_put hadmits.ne_root]
    split
    · -- the last change is at this place, and what was there before it could be replaced
      next heq =>
      subst heq
      refine .inr ⟨n, rfl, hok, ?_, fun hn => ?_⟩
      · rcases ih with h | ⟨m, -, -, h, -⟩
        · exact h ▸ hadmits.free
        · exact h
      · have hnone := hadmits.new hn
        rcases ih with h | ⟨m, h, -⟩
        · exact h ▸ hnone
        · rw [h] at hnone
          cases hnone
    · exact ih

/-- Files stay files. -/
theorem file {content : List UInt8} (h : Grown allowed t s)
    (hfile : t.at? place = some (.file content)) : ∃ c, s.at? place = some (.file c) := by
  rcases h.at?_cases place with heq | ⟨n, hn, -, -, hnew⟩
  · exact ⟨content, heq.trans hfile⟩
  · cases n with
    | folder =>
      rw [hnew rfl] at hfile
      cases hfile
    | file c => exact ⟨c, hn⟩

/-- Where nothing lies, nothing has lain. -/
theorem none_of_none (h : Grown allowed t s) (hnone : s.at? place = none) :
    t.at? place = none := by
  rcases h.at?_cases place with heq | ⟨n, hn, -⟩
  · exact heq.symm.trans hnone
  · rw [hnone] at hn
    cases hn

end Grown

/-! ## Adding folders -/

/-- The tree with a folder at each of some places where nothing lies. -/
def addFolders (t : FileTree) (places : List Place) : FileTree :=
  places.foldl (fun t place => if (t.at? place).isSome then t else t.put place .folder) t

theorem addFolders_cons (t : FileTree) (place : Place) (places : List Place) :
    t.addFolders (place :: places) =
      (if (t.at? place).isSome then t else t.put place .folder).addFolders places := rfl

theorem at?_addFolders (t : FileTree) (places : List Place) (q : Place) :
    (t.addFolders places).at? q =
      (t.at? q).or (if q ∈ places then some .folder else none) := by
  induction places generalizing t with
  | nil => simp [addFolders]
  | cons place places ih =>
    rw [addFolders_cons, ih]
    split
    · next hsome =>
      by_cases hq : q = place
      · obtain ⟨n, hn⟩ := Option.isSome_iff_exists.mp hsome
        simp [hq, hn]
      · simp [hq]
    · next hnone =>
      have hroot : place ≠ [] := fun h => hnone (by simp [h, at?_root])
      rw [at?_put hroot]
      by_cases hq : q = place
      · have hnone' : t.at? place = none := by simpa using hnone
        simp [hq, hnone']
      · simp [hq]

theorem addFolders_of_folders {places : List Place}
    (h : ∀ q ∈ places, t.at? q = some .folder) : t.addFolders places = t := by
  induction places with
  | nil => rfl
  | cons place places ih =>
    rw [addFolders_cons, h place (by simp)]
    exact ih fun q hq => h q (by simp [hq])

/-- No file lies at any of some places. -/
def NoFiles (t : FileTree) (places : List Place) : Prop :=
  ∀ q ∈ places, ∀ content, t.at? q ≠ some (.file content)

/-- Where no file is in the way, a folder that has been added is there. -/
theorem at?_addFolders_of_mem {places : List Place} {q : Place} (h : t.NoFiles places)
    (hq : q ∈ places) : (t.addFolders places).at? q = some .folder := by
  rw [at?_addFolders, if_pos hq]
  cases hat : t.at? q with
  | none => rfl
  | some n =>
    cases n with
    | folder => rfl
    | file content => exact absurd hat (h q hq content)

/-- A new folder stands in no folder's way. -/
theorem noFiles_put_iff {places : List Place} (hroot : place ≠ []) (hnone : t.at? place = none) :
    (t.put place .folder).NoFiles places ↔ t.NoFiles places := by
  have hat : ∀ q content, (t.put place .folder).at? q = some (.file content) ↔
      t.at? q = some (.file content) := by
    intro q content
    rw [at?_put hroot]
    split
    · next heq => simp [heq, hnone]
    · rfl
  simp only [NoFiles, ne_eq, hat]

/-! ## Making folders -/

theorem isFolder_start {names : List String} (hwalk : t.walk here names = .ok place)
    (hfolder : t.at? place = some .folder) : t.at? here = some .folder := by
  cases names with
  | nil =>
    cases hwalk
    exact hfolder
  | cons name rest =>
    rw [walk] at hwalk
    split at hwalk
    · cases hwalk
    · cases hwalk
    · next h => exact h

/-- Who comes to a folder has come through folders only. -/
theorem folders_of_walk {names : List String} (hwalk : t.walk here names = .ok place)
    (hfolder : t.at? place = some .folder) :
    ∀ q ∈ Path.placesFrom here names, t.at? q = some .folder := by
  induction names generalizing here with
  | nil =>
    intro q hq
    cases hq
  | cons name rest ih =>
    have hhere := isFolder_start hwalk hfolder
    rw [walk, hhere] at hwalk
    intro q hq
    rcases List.mem_cons.mp hq with rfl | hq
    · exact isFolder_start hwalk hfolder
    · exact ih hwalk q hq

section Along

variable {front : List String}

/-- A name further along a way of folders. -/
theorem locate_next (hwalk : t.walk [] front = .ok here) (hfolder : t.at? here = some .folder)
    (name : String) : t.locate { parts := front ++ [name] } = .ok (Path.step here name) := by
  rw [locate, walk_append, hwalk]
  simp only [bind, Except.bind, walk, hfolder]
  rfl

/-- Making folders along a way needs that no file lies there, and adds the missing ones. -/
theorem makeAlong_eq_ok_iff {names : List String} (hwalk : t.walk [] front = .ok here)
    (hfolder : t.at? here = some .folder) : t.makeAlong front names = .ok u ↔
      t.NoFiles (Path.placesFrom here names) ∧
        u = t.addFolders (Path.placesFrom here names) := by
  induction names generalizing t front here with
  | nil =>
    have hnone : t.NoFiles (Path.placesFrom here []) := by
      intro q hq
      cases hq
    rw [makeAlong, Except.ok.injEq, eq_comm]
    exact (and_iff_right hnone).symm
  | cons name rest ih =>
    have hnext := locate_next hwalk hfolder name
    have hcons : Path.placesFrom here (name :: rest) =
      Path.step here name :: Path.placesFrom (Path.step here name) rest := rfl
    rw [makeAlong, makeFolder, hnext, hcons, addFolders_cons]
    simp only [bind, Except.bind]
    cases hat : t.at? (Path.step here name) with
    | none =>
      -- the folder is made
      have hroot : Path.step here name ≠ [] := by
        intro h
        rw [h, at?_root] at hat
        cases hat
      have hkeeps : KeepsFolders t (t.put (Path.step here name) .folder) :=
        keepsFolders_put (by simp [hat]) _
      have hat' : (t.put (Path.step here name) .folder).at? (Path.step here name) =
          some .folder := by rw [at?_put hroot, if_pos rfl]
      have hrest := ih (locate_of_keepsFolders hkeeps hnext) hat'
      have hfiles : t.NoFiles (Path.placesFrom (Path.step here name) rest) ↔
          t.NoFiles (Path.step here name :: Path.placesFrom (Path.step here name) rest) := by
        simp [NoFiles, hat]
      rw [noFiles_put_iff hroot hat, hfiles] at hrest
      exact hrest
    | some n =>
      cases n with
      | folder =>
        -- the folder is there
        have hthere : t.isFolder { parts := front ++ [name] } = true :=
          isFolder_of_locate hnext hat
        have hrest := ih hnext hat
        have hfiles : t.NoFiles (Path.placesFrom (Path.step here name) rest) ↔
            t.NoFiles (Path.step here name :: Path.placesFrom (Path.step here name) rest) := by
          simp [NoFiles, hat]
        rw [hfiles] at hrest
        simp only [Option.isSome_some, if_true, hthere, pure, Except.pure]
        exact hrest
      | file content =>
        -- a file stands in the way
        have hnot : t.isFolder { parts := front ++ [name] } = false := by
          simp [isFolder, find?, hnext, hat]
        have hfiles : ¬ t.NoFiles
            (Path.step here name :: Path.placesFrom (Path.step here name) rest) :=
          fun h => h _ (by simp) content hat
        simp [hnot, hfiles, throw, throwThe, MonadExceptOf.throw]

end Along

/-- **Making folders** needs that no file lies at any place on the way, and adds a folder at each
one where nothing lies. -/
theorem makeFolders_eq_ok_iff : t.makeFolders p = .ok u ↔
    t.NoFiles p.places ∧ u = t.addFolders p.places := by
  rw [makeFolders]
  split
  · next hthere =>
    obtain ⟨here, hlocate, hfolder⟩ := exists_locate_of_isFolder hthere
    have hfolders := folders_of_walk hlocate hfolder
    have hfiles : t.NoFiles p.places := by
      intro q hq content hcontent
      rw [hfolders q hq] at hcontent
      cases hcontent
    rw [Path.places, addFolders_of_folders hfolders, Except.ok.injEq, eq_comm]
    exact (and_iff_right hfiles).symm
  · exact makeAlong_eq_ok_iff rfl (at?_root t)

/-! ## Growing -/

section Growing

variable {allowed : Place → FileNode → Prop}

theorem grown_put (hadmits : t.Admits place n) (hok : allowed place n) :
    Grown allowed t (t.put place n) := Grown.same.put hadmits hok

theorem grown_addFolders {names : List String} (hwf : t.WellFormed)
    (hfolder : t.at? here = some .folder) (hfiles : t.NoFiles (Path.placesFrom here names))
    (hok : ∀ q ∈ Path.placesFrom here names, t.at? q = none → allowed q .folder) :
    Grown allowed t (t.addFolders (Path.placesFrom here names)) := by
  induction names generalizing t here with
  | nil => exact .same
  | cons name rest ih =>
    have hcons : Path.placesFrom here (name :: rest) =
      Path.step here name :: Path.placesFrom (Path.step here name) rest := rfl
    rw [hcons] at hfiles hok ⊢
    rw [addFolders_cons]
    have hlater : t.NoFiles (Path.placesFrom (Path.step here name) rest) :=
      fun q hq => hfiles q (by simp [hq])
    cases hat : t.at? (Path.step here name) with
    | none =>
      have hadmits : t.Admits (Path.step here name) .folder := by
        refine ⟨?_, by simp [hat], fun _ => hat⟩
        by_cases hname : name = ".."
        · -- the folder around a folder is there
          rw [Path.step, if_pos hname, hwf.folder_around hfolder] at hat
          cases hat
        · exact ⟨here, name, by rw [Path.step, if_neg hname], hname, hfolder⟩
      have hgrown : Grown allowed t (t.put (Path.step here name) .folder) :=
        grown_put hadmits (hok _ (by simp) hat)
      refine hgrown.trans (ih (hgrown.wellFormed hwf) ?_
        ((noFiles_put_iff hadmits.ne_root hat).mpr hlater) fun q hq hnone => ?_)
      · rw [at?_put hadmits.ne_root, if_pos rfl]
      · exact hok q (by simp [hq]) (hgrown.none_of_none hnone)
    | some n =>
      cases n with
      | folder => exact ih hwf hat hlater fun q hq => hok q (by simp [hq])
      | file content => exact absurd hat (hfiles _ (by simp) content)

theorem grown_putFiles {files : List (Place × List UInt8)} (hfolder : t.at? here = some .folder)
    (hfiles : ∀ f ∈ files, (∃ name, f.1 = here ++ [name] ∧ name ≠ "..") ∧
      t.at? f.1 ≠ some .folder ∧ allowed f.1 (.file f.2)) :
    Grown allowed t (t.putFiles files) := by
  induction files generalizing t with
  | nil => exact .same
  | cons f rest ih =>
    obtain ⟨⟨name, hplace, hname⟩, hfree, hok⟩ := hfiles f (by simp)
    have hadmits : t.Admits f.1 (.file f.2) := by
      refine ⟨⟨here, name, hplace, hname, hfolder⟩, hfree, fun h => ?_⟩
      cases h
    have hgrown : Grown allowed t (t.put f.1 (.file f.2)) := grown_put hadmits hok
    refine hgrown.trans (ih (hgrown.keepsFolders here hfolder) fun g hg => ?_)
    obtain ⟨hname', hfree', hok'⟩ := hfiles g (by simp [hg])
    refine ⟨hname', fun h => ?_, hok'⟩
    rw [at?_put hadmits.ne_root] at h
    split at h
    · cases h
    · exact hfree' h

end Growing

end EnumExport.FileTree
