import EnumExport.Proofs.Project.Exact
import EnumExport.Proofs.Project.Reading

/-!
# Exports for several locales

Each locale has a folder of its own, and the exports come one after the other. None of them reads
what another one has written, so each does what it would have done alone.

* What one export for a locale needs of the tree at the start is `CanExport`; it is still there
  after any of the other exports: `noFiles_of_grown`, `free_of_grown`.
* Hence exports for any of the locales, in any order, end well and leave what `Left` tells, place by
  place: `exportLocales_of_canExport`, `left_of_grown`.
* The order does not count, to export again changes nothing, and the folder of a locale holds the
  files that its export leaves alone: `Left.of_perm`, `Left.again`, `Left.files_below`.
-/

namespace EnumExport

/-- A name that is one step down. -/
structure Path.IsSegment (name : String) : Prop where
  /-- it holds no separator -/
  separator : '/' ∉ name.toList
  /-- it is not empty -/
  nonempty : name ≠ ""
  /-- it does not stay -/
  stay : name ≠ "."
  /-- it does not lead back -/
  back : name ≠ ".."

instance (name : String) : Decidable (Path.IsSegment name) :=
  decidable_of_iff ('/' ∉ name.toList ∧ name ≠ "" ∧ name ≠ "." ∧ name ≠ "..")
    ⟨fun ⟨hseparator, hnonempty, hstay, hback⟩ => ⟨hseparator, hnonempty, hstay, hback⟩,
      fun h => ⟨h.separator, h.nonempty, h.stay, h.back⟩⟩

theorem Path.IsSegment.join {name : String} (h : IsSegment name) (base : Path) :
    base.join name = base.child name := by
  have hrooted : isRooted name = false := by
    rw [isRooted]
    cases hchars : name.toList with
    | nil => rfl
    | cons c cs =>
      have hc : c ≠ '/' := fun heq => h.separator (by simp [hchars, heq])
      simpa using hc
  have hnames : names name = [name] := by
    rw [names, Text.split, Text.splitChars_of_not_mem h.separator]
    simp [h.nonempty, h.stay]
  rw [Path.join, hrooted, hnames]
  rfl

namespace Project

/-- What is asked for a locale among several. -/
def localeRequest (types : Option Bool) (locale : String) : ExportRequest where
  locale := some locale
  types
  strategy := some .shared

variable (p : Project) (base : Path) (types : Option Bool) (t : FileTree) (locales : List String)

/-- The files that the export for a locale writes. -/
def localeWrites (l : String) : List (Place × List UInt8) :=
  p.writesFor (base.child l) (localeRequest types l) t

/-- The folders that the export for a locale needs. -/
def localeFolders (l : String) : List Place :=
  p.foldersFor (base.child l) (localeRequest types l) t

/-- What the export for a locale tells. -/
def localeTold (l : String) : ExportResult := p.toldFor (base.child l) (localeRequest types l) t

/-- What the export for a locale leaves of a tree. -/
def localeLeft (s : FileTree) (l : String) : FileTree :=
  p.leftFor (base.child l) (localeRequest types l) t s

/-- What an export for a locale needs of the tree at the start. -/
structure CanExport (l : String) : Prop where
  /-- it has a batch -/
  batch : p.HasBatch (localeRequest types l) t
  /-- no file lies where it needs a folder -/
  way : t.NoFiles (p.localeFolders base types t l)
  /-- no folder lies where it writes a file -/
  free : ∀ f ∈ p.localeWrites base types t l, t.at? f.1 ≠ some .folder
  /-- it needs no folder where it writes a file -/
  apart : ∀ f ∈ p.localeWrites base types t l, f.1 ∉ p.localeFolders base types t l
  /-- it makes no folder where a language file is looked for -/
  unread : ∀ q ∈ p.localeFolders base types t l, t.at? q = none → p.Puts locales q .folder

/-- What the exports for the locales put into a tree. -/
def Brings (q : Place) (n : FileNode) : Prop :=
  p.Puts locales q n ∧ match n with
    | .folder => ∃ l ∈ locales, q ∈ p.localeFolders base types t l
    | .file _ => ∃ l ∈ locales, q ∈ (p.localeWrites base types t l).map Prod.fst

variable {p base types t locales} {s u : FileTree} {l k : String} {q : Place}

/-! ## Places of an export -/

/-- The folders of a locale are those around the base, and its own. -/
theorem mem_localeFolders (hl : l ≠ "..") (h : q ∈ p.localeFolders base types t l) :
    q ∈ base.places ∨ q = base.place ++ [l] := by
  rw [localeFolders, foldersFor] at h
  split at h
  · cases h
  · rw [Path.places_child hl] at h
    simpa using h

/-- The files of a locale lie in its folder, and the folder is needed. -/
theorem mem_localeWrites (hl : l ≠ "..") {f : Place × List UInt8}
    (h : f ∈ p.localeWrites base types t l) :
    (∃ name, f.1 = base.place ++ [l] ++ [moduleFile name]) ∧
      p.localeFolders base types t l = base.places ++ [base.place ++ [l]] := by
  rw [localeWrites, writesFor] at h
  split at h
  · cases h
  · next hsome =>
    rw [localeFolders, foldersFor, if_neg hsome, Path.places_child hl]
    refine ⟨?_, rfl⟩
    rw [batchWrites, Path.place_child hl] at h
    rcases List.mem_append.mp h with h | h
    · obtain ⟨source, -, rfl⟩ := List.mem_map.mp h
      exact ⟨source.1, rfl⟩
    · rcases List.mem_singleton.mp h with rfl
      exact ⟨"EnumRuntime", rfl⟩

theorem mem_localeWrites_fst (hl : l ≠ "..")
    (h : q ∈ (p.localeWrites base types t l).map Prod.fst) :
    ∃ name, q = base.place ++ [l] ++ [moduleFile name] := by
  obtain ⟨f, hf, rfl⟩ := List.mem_map.mp h
  exact (mem_localeWrites hl hf).1

/-- Different locales write different files. -/
theorem eq_of_mem_localeWrites (hl : l ≠ "..") (hk : k ≠ "..")
    (h : q ∈ (p.localeWrites base types t l).map Prod.fst)
    (h' : q ∈ (p.localeWrites base types t k).map Prod.fst) : l = k := by
  obtain ⟨name, rfl⟩ := mem_localeWrites_fst hl h
  obtain ⟨name', heq⟩ := mem_localeWrites_fst hk h'
  simpa using (List.append_inj' heq rfl).1

/-- An export for a locale lets a tree grow, where nothing stands in its way. -/
theorem grown_localeLeft {allowed : Place → FileNode → Prop} (hwf : s.WellFormed) (hl : l ≠ "..")
    (hway : s.NoFiles (p.localeFolders base types t l))
    (hfree : ∀ f ∈ p.localeWrites base types t l,
      (s.addFolders (p.localeFolders base types t l)).at? f.1 ≠ some .folder)
    (hfolders : ∀ q ∈ p.localeFolders base types t l, s.at? q = none → allowed q .folder)
    (hfiles : ∀ f ∈ p.localeWrites base types t l, allowed f.1 (.file f.2)) :
    FileTree.Grown allowed s (p.localeLeft base types t s l) := by
  have hmade : FileTree.Grown allowed s (s.addFolders (p.localeFolders base types t l)) := by
    revert hway hfolders
    rw [localeFolders, foldersFor]
    split
    · exact fun _ _ => .same
    · exact fun hway hfolders =>
        FileTree.grown_addFolders hwf (FileTree.at?_root s) hway hfolders
  rcases List.eq_nil_or_concat (p.localeWrites base types t l) with hnil | ⟨files, f, hsome⟩
  · have hleft : p.localeLeft base types t s l =
        (s.addFolders (p.localeFolders base types t l)).putFiles [] :=
      congrArg (s.addFolders (p.localeFolders base types t l)).putFiles hnil
    rw [hleft]
    exact hmade
  · -- the folder of the locale is there when the files come
    have hf : f ∈ p.localeWrites base types t l := by simp [hsome]
    have hneeded : base.place ++ [l] ∈ p.localeFolders base types t l := by
      rw [(mem_localeWrites hl hf).2]
      simp
    have hfolder := FileTree.at?_addFolders_of_mem hway hneeded
    refine hmade.trans (FileTree.grown_putFiles hfolder fun g hg => ?_)
    obtain ⟨⟨name, hplace⟩, -⟩ := mem_localeWrites hl hg
    exact ⟨⟨moduleFile name, hplace, moduleFile_ne_back name⟩, hfree g hg, hfiles g hg⟩

section Can

variable (hcan : ∀ l ∈ locales, p.CanExport base types t locales l)
  (hsegments : ∀ l ∈ locales, Path.IsSegment l)
include hcan hsegments

/-- No file of a locale lies where some locale needs a folder. -/
theorem not_mem_localeFolders (hl : l ∈ locales) (hk : k ∈ locales)
    (hq : q ∈ (p.localeWrites base types t l).map Prod.fst) :
    q ∉ p.localeFolders base types t k := by
  obtain ⟨f, hf, rfl⟩ := List.mem_map.mp hq
  obtain ⟨⟨name, hplace⟩, hfolders⟩ := mem_localeWrites (hsegments l hl).back hf
  have hown := (hcan l hl).apart f hf
  rw [hfolders] at hown
  intro hmem
  rcases mem_localeFolders (hsegments k hk).back hmem with hbase | hfolder
  · exact hown (List.mem_append_left _ hbase)
  · rw [hplace] at hfolder
    have hlength := congrArg List.length hfolder
    simp at hlength

variable (hgrown : FileTree.Grown (p.Brings base types t locales) t s)
include hgrown

/-- No file has come where a locale needs a folder. -/
theorem noFiles_of_grown (hl : l ∈ locales) : s.NoFiles (p.localeFolders base types t l) := by
  intro q hq content hfile
  rcases hgrown.at?_cases q with heq | ⟨n, hn, ⟨-, hcome⟩, -, -⟩
  · exact (hcan l hl).way q hq content (heq.symm.trans hfile)
  · rw [hfile] at hn
    cases hn
    obtain ⟨k, hk, hmem⟩ := hcome
    exact not_mem_localeFolders hcan hsegments hk hl hmem hq

/-- No folder has come where a locale writes a file. -/
theorem free_of_grown (hl : l ∈ locales) : ∀ f ∈ p.localeWrites base types t l,
    (s.addFolders (p.localeFolders base types t l)).at? f.1 ≠ some .folder := by
  intro f hf hfolder
  have hmem : f.1 ∈ (p.localeWrites base types t l).map Prod.fst := List.mem_map_of_mem hf
  rw [FileTree.at?_addFolders, if_neg ((hcan l hl).apart f hf), Option.or_none] at hfolder
  rcases hgrown.at?_cases f.1 with heq | ⟨n, hn, ⟨-, hcome⟩, -, -⟩
  · exact (hcan l hl).free f hf (heq.symm.trans hfolder)
  · rw [hfolder] at hn
    cases hn
    obtain ⟨k, hk, hneeded⟩ := hcome
    exact not_mem_localeFolders hcan hsegments hl hk hmem hneeded

/-- Whatever exports have come before, the one for a locale brings what it would have brought
alone. -/
theorem grown_locale (hwf : t.WellFormed) (hl : l ∈ locales) :
    FileTree.Grown (p.Brings base types t locales) t (p.localeLeft base types t s l) := by
  refine hgrown.trans (grown_localeLeft (hgrown.wellFormed hwf) (hsegments l hl).back
    (noFiles_of_grown hcan hsegments hgrown hl) (free_of_grown hcan hsegments hgrown hl) ?_ ?_)
  · intro q hq hnone
    exact ⟨(hcan l hl).unread q hq (hgrown.none_of_none hnone), l, hl, hq⟩
  · intro f hf
    obtain ⟨⟨name, hplace⟩, -⟩ := mem_localeWrites (hsegments l hl).back hf
    exact ⟨⟨_, name, hplace⟩, l, hl, List.mem_map_of_mem hf⟩

end Can

/-! ## Runs -/

theorem Grown.puts (h : FileTree.Grown (p.Brings base types t locales) t s) :
    FileTree.Grown (p.Puts locales) t s := by
  induction h with
  | same => exact .same
  | put _ hadmits hbrings ih => exact ih.put hadmits hbrings.1

section Run

variable (hwf : t.WellFormed) (hreads : p.ReadsSteadily locales t)
  (hsegments : ∀ l ∈ locales, Path.IsSegment l)
  (hnames : ∀ l ∈ locales, ∀ name ∈ Assoc.keys (p.builtFor (localeRequest types l) t).manifest,
    '/' ∉ name.toList)
include hwf hreads hsegments hnames

/-- When the export for a locale ends well on a tree that has grown. -/
theorem exportTo_locale_iff (hgrown : FileTree.Grown (p.Puts locales) t s) (hl : l ∈ locales)
    {result : ExportResult} :
    p.exportTo (base.join l) (localeRequest types l) s = .ok result u ↔
      p.HasBatch (localeRequest types l) t ∧ s.NoFiles (p.localeFolders base types t l) ∧
        (∀ f ∈ p.localeWrites base types t l,
          (s.addFolders (p.localeFolders base types t l)).at? f.1 ≠ some .folder) ∧
        result = p.localeTold base types t l ∧ u = p.localeLeft base types t s l := by
  rw [(hsegments l hl).join base]
  exact exportTo_eq_ok_iff
    (builtFor_grown hl (hsegments l hl).nonempty rfl hwf hreads hgrown) (hnames l hl)

/-- **Exports for some of the locales**, in any order and after any others, end well, and each tells
what it would have told alone. -/
theorem exportLocales_of_canExport (hcan : ∀ l ∈ locales, p.CanExport base types t locales l)
    {ls : List String} (hls : ls ⊆ locales)
    (hgrown : FileTree.Grown (p.Brings base types t locales) t s) :
    p.exportLocales base types ls s =
        .ok (ls.map (p.localeTold base types t)) (ls.foldl (p.localeLeft base types t) s) ∧
      FileTree.Grown (p.Brings base types t locales) t
        (ls.foldl (p.localeLeft base types t) s) := by
  induction ls generalizing s with
  | nil => exact ⟨rfl, hgrown⟩
  | cons l ls ih =>
    obtain ⟨hl, hrest⟩ := List.cons_subset.mp hls
    have hone : p.exportTo (base.join l) (localeRequest types l) s =
        .ok (p.localeTold base types t l) (p.localeLeft base types t s l) :=
      (exportTo_locale_iff hwf hreads hsegments hnames (Grown.puts hgrown) hl).mpr
        ⟨(hcan l hl).batch, noFiles_of_grown hcan hsegments hgrown hl,
          free_of_grown hcan hsegments hgrown hl, rfl, rfl⟩
    obtain ⟨hmore, hgrown'⟩ := ih hrest (grown_locale hcan hsegments hgrown hwf hl)
    refine ⟨?_, hgrown'⟩
    have hrun : p.exportLocales base types (l :: ls) s =
        (p.exportTo (base.join l) (localeRequest types l) >>= fun result =>
          p.exportLocales base types ls >>= fun results => pure (result :: results)) s := rfl
    rw [hrun]
    simp only [bind, EStateM.bind, hone, hmore]
    rfl

end Run

/-! ## What is left at each place -/

/-- The file that is put at a place last. -/
def lastAt (files : List (Place × List UInt8)) (q : Place) : Option FileNode :=
  (files.filter fun f => f.1 == q).getLast?.map fun f => .file f.2

theorem lastAt_eq_none {files : List (Place × List UInt8)} (h : q ∉ files.map Prod.fst) :
    lastAt files q = none := by
  have hnone : (files.filter fun f => f.1 == q) = [] := by
    rw [List.filter_eq_nil_iff]
    intro f hf heq
    exact h (List.mem_map.mpr ⟨f, hf, by simpa using heq⟩)
  rw [lastAt, hnone]
  rfl

theorem exists_lastAt {files : List (Place × List UInt8)} (h : q ∈ files.map Prod.fst) :
    ∃ content, lastAt files q = some (.file content) := by
  obtain ⟨f, hf, rfl⟩ := List.mem_map.mp h
  have hmem : f ∈ files.filter fun g => g.1 == f.1 := List.mem_filter.mpr ⟨hf, by simp⟩
  obtain ⟨g, hg⟩ :=
    Option.isSome_iff_exists.mp (List.getLast?_isSome.mpr (List.ne_nil_of_mem hmem))
  exact ⟨g.2, by rw [lastAt, hg]; rfl⟩

/-- What an export for a locale leaves at a place. -/
theorem at?_localeLeft (hl : l ≠ "..") (q : Place) : (p.localeLeft base types t s l).at? q =
    (lastAt (p.localeWrites base types t l) q).or
      ((s.at? q).or (if q ∈ p.localeFolders base types t l then some .folder else none)) := by
  have hleft : p.localeLeft base types t s l =
    (s.addFolders (p.localeFolders base types t l)).putFiles (p.localeWrites base types t l) := rfl
  rw [hleft, ← FileTree.at?_addFolders]
  by_cases hroot : q = []
  · subst hroot
    have hnone : [] ∉ (p.localeWrites base types t l).map Prod.fst := by
      intro h
      obtain ⟨name, heq⟩ := mem_localeWrites_fst hl h
      simp at heq
    rw [lastAt_eq_none hnone, FileTree.at?_root, FileTree.at?_root]
    rfl
  · exact FileTree.at?_putFiles hroot _ _

/-- What exports for some locales leave of a tree. -/
structure Left (p : Project) (base : Path) (types : Option Bool) (t : FileTree) (ls : List String)
    (s u : FileTree) : Prop where
  /-- the files of each of them -/
  file : ∀ l ∈ ls, ∀ q ∈ (p.localeWrites base types t l).map Prod.fst,
    u.at? q = lastAt (p.localeWrites base types t l) q
  /-- the folders that each of them needs -/
  folder : ∀ l ∈ ls, ∀ q ∈ p.localeFolders base types t l, u.at? q = some .folder
  /-- and all else as it was -/
  other : ∀ q, (∀ l ∈ ls, q ∉ (p.localeWrites base types t l).map Prod.fst ∧
    q ∉ p.localeFolders base types t l) → u.at? q = s.at? q

section Left

variable (hcan : ∀ l ∈ locales, p.CanExport base types t locales l)
  (hsegments : ∀ l ∈ locales, Path.IsSegment l) (hwf : t.WellFormed)
include hcan hsegments hwf

/-- What is left by exports that come one after the other. -/
theorem left_of_grown {ls : List String} (hls : ls ⊆ locales) (hdistinct : ls.Nodup)
    (hgrown : FileTree.Grown (p.Brings base types t locales) t s) :
    p.Left base types t ls s (ls.foldl (p.localeLeft base types t) s) := by
  induction ls generalizing s with
  | nil =>
    refine ⟨?_, ?_, fun q _ => rfl⟩ <;>
    · intro l hl
      cases hl
  | cons l ls ih =>
    obtain ⟨hl, hrest⟩ := List.cons_subset.mp hls
    obtain ⟨hnew, hdistinct'⟩ := List.nodup_cons.mp hdistinct
    have hlater := ih hrest hdistinct' (grown_locale hcan hsegments hgrown hwf hl)
    rw [List.foldl_cons]
    have hback := (hsegments l hl).back
    -- no later locale touches the files of this one
    have hfile : ∀ q ∈ (p.localeWrites base types t l).map Prod.fst,
        ((l :: ls).foldl (p.localeLeft base types t) s).at? q =
          lastAt (p.localeWrites base types t l) q := by
      intro q hq
      rw [List.foldl_cons, hlater.other q fun k hk => ⟨fun hq' => ?_,
        not_mem_localeFolders hcan hsegments hl (hrest hk) hq⟩, at?_localeLeft hback]
      · obtain ⟨content, hcontent⟩ := exists_lastAt hq
        rw [hcontent]
        rfl
      · exact hnew (eq_of_mem_localeWrites hback (hsegments k (hrest hk)).back hq hq' ▸ hk)
    have hfolder : ∀ q ∈ p.localeFolders base types t l,
        ((l :: ls).foldl (p.localeLeft base types t) s).at? q = some .folder := by
      intro q hq
      by_cases hneeded : ∃ k ∈ ls, q ∈ p.localeFolders base types t k
      · obtain ⟨k, hk, hqk⟩ := hneeded
        exact hlater.folder k hk q hqk
      · -- no later locale touches the folder, so it is as this one has left it
        have hnone : ∀ k ∈ locales, q ∉ (p.localeWrites base types t k).map Prod.fst :=
          fun k hk hqk => not_mem_localeFolders hcan hsegments hk hl hqk hq
        rw [List.foldl_cons, hlater.other q fun k hk => ⟨hnone k (hrest hk),
          fun hqk => hneeded ⟨k, hk, hqk⟩⟩, at?_localeLeft hback, lastAt_eq_none (hnone l hl),
          Option.none_or, ← FileTree.at?_addFolders]
        exact FileTree.at?_addFolders_of_mem (noFiles_of_grown hcan hsegments hgrown hl) hq
    refine ⟨?file, ?folder, ?other⟩
    case file =>
      intro k hk
      rcases List.mem_cons.mp hk with rfl | hk
      · exact hfile
      · exact hlater.file k hk
    case folder =>
      intro k hk
      rcases List.mem_cons.mp hk with rfl | hk
      · exact hfolder
      · exact hlater.folder k hk
    case other =>
      intro q hq
      obtain ⟨hnofile, hnofolder⟩ := hq l (by simp)
      rw [hlater.other q fun k hk => hq k (by simp [hk]), at?_localeLeft hback,
        lastAt_eq_none hnofile, if_neg hnofolder, Option.or_none]
      rfl

end Left

section Compare

variable {ls ks : List String} {s' v : FileTree}

/-- Trees that the same exports have left differ at most where none of them comes. -/
theorem Left.at?_eq (h : p.Left base types t ls s u) (h' : p.Left base types t ks s' v)
    (hsame : ∀ l, l ∈ ls ↔ l ∈ ks) (hother : ∀ q, (∀ l ∈ ls,
      q ∉ (p.localeWrites base types t l).map Prod.fst ∧ q ∉ p.localeFolders base types t l) →
        v.at? q = u.at? q) (q : Place) : v.at? q = u.at? q := by
  by_cases hfile : ∃ l ∈ ls, q ∈ (p.localeWrites base types t l).map Prod.fst
  · obtain ⟨l, hl, hq⟩ := hfile
    rw [h.file l hl q hq, h'.file l ((hsame l).mp hl) q hq]
  · by_cases hfolder : ∃ l ∈ ls, q ∈ p.localeFolders base types t l
    · obtain ⟨l, hl, hq⟩ := hfolder
      rw [h.folder l hl q hq, h'.folder l ((hsame l).mp hl) q hq]
    · exact hother q fun l hl => ⟨fun hq => hfile ⟨l, hl, hq⟩, fun hq => hfolder ⟨l, hl, hq⟩⟩

/-- Exports leave the same in whatever order they come. -/
theorem Left.of_perm (h : p.Left base types t ls s u) (h' : p.Left base types t ks s v)
    (hperm : ks.Perm ls) (q : Place) : v.at? q = u.at? q := by
  have hsame : ∀ l, l ∈ ls ↔ l ∈ ks := fun l => hperm.mem_iff.symm
  refine h.at?_eq h' hsame (fun q hq => ?_) q
  rw [h.other q hq, h'.other q fun l hl => hq l ((hsame l).mpr hl)]

/-- Exports that come once more change nothing. -/
theorem Left.again (h : p.Left base types t ls s u) (h' : p.Left base types t ls u v) (q : Place) :
    v.at? q = u.at? q := h.at?_eq h' (fun _ => Iff.rfl) (fun q hq => h'.other q hq) q

/-- In its own folder, an export leaves the files that it leaves alone. -/
theorem Left.files_below (hcan : ∀ l ∈ locales, p.CanExport base types t locales l)
    (hsegments : ∀ l ∈ locales, Path.IsSegment l) (h : p.Left base types t locales t u)
    (hl : l ∈ locales) (h' : p.Left base types t [l] t v) (rest : List String)
    (content : List UInt8) : u.at? (base.place ++ l :: rest) = some (.file content) ↔
      v.at? (base.place ++ l :: rest) = some (.file content) := by
  by_cases hfile : base.place ++ l :: rest ∈ (p.localeWrites base types t l).map Prod.fst
  · rw [h.file l hl _ hfile, h'.file l (by simp) _ hfile]
  -- the other locales write in other folders
  have hnofile : ∀ k ∈ locales,
      base.place ++ l :: rest ∉ (p.localeWrites base types t k).map Prod.fst := by
    intro k hk hq
    obtain ⟨name, heq⟩ := mem_localeWrites_fst (hsegments k hk).back hq
    rw [List.append_assoc] at heq
    obtain rfl := (List.cons.inj (List.append_cancel_left heq)).1
    exact hfile hq
  by_cases hfolder : ∃ k ∈ locales, base.place ++ l :: rest ∈ p.localeFolders base types t k
  · -- a folder that some locale needs is a file neither here nor there
    obtain ⟨k, hk, hq⟩ := hfolder
    rw [h.folder k hk _ hq]
    by_cases hown : base.place ++ l :: rest ∈ p.localeFolders base types t l
    · rw [h'.folder l (by simp) _ hown]
    · rw [h'.other _ (by simpa using ⟨by simpa using hfile, hown⟩)]
      exact iff_of_false (by simp) ((hcan k hk).way _ hq content)
  · rw [h.other _ fun k hk => ⟨hnofile k hk, fun hq => hfolder ⟨k, hk, hq⟩⟩,
      h'.other _ fun k hk => ?_]
    rcases List.mem_singleton.mp hk with rfl
    exact ⟨hfile, fun hq => hfolder ⟨k, hl, hq⟩⟩

end Compare

end Project

end EnumExport
