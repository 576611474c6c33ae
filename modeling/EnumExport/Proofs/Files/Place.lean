import EnumExport.Proofs.Files.Writes

/-!
# Places of paths

Where a path leads is told by its names alone, as long as no `..` leads out of a folder that is not
there: such a path is steady.

* In a tree where everything lies in a folder, a steady path finds what lies at its place:
  `find?_of_steady`.
* What is read through such a path is what lies at the place: `items_of_steady`,
  `everything_of_steady`.
* A text that is read depends on nothing but what is found: `readText_congr`.
-/

namespace EnumExport

/-! ## Names and places -/

namespace Path

/-- The place that a name leads to. -/
def step (here : Place) (name : String) : Place :=
  if name = ".." then here.dropLast else here ++ [name]

/-- The place that names lead to. -/
def placeFrom (here : Place) (names : List String) : Place := names.foldl step here

/-- The places on the way of some names, the last one included. -/
def placesFrom (here : Place) : List String → List Place
  | [] => []
  | name :: rest => step here name :: placesFrom (step here name) rest

/-- The place of a path. -/
def place (p : Path) : Place := placeFrom [] p.parts

/-- The places of the folders around a path, and its own. -/
def places (p : Path) : List Place := placesFrom [] p.parts

theorem placeFrom_append (here : Place) (front rest : List String) :
    placeFrom here (front ++ rest) = placeFrom (placeFrom here front) rest := List.foldl_append

/-- Names that do not lead back are added. -/
theorem placeFrom_forward {here : Place} {names : List String} (h : ".." ∉ names) :
    placeFrom here names = here ++ names := by
  induction names generalizing here with
  | nil => exact (List.append_nil here).symm
  | cons name rest ih =>
    obtain ⟨hname, hrest⟩ : ".." ≠ name ∧ ".." ∉ rest := by simpa using h
    have hstep : placeFrom here (name :: rest) = placeFrom (step here name) rest := rfl
    rw [hstep, step, if_neg hname.symm, ih hrest, List.append_assoc]
    rfl

theorem placesFrom_append (here : Place) (front rest : List String) :
    placesFrom here (front ++ rest) =
      placesFrom here front ++ placesFrom (placeFrom here front) rest := by
  induction front generalizing here with
  | nil => rfl
  | cons name front ih =>
    rw [List.cons_append, placesFrom, placesFrom, ih]
    rfl

theorem place_append {p q : Path} {names : List String} (hparts : q.parts = p.parts ++ names)
    (h : ".." ∉ names) : q.place = p.place ++ names := by
  rw [place, hparts, placeFrom_append, placeFrom_forward h]
  rfl

/-- The last name of a place is that of the path, unless it leads back. -/
theorem name_of_place {p : Path} {front names : List String} {here : Place} {name : String}
    (hparts : p.parts = front ++ names) (hne : names ≠ []) (h : ".." ∉ names)
    (hplace : p.place = here ++ [name]) : p.name = name := by
  rw [place, hparts, placeFrom_append, placeFrom_forward h] at hplace
  rcases List.eq_nil_or_concat names with hnil | ⟨init, last, rfl⟩
  · exact absurd hnil hne
  · rw [List.concat_eq_append, ← List.append_assoc] at hplace hparts
    obtain rfl := (List.cons.inj (List.append_inj' hplace rfl).2).1
    rw [Path.name, hparts, List.getLast?_concat]
    rfl

theorem place_child {p : Path} {name : String} (h : name ≠ "..") :
    (p.child name).place = p.place ++ [name] :=
  place_append rfl (by simpa using h.symm)

theorem places_child {p : Path} {name : String} (h : name ≠ "..") :
    (p.child name).places = p.places ++ [p.place ++ [name]] := by
  have hstep : step p.place name = p.place ++ [name] := if_neg h
  rw [places, child, placesFrom_append]
  exact congrArg (fun place => p.places ++ [place]) hstep

theorem eq_append_of_dropFront? {base names rest : List String}
    (h : dropFront? base names = some rest) : names = base ++ rest := by
  induction base generalizing names with
  | nil => exact Option.some.inj h
  | cons b base ih =>
    cases names with
    | nil => cases h
    | cons name names =>
      rw [dropFront?] at h
      split at h
      · next heq => rw [List.cons_append, heq, ih h]
      · cases h

/-- The names that lead from a place to one below it. -/
def namesBelow? (place below : Place) : Option (List String) :=
  match dropFront? place below with
  | some (name :: rest) => some (name :: rest)
  | _ => none

theorem namesBelow?_eq_some {place below : Place} {names : List String} :
    namesBelow? place below = some names ↔ below = place ++ names ∧ names ≠ [] := by
  constructor
  · intro h
    rw [namesBelow?] at h
    split at h
    · next name rest hdrop =>
      cases h
      exact ⟨eq_append_of_dropFront? hdrop, List.cons_ne_nil _ _⟩
    · cases h
  · rintro ⟨rfl, hnames⟩
    rw [namesBelow?, dropFront?_append]
    cases names with
    | nil => exact absurd rfl hnames
    | cons name rest => rfl

/-! ### Paths in order -/

theorem namesLe_total (a b : List String) : (namesLe a b || namesLe b a) = true := by
  induction a generalizing b with
  | nil => rfl
  | cons x as ih =>
    cases b with
    | nil => rfl
    | cons y bs =>
      by_cases hxy : x < y
      · simp [namesLe, hxy]
      · by_cases hyx : y < x
        · simp [namesLe, hyx]
        · obtain rfl := String.le_antisymm (a := x) (b := y) hyx hxy
          simpa [namesLe, String.lt_irrefl] using ih bs

theorem namesLe_antisymm {a b : List String} (hab : namesLe a b = true) (hba : namesLe b a = true) :
    a = b := by
  induction a generalizing b with
  | nil =>
    cases b with
    | nil => rfl
    | cons y bs => cases hba
  | cons x as ih =>
    cases b with
    | nil => cases hab
    | cons y bs =>
      rw [namesLe] at hab hba
      split at hab
      · next hxy =>
        rw [if_neg (String.lt_asymm hxy)] at hba
        split at hba
        · next heq => exact absurd (heq ▸ hxy) (String.lt_irrefl x)
        · cases hba
      · split at hab
        · next heq =>
          subst heq
          rw [if_neg (String.lt_irrefl x), if_pos rfl] at hba
          rw [ih hab hba]
        · cases hab

theorem namesLe_trans {a b c : List String} (hab : namesLe a b = true) (hbc : namesLe b c = true) :
    namesLe a c = true := by
  induction a generalizing b c with
  | nil => rfl
  | cons x as ih =>
    cases b with
    | nil => cases hab
    | cons y bs =>
      cases c with
      | nil => cases hbc
      | cons z cs =>
        rw [namesLe] at hab hbc ⊢
        split at hab
        · next hxy =>
          split at hbc
          · next hyz => rw [if_pos (String.lt_trans hxy hyz)]
          · split at hbc
            · next heq => rw [if_pos (heq ▸ hxy)]
            · cases hbc
        · split at hab
          · next heq =>
            subst heq
            split at hbc
            · next hlt => rw [if_pos hlt]
            · next hlt =>
              rw [if_neg hlt]
              split at hbc
              · next heq => rw [if_pos heq, ih hab hbc]
              · cases hbc
          · cases hab

theorem le_trans (p q r : Path) (h : p.le q = true) (h' : q.le r = true) : p.le r = true :=
  namesLe_trans h h'

theorem le_total (p q : Path) : (p.le q || q.le p) = true := namesLe_total p.parts q.parts

theorem eq_of_le {p q : Path} (hrooted : p.rooted = q.rooted) (h : p.le q = true)
    (h' : q.le p = true) : p = q := by
  obtain ⟨parts, rooted⟩ := p
  obtain ⟨parts', rooted'⟩ := q
  obtain rfl : rooted = rooted' := hrooted
  obtain rfl : parts = parts' := namesLe_antisymm h h'
  rfl

theorem flatMap_filter_ne {β : Type} {f : Path → List β} {q : Path} (hq : f q = [])
    (ps : List Path) : (ps.filter fun p => decide (p ≠ q)).flatMap f = ps.flatMap f := by
  induction ps with
  | nil => rfl
  | cons p ps ih =>
    by_cases hp : p = q
    · rw [List.filter_cons_of_neg (by simpa using hp), ih, List.flatMap_cons, hp, hq]
      rfl
    · rw [List.filter_cons_of_pos (by simpa using hp), List.flatMap_cons, List.flatMap_cons, ih]

/-- Among paths that are put in order, one from which nothing comes can be left out. -/
theorem flatMap_mergeSort_concat {β : Type} {f : Path → List β} {q : Path} (hq : f q = [])
    {ps : List Path} (hrooted : ∀ p ∈ ps, p.rooted = q.rooted) :
    ((ps ++ [q]).mergeSort le).flatMap f = (ps.mergeSort le).flatMap f := by
  rw [← flatMap_filter_ne hq, ← flatMap_filter_ne hq (ps.mergeSort le)]
  -- without it both rows hold the same paths, and each is in order
  congr 1
  have hsorted : ∀ ps : List Path,
      ((ps.mergeSort le).filter fun p => decide (p ≠ q)).Pairwise fun a b => a.le b = true :=
    fun ps => (@List.pairwise_mergeSort Path le le_trans le_total ps).filter _
  have hmem : ∀ p ∈ ps ++ [q], p.rooted = q.rooted := by
    intro p hp
    rcases List.mem_append.mp hp with hp | hp
    · exact hrooted p hp
    · rw [List.mem_singleton.mp hp]
  refine List.Perm.eq_of_pairwise (fun a b ha hb => eq_of_le ?_) (hsorted _) (hsorted _) ?_
  · rw [List.mem_filter, List.mem_mergeSort] at ha hb
    rw [hmem a ha.1, hrooted b hb.1]
  · refine ((List.mergeSort_perm _ le).filter _).trans (.trans ?_
      ((List.mergeSort_perm ps le).filter _).symm)
    simp

end Path

namespace FileTree

variable {t u : FileTree} {p : Path} {place here : Place}

theorem place_of_walk {names : List String} (h : t.walk here names = .ok place) :
    place = Path.placeFrom here names := by
  induction names generalizing here with
  | nil => exact (Except.ok.inj h).symm
  | cons name rest ih =>
    rw [walk] at h
    split at h
    · cases h
    · cases h
    · exact ih h

theorem place_of_locate (h : t.locate p = .ok place) : place = p.place := place_of_walk h

/-! ## Trees where everything lies in a folder -/

/-- What a disk can hold. -/
structure WellFormed (t : FileTree) : Prop where
  /-- everything lies in a folder -/
  around : ∀ here name, t.at? (here ++ [name]) ≠ none → t.at? here = some .folder
  /-- no name leads back -/
  forward : ∀ place ∈ Assoc.keys t.nodes, ".." ∉ place

theorem mem_keys_of_at? (hplace : place ≠ []) (h : t.at? place ≠ none) :
    place ∈ Assoc.keys t.nodes := by
  rw [at?, if_neg (by simpa using hplace)] at h
  rw [← Assoc.has_iff_mem_keys, Assoc.has]
  exact Option.isSome_iff_ne_none.mpr h

theorem at?_ne_none_of_mem (h : place ∈ Assoc.keys t.nodes) : t.at? place ≠ none := by
  rw [← Assoc.has_iff_mem_keys, Assoc.has] at h
  rw [at?]
  split
  · simp
  · exact Option.isSome_iff_ne_none.mp h

/-- It is enough to look at what is listed. -/
theorem wellFormed_of_nodes (haround : ∀ n ∈ t.nodes, t.at? n.1.dropLast = some .folder)
    (hforward : ∀ n ∈ t.nodes, ".." ∉ n.1) : t.WellFormed where
  around := by
    intro here name hsome
    obtain ⟨n, hn, hplace⟩ := List.mem_map.mp (mem_keys_of_at? (by simp) hsome)
    have hfolder := haround n hn
    rw [hplace, List.dropLast_concat] at hfolder
    exact hfolder
  forward := by
    intro place hplace
    obtain ⟨n, hn, rfl⟩ := List.mem_map.mp hplace
    exact hforward n hn

section WellFormed

variable (hwf : t.WellFormed)
include hwf

/-- What lies somewhere below a place makes it a folder. -/
theorem WellFormed.folder {names : List String} (hnames : names ≠ [])
    (h : t.at? (here ++ names) ≠ none) : t.at? here = some .folder := by
  induction names generalizing here with
  | nil => exact absurd rfl hnames
  | cons name rest ih =>
    by_cases hrest : rest = []
    · subst hrest
      exact hwf.around here name h
    · have hnext : t.at? (here ++ [name]) = some .folder := ih hrest (by simpa using h)
      exact hwf.around here name (by simp [hnext])

/-- A folder lies in a folder. -/
theorem WellFormed.folder_around (h : t.at? here = some .folder) :
    t.at? here.dropLast = some .folder := by
  rcases List.eq_nil_or_concat here with rfl | ⟨front, last, rfl⟩
  · exact h
  · rw [List.concat_eq_append] at h ⊢
    rw [List.dropLast_concat]
    exact hwf.around front last (by simp [h])

/-- Nothing lies below what is no folder. -/
theorem WellFormed.below_eq_nil (h : t.at? place ≠ some .folder) : t.below place = [] := by
  rw [below, List.filterMap_eq_nil_iff]
  intro n hn
  split
  · next name rest hdrop =>
    have hkey : n.1 ∈ Assoc.keys t.nodes := List.mem_map_of_mem hn
    rw [Path.eq_append_of_dropFront? hdrop] at hkey
    exact absurd (hwf.folder (List.cons_ne_nil _ _) (at?_ne_none_of_mem hkey)) h
  · rfl

end WellFormed

/-! ## Steady paths -/

/-- No `..` of the path leads out of a folder that is not there. -/
def Steady (t : FileTree) (p : Path) : Prop :=
  ∀ front rest, p.parts = front ++ ".." :: rest → t.isFolder { parts := front } = true

/-- A path without `..` is steady. -/
theorem steady_of_forward (h : ".." ∉ p.parts) : t.Steady p := by
  intro front rest hparts
  exact absurd (by simp [hparts]) h

theorem isFolder_of_keepsFolders (hkeeps : KeepsFolders t u) (h : t.isFolder p = true) :
    u.isFolder p = true := by
  obtain ⟨place, hlocate, hfolder⟩ := exists_locate_of_isFolder h
  exact isFolder_of_locate (locate_of_keepsFolders hkeeps hlocate) (hkeeps place hfolder)

theorem Steady.of_keepsFolders (h : t.Steady p) (hkeeps : KeepsFolders t u) : u.Steady p :=
  fun front rest hparts => isFolder_of_keepsFolders hkeeps (h front rest hparts)

/-- Names that do not lead back keep a path steady. -/
theorem Steady.append {q : Path} {names : List String} (h : t.Steady p)
    (hparts : q.parts = p.parts ++ names) (hnames : ".." ∉ names) : t.Steady q := by
  intro front rest hq
  rw [hparts] at hq
  rcases List.append_eq_append_iff.mp hq with ⟨more, hfront, hmore⟩ | ⟨more, hfront, hmore⟩
  · exact absurd (by simp [hmore]) hnames
  · cases more with
    | nil =>
      rw [List.nil_append] at hmore
      exact absurd (by simp [← hmore]) hnames
    | cons name more =>
      obtain ⟨rfl, -⟩ := List.cons.inj hmore
      exact h front more hfront

/-- What lies right below a place, with its name. -/
def itemOf? (n : List String × FileNode) : Option (String × FileNode) :=
  match n.1 with
  | [name] => some (name, n.2)
  | _ => none

theorem items_eq (t : FileTree) (p : Path) : t.items p =
    match t.locate p with
    | .error _ => []
    | .ok place => (t.below place).filterMap itemOf? := rfl

section Steady

variable (hwf : t.WellFormed)
include hwf

/-- Walking on comes to the place of the names, or nothing lies there. -/
theorem walk_of_steady {names : List String}
    (hsteady : ∀ front rest, names = front ++ ".." :: rest →
      ∃ place, t.walk here front = .ok place ∧ t.at? place = some .folder) :
    (match t.walk here names with
      | .ok place => t.at? place
      | .error _ => none) = t.at? (Path.placeFrom here names) := by
  induction names generalizing here with
  | nil => rfl
  | cons name rest ih =>
    by_cases hfolder : t.at? here = some .folder
    · rw [walk, hfolder]
      refine ih fun front more hrest => ?_
      obtain ⟨place, hwalk, hplace⟩ := hsteady (name :: front) more (by rw [hrest]; rfl)
      rw [walk, hfolder] at hwalk
      exact ⟨place, hwalk, hplace⟩
    · -- the way ends here, so none of the names leads back
      have herror : ∀ first more, ∃ e, t.walk here (first :: more) = .error e := by
        intro first more
        rw [walk]
        split
        · exact ⟨_, rfl⟩
        · exact ⟨_, rfl⟩
        · next h => exact absurd h hfolder
      have hforward : ".." ∉ name :: rest := by
        intro hback
        obtain ⟨front, more, hnames⟩ := List.append_of_mem hback
        obtain ⟨place, hwalk, hplace⟩ := hsteady front more hnames
        cases front with
        | nil =>
          cases hwalk
          exact hfolder hplace
        | cons first front =>
          obtain ⟨e, he⟩ := herror first front
          rw [he] at hwalk
          cases hwalk
      obtain ⟨e, he⟩ := herror name rest
      rw [he, Path.placeFrom_forward hforward]
      cases hnone : t.at? (here ++ name :: rest) with
      | none => rfl
      | some n =>
        have hsome : t.at? (here ++ name :: rest) ≠ none := by simp [hnone]
        exact absurd (hwf.folder (List.cons_ne_nil name rest) hsome) hfolder

variable (hsteady : t.Steady p)
include hsteady

/-- **A steady path finds what lies at its place.** -/
theorem find?_of_steady : t.find? p = t.at? p.place := by
  refine walk_of_steady hwf fun front rest hparts => ?_
  exact exists_locate_of_isFolder (hsteady front rest hparts)

theorem locate_of_steady (h : t.at? p.place ≠ none) : t.locate p = .ok p.place := by
  rw [← find?_of_steady hwf hsteady, find?] at h
  split at h
  · next place hlocate => rw [hlocate, place_of_locate hlocate]
  · exact absurd rfl h

/-- A path that leads to no folder does not end in a name that leads back. -/
theorem name_of_steady {name : String} (hfree : t.at? p.place ≠ some .folder)
    (hplace : p.place = here ++ [name]) : p.name = name := by
  rcases List.eq_nil_or_concat p.parts with hnil | ⟨front, last, hparts⟩
  · rw [Path.place, hnil] at hplace
    exact absurd (congrArg List.length hplace) (by simp [Path.placeFrom])
  · rw [List.concat_eq_append] at hparts
    by_cases hlast : last = ".."
    · subst hlast
      -- the folder around a folder is there
      obtain ⟨place, hwalk, hfolder⟩ :=
        exists_locate_of_isFolder (hsteady front [] hparts)
      rw [Path.place, hparts, Path.placeFrom_append, ← place_of_walk hwalk] at hfree
      exact absurd (hwf.folder_around hfolder) hfree
    · exact Path.name_of_place hparts (List.cons_ne_nil _ _) (by simpa using Ne.symm hlast) hplace

/-- The items of a folder are told by its place. -/
theorem items_of_steady : t.items p = (t.below p.place).filterMap itemOf? := by
  rw [items_eq]
  by_cases h : t.at? p.place = some .folder
  · rw [locate_of_steady hwf hsteady (by simp [h])]
  · split
    · rw [hwf.below_eq_nil h]
      rfl
    · next place hlocate => rw [place_of_locate hlocate]

/-- The paths below a folder are told by its place. -/
theorem everything_of_steady : (t.everything p).map Prod.fst =
    ((t.below p.place).map fun n => ({ p with parts := p.parts ++ n.1 } : Path)).mergeSort
      Path.le := by
  by_cases h : t.at? p.place = some .folder
  · rw [everything, locate_of_steady hwf hsteady (by simp [h])]
    dsimp only
    rw [List.map_mergeSort (s := Path.le) (fun _ _ _ _ => rfl), List.map_map]
    rfl
  · rw [hwf.below_eq_nil h, everything]
    split
    · simp
    · next place hlocate =>
      rw [place_of_locate hlocate, hwf.below_eq_nil h]
      simp

end Steady

/-- The names below a place, in the order in which things lie there. -/
theorem below_names (t : FileTree) (place : Place) :
    (t.below place).map Prod.fst = (Assoc.keys t.nodes).filterMap (Path.namesBelow? place) := by
  rw [below, Assoc.keys, List.filterMap_map, List.map_filterMap]
  refine congrFun (congrArg _ (funext fun n => ?_)) _
  simp only [Function.comp, Path.namesBelow?]
  rcases Path.dropFront? place n.1 with _ | _ | ⟨name, rest⟩ <;> rfl

/-! ## Texts -/

/-- The bytes of what has been found. -/
def bytesOf : FileNode → Except FileFault (List UInt8)
  | .folder => .error .isFolder
  | .file content => .ok content

theorem read_of_find? {n : FileNode} (h : t.find? p = some n) : t.read p = bytesOf n := by
  rw [find?] at h
  split at h
  · next place hlocate =>
    unfold read
    rw [hlocate]
    simp only [bind, Except.bind, h]
    cases n <;> rfl
  · cases h

theorem exists_read_error (h : t.find? p = none) : ∃ e, t.read p = .error e := by
  unfold read
  rw [find?] at h
  split at h
  · next place hlocate =>
    rw [hlocate]
    simp only [bind, Except.bind, h]
    exact ⟨_, rfl⟩
  · next e hlocate =>
    rw [hlocate]
    exact ⟨e, rfl⟩

/-- What is found is what is read. -/
theorem readText_congr (hfind : u.find? p = t.find? p) (hhas : t.has p = true) :
    u.readText p = t.readText p := by
  obtain ⟨n, hn⟩ := Option.isSome_iff_exists.mp hhas
  rw [readText, readText, read_of_find? hn, read_of_find? (hfind.trans hn)]

theorem exists_readText_error (h : ∀ content, t.find? p ≠ some (.file content)) :
    ∃ e, t.readText p = .error e := by
  have hread : ∃ e, t.read p = .error e := by
    cases hfind : t.find? p with
    | none => exact exists_read_error hfind
    | some n =>
      cases n with
      | folder => exact ⟨_, read_of_find? hfind⟩
      | file content => exact absurd hfind (h content)
  obtain ⟨e, he⟩ := hread
  rw [readText, he]
  exact ⟨e, rfl⟩

end FileTree

end EnumExport
