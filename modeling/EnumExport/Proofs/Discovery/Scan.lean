import EnumExport.Discovery.Basic

/-!
# Enumerations that are discovered

Discovery goes from path to path, from file to file and from declaration to declaration, and keeps
of each name the first declaration whose name is accepted.

* The files that are read, in order, each with what it declares, are the `readings`; which of their
  declarations are kept is told without going through them in turn, `IsFirst`: `mem_scan_iff`.
* What is found stands in the strict order of its names: `scan_sorted`.
* The names that are found are the accepted ones of those that each path has alone:
  `mem_names_iff`. As their order is that of the names, they depend on nothing else:
  `names_eq_of_mem_iff`.
-/

namespace EnumExport.Discovery

/-! ## The files that are read -/

section Readings

variable (d : Discovery)

/-- What a file declares, as a module below a root. -/
def declared (root : Path) (t : FileTree) (file : Path) : List FoundEnum :=
  match moduleName? root file with
  | none => []
  | some module => t.declaredIn d.markers file module

theorem foundAt_unfold (t : FileTree) (p : Path) : d.foundAt t p =
    if !t.has p then []
    else (d.sourceFiles t p).flatMap (d.declared (d.root.getD (t.packageRoot p)) t) := rfl

variable (t : FileTree)

/-- The source files of a path in order, each with what it declares. -/
def readingsAt (p : Path) : List (Path × List FoundEnum) :=
  if !t.has p then []
  else (d.sourceFiles t p).map fun file =>
    (file, d.declared (d.root.getD (t.packageRoot p)) t file)

/-- The source files of all paths in order, each with what it declares. -/
def readings : List (Path × List FoundEnum) := d.paths.flatMap (d.readingsAt t)

/-- A declaration is the first of its name in a file, and no file before has one of the name. -/
def IsFirst (rs : List (Path × List FoundEnum)) (e : FoundEnum) : Prop :=
  ∃ before file es after, rs = before ++ (file, es) :: after ∧
    (∀ r ∈ before, ∀ x ∈ r.2, x.qualifiedName ≠ e.qualifiedName) ∧
    es.find? (fun x => x.qualifiedName == e.qualifiedName) = some e ∧ e.file = file

/-- The discovery of one path alone, whatever the names. -/
def only (p : Path) : Discovery := { d with paths := [p], namespaces := [] }

theorem foundAt_eq_readingsAt (p : Path) : d.foundAt t p = (d.readingsAt t p).flatMap Prod.snd := by
  rw [foundAt_unfold, readingsAt]
  split
  · rfl
  · rw [List.flatMap_map]

theorem found_eq_readings : d.paths.flatMap (d.foundAt t) = (d.readings t).flatMap Prod.snd := by
  have hpaths : d.foundAt t = fun p => (d.readingsAt t p).flatMap Prod.snd :=
    funext (d.foundAt_eq_readingsAt t)
  rw [readings, List.flatMap_assoc, hpaths]

variable {d t}

/-- A declaration knows its file. -/
theorem file_of_mem_readings {r : Path × List FoundEnum} (hr : r ∈ d.readings t) {e : FoundEnum}
    (he : e ∈ r.2) : e.file = r.1 := by
  obtain ⟨p, -, hr⟩ := List.mem_flatMap.mp hr
  rw [readingsAt] at hr
  split at hr
  · cases hr
  · obtain ⟨file, -, rfl⟩ := List.mem_map.mp hr
    dsimp only [declared] at he ⊢
    split at he
    · cases he
    · rw [FileTree.declaredIn] at he
      split at he
      · cases he
      · obtain ⟨x, -, rfl⟩ := List.mem_map.mp he
        rfl

/-- The first declaration of a name in all files is the first one in the first file that has one. -/
theorem isFirst_iff {e : FoundEnum} : IsFirst (d.readings t) e ↔
    ((d.readings t).flatMap Prod.snd).find? (fun x => x.qualifiedName == e.qualifiedName) =
      some e := by
  rw [List.find?_flatMap, List.findSome?_eq_some_iff]
  constructor
  · rintro ⟨before, file, es, after, hsplit, hbefore, hfirst, -⟩
    refine ⟨before, (file, es), after, hsplit, hfirst, fun r hr => ?_⟩
    simpa using hbefore r hr
  · rintro ⟨before, r, after, hsplit, hfirst, hbefore⟩
    have hr : r ∈ d.readings t := by simp [hsplit]
    have hfile : e.file = r.1 := file_of_mem_readings hr (List.mem_of_find?_eq_some hfirst)
    refine ⟨before, r.1, r.2, after, hsplit, fun b hb => ?_, hfirst, hfile⟩
    simpa using hbefore b hb

end Readings

/-! ## The first of each name -/

theorem mem_firstOfEach_iff {seen : List String} {es : List FoundEnum} {e : FoundEnum} :
    e ∈ firstOfEach seen es ↔ e.qualifiedName ∉ seen ∧
      es.find? (fun x => x.qualifiedName == e.qualifiedName) = some e := by
  induction es generalizing seen with
  | nil => simp [firstOfEach]
  | cons x es ih =>
    rw [firstOfEach, List.find?_cons]
    by_cases hname : x.qualifiedName = e.qualifiedName
    · -- nothing behind the first declaration of a name is kept
      rw [hname, beq_self_eq_true]
      split
      · next hseen => simp [ih, List.contains_iff_mem.mp hseen]
      · next hseen =>
        have hnew : e.qualifiedName ∉ seen := fun h => hseen (List.contains_iff_mem.mpr h)
        simp [ih, hnew, eq_comm]
    · have hne : e.qualifiedName ≠ x.qualifiedName := fun h => hname h.symm
      have hother : e ≠ x := fun h => hne (h ▸ rfl)
      rw [beq_eq_false_iff_ne.mpr hname]
      split
      · exact ih
      · simp [ih, hne, hother]

theorem nodup_names_firstOfEach (seen : List String) (es : List FoundEnum) :
    ((firstOfEach seen es).map FoundEnum.qualifiedName).Nodup := by
  induction es generalizing seen with
  | nil => exact List.nodup_nil
  | cons x es ih =>
    rw [firstOfEach]
    split
    · exact ih seen
    · refine List.nodup_cons.mpr ⟨fun hmem => ?_, ih _⟩
      obtain ⟨e, he, hname⟩ := List.mem_map.mp hmem
      exact (mem_firstOfEach_iff.mp he).1 (hname ▸ List.mem_cons_self)

/-- No name is lost. -/
theorem mem_names_firstOfEach_iff {es : List FoundEnum} {n : String} :
    n ∈ (firstOfEach [] es).map FoundEnum.qualifiedName ↔ n ∈ es.map FoundEnum.qualifiedName := by
  constructor
  · intro h
    obtain ⟨e, he, rfl⟩ := List.mem_map.mp h
    exact List.mem_map_of_mem (List.mem_of_find?_eq_some (mem_firstOfEach_iff.mp he).2)
  · intro h
    obtain ⟨x, hx, rfl⟩ := List.mem_map.mp h
    obtain ⟨e, he⟩ : ∃ e, es.find? (fun y => y.qualifiedName == x.qualifiedName) = some e :=
      Option.isSome_iff_exists.mp (List.find?_isSome.mpr ⟨x, hx, beq_self_eq_true _⟩)
    have hname : e.qualifiedName = x.qualifiedName := by simpa using List.find?_some he
    rw [← hname] at he ⊢
    exact List.mem_map_of_mem (mem_firstOfEach_iff.mpr ⟨List.not_mem_nil, he⟩)

/-! ## What is found -/

variable (d : Discovery) (t : FileTree)

theorem accepts_iff {n : String} : d.accepts n = true ↔ d.namespaces = [] ∨
    ∃ s ∈ d.namespaces, Text.matchesGlob (Text.lower s) (Text.lower n) = true := by
  rw [accepts, Bool.or_eq_true, List.isEmpty_iff, List.any_eq_true]

/-- What is kept is the first declaration of its name, the name being accepted. -/
theorem mem_scan_iff {e : FoundEnum} :
    e ∈ d.scan t ↔ d.accepts e.qualifiedName = true ∧ IsFirst (d.readings t) e := by
  rw [isFirst_iff, ← found_eq_readings, scan, List.mem_mergeSort, mem_firstOfEach_iff,
    List.find?_filter]
  have hkept : ∀ x : FoundEnum, d.accepts e.qualifiedName = true →
      decide (d.accepts x.qualifiedName = true ∧ (x.qualifiedName == e.qualifiedName) = true) =
        (x.qualifiedName == e.qualifiedName) := by
    intro x haccepts
    by_cases hname : x.qualifiedName = e.qualifiedName
    · simp [hname, haccepts]
    · simp [hname]
  constructor
  · rintro ⟨-, hfirst⟩
    have haccepts : d.accepts e.qualifiedName = true := by
      simpa using List.find?_some hfirst
    simp only [hkept _ haccepts] at hfirst
    exact ⟨haccepts, hfirst⟩
  · rintro ⟨haccepts, hfirst⟩
    simp only [hkept _ haccepts]
    exact ⟨List.not_mem_nil, hfirst⟩

/-- What is found stands in the strict order of its names. -/
theorem scan_sorted : (d.scan t).Pairwise fun a b => a.qualifiedName < b.qualifiedName := by
  have hsorted : (d.scan t).Pairwise fun a b =>
      decide (a.qualifiedName ≤ b.qualifiedName) = true := by
    refine List.pairwise_mergeSort (fun a b c hab hbc => ?_) (fun a b => ?_) _
    · rw [decide_eq_true_eq] at hab hbc ⊢
      exact String.le_trans hab hbc
    · rw [Bool.or_eq_true, decide_eq_true_eq, decide_eq_true_eq]
      exact String.le_total _ _
  have hnodup : ((d.scan t).map FoundEnum.qualifiedName).Nodup :=
    ((List.mergeSort_perm _ _).map _).nodup_iff.mpr (nodup_names_firstOfEach [] _)
  -- in order and without repetition is in strict order
  refine (hsorted.and (List.pairwise_map.mp hnodup)).imp fun ⟨hab, hne⟩ => ?_
  rw [← String.not_le]
  exact fun hba => hne (String.le_antisymm (of_decide_eq_true hab) hba)

theorem names_sorted : (d.names t).Pairwise (· < ·) := List.pairwise_map.mpr (d.scan_sorted t)

/-- The names that are found are the accepted ones of what is declared below the paths. -/
theorem mem_names_iff_foundAt {n : String} : n ∈ d.names t ↔
    d.accepts n = true ∧ ∃ p ∈ d.paths, ∃ e ∈ d.foundAt t p, e.qualifiedName = n := by
  have hperm : (d.names t).Perm _ := (List.mergeSort_perm _ _).map FoundEnum.qualifiedName
  rw [hperm.mem_iff, mem_names_firstOfEach_iff]
  simp only [List.mem_map, List.mem_filter, List.mem_flatMap]
  constructor
  · rintro ⟨e, ⟨⟨p, hp, he⟩, haccepts⟩, rfl⟩
    exact ⟨haccepts, p, hp, e, he, rfl⟩
  · rintro ⟨haccepts, p, hp, e, he, rfl⟩
    exact ⟨e, ⟨⟨p, hp, he⟩, haccepts⟩, rfl⟩

/-- The names that are found are the accepted ones of those that each path has alone. -/
theorem mem_names_iff {n : String} :
    n ∈ d.names t ↔ d.accepts n = true ∧ ∃ p ∈ d.paths, n ∈ (d.only p).names t := by
  have halone : ∀ p, n ∈ (d.only p).names t ↔ ∃ e ∈ d.foundAt t p, e.qualifiedName = n := by
    intro p
    rw [mem_names_iff_foundAt]
    constructor
    · rintro ⟨-, q, hq, hfound⟩
      rcases List.mem_singleton.mp hq with rfl
      exact hfound
    · exact fun hfound => ⟨rfl, p, List.mem_singleton_self p, hfound⟩
  simp only [mem_names_iff_foundAt, halone]

/-- Names in strict order are told by which they are. -/
theorem names_eq_of_mem_iff {d d' : Discovery} {t t' : FileTree}
    (h : ∀ n, n ∈ d.names t ↔ n ∈ d'.names t') : d.names t = d'.names t' := by
  have hnodup : ∀ (d : Discovery) t, (d.names t).Nodup := by
    intro d t
    refine (d.names_sorted t).imp fun {a b} (hab : a < b) => ?_
    rintro rfl
    exact String.lt_irrefl a hab
  refine List.Perm.eq_of_pairwise (fun a b _ _ hab hba => ?_) (d.names_sorted t)
    (d'.names_sorted t') ((List.perm_ext_iff_of_nodup (hnodup d t) (hnodup d' t')).mpr h)
  exact absurd hba (String.lt_asymm hab)

end EnumExport.Discovery
