import EnumExport.Proofs.Discovery.Scan
import EnumExport.Proofs.Files.Growth
import EnumExport.Proofs.Project.Export

/-!
# What an export reads

An export reads language files and source files. What it puts into a tree, modules and folders, it
does not notice itself, as long as no new folder lies where a language file is looked for.

* The names of modules, language files and source files end in letters of their own.
* The texts of a locale stay the same when something comes where none of its files is looked for:
  `loadCatalog_put`.
* The enumerations that are discovered stay the same when a folder or a module is put in:
  `foundAt_put`.
* So does all that the registry builds, after one change, `builtFor_put`, and after any number of
  them, `builtFor_grown`.
-/

namespace EnumExport

/-! ## Endings of names -/

theorem last_of_append {s t : String} {c : Char} (h : t.toList.getLast? = some c) :
    (s ++ t).toList.getLast? = some c := by
  rw [String.toList_append, List.getLast?_append, h]
  rfl

theorem last_of_endsWith {s t : String} {c : Char} (h : s.endsWith t = true)
    (ht : t.toList.getLast? = some c) : s.toList.getLast? = some c := by
  rw [← String.endsWith_toSlice, String.Slice.endsWith_string_iff] at h
  obtain ⟨front, hfront⟩ := h
  have hs : front ++ t.toList = s.toList := by simpa using hfront
  rw [← hs, List.getLast?_append, ht]
  rfl

/-- The names of modules end in an s. -/
theorem last_of_moduleFile (name : String) :
    (Project.moduleFile name).toList.getLast? = some 's' := last_of_append rfl

/-- The names of language files end in an l. -/
theorem last_of_yamlName {name : String} (h : Wording.isYamlName name = true) :
    name.toList.getLast? = some 'l' := last_of_endsWith h rfl

theorem moduleFile_not_yaml (name : String) :
    Wording.isYamlName (Project.moduleFile name) = false := by
  rw [Bool.eq_false_iff]
  intro h
  have hlast := last_of_yamlName h
  rw [last_of_moduleFile] at hlast
  cases hlast

theorem moduleFile_not_source (name : String) :
    (Project.moduleFile name).endsWith ".py" = false := by
  rw [Bool.eq_false_iff]
  intro h
  have hlast := last_of_endsWith h (show ".py".toList.getLast? = some 'y' from rfl)
  rw [last_of_moduleFile] at hlast
  cases hlast

/-- A name that has the ending of source files ends in its last letter. -/
theorem last_of_splitName {name : String} (h : (Path.splitName name).2 = ".py") :
    name.toList.getLast? = some 'y' := by
  rw [Path.splitName] at h
  split at h
  · exact absurd (show "" = ".py" from h) (by decide)
  · have hchars := congrArg String.toList h
    rw [String.toList_ofList] at hchars
    -- read from behind, the name begins with the ending
    have hending : name.toList.reverse.takeWhile (· ≠ '.') = ['y', 'p'] := by
      rw [← List.reverse_inj]
      exact (List.cons.inj hchars).2
    obtain ⟨rest, hrest⟩ := List.takeWhile_prefix (· ≠ '.') (l := name.toList.reverse)
    rw [hending] at hrest
    rw [← List.head?_reverse, ← hrest]
    rfl

/-! ## Language files -/

namespace Text

/-- What is appended to a text without a separator stands in its last piece. -/
theorem exists_splitChars_append {sep : Char} {ending : List Char} (h : sep ∉ ending)
    (cs : List Char) :
    ∃ front last, splitChars sep (cs ++ ending) = front ++ [last ++ ending] := by
  induction cs with
  | nil => exact ⟨[], [], splitChars_of_not_mem h⟩
  | cons c cs ih =>
    obtain ⟨front, last, heq⟩ := ih
    rw [List.cons_append, splitChars, heq]
    split
    · exact ⟨[] :: front, last, rfl⟩
    · cases front with
      | nil => exact ⟨[], c :: last, rfl⟩
      | cons piece front => exact ⟨(c :: piece) :: front, last, rfl⟩

end Text

namespace Wording

/-- A place where the texts of a locale are looked for: its flat file, or a language file in its
folder. -/
def LooksAt (dir : Path) (locale : String) (place : Place) : Prop :=
  place = (dir.join (locale ++ ".yaml")).place ∨
    ∃ name, isYamlName name = true ∧ place = (dir.join locale).place ++ [name]

/-- The paths where the texts of a locale are looked for are steady. -/
structure LooksSteadily (t : FileTree) (dir : Path) (locale : String) : Prop where
  /-- the path of the flat file -/
  flat : t.Steady (dir.join (locale ++ ".yaml"))
  /-- the path of the folder -/
  folder : t.Steady (dir.join locale)

theorem ne_of_yamlName {name : String} (h : isYamlName name = true) :
    name ≠ "" ∧ name ≠ "." ∧ name ≠ ".." := by
  have hlast := last_of_yamlName h
  refine ⟨?_, ?_, ?_⟩ <;>
  · rintro rfl
    exact absurd hlast (by decide)

/-- The flat file has the name of a language file. -/
theorem exists_flat_place (dir : Path) (locale : String) : ∃ here name,
    (dir.join (locale ++ ".yaml")).place = here ++ [name] ∧ isYamlName name = true := by
  obtain ⟨front, last, hsplit⟩ :=
    Text.exists_splitChars_append (show '/' ∉ ".yaml".toList by decide) locale.toList
  obtain ⟨name, hname⟩ : ∃ name, String.ofList (last ++ ".yaml".toList) = name := ⟨_, rfl⟩
  have hyaml : isYamlName name = true := by
    rw [← hname, isYamlName, ← String.endsWith_toSlice, String.Slice.endsWith_string_iff]
    simp
  obtain ⟨hempty, hdot, hup⟩ := ne_of_yamlName hyaml
  -- whatever separators the locale holds, the ending stays with what is behind the last one
  have hkept : Path.names (locale ++ ".yaml") =
      ((front.map String.ofList).filter fun p => p ≠ "" && p ≠ ".") ++ [name] := by
    rw [Path.names, Text.split, String.toList_append, hsplit, List.map_append, List.filter_append,
      List.map_singleton, hname]
    exact congrArg _ (List.filter_cons_of_pos (by simp [hempty, hdot]))
  have hparts : ∃ ps, (dir.join (locale ++ ".yaml")).parts = ps ++ [name] := by
    rw [Path.join, hkept]
    split
    · exact ⟨_, rfl⟩
    · exact ⟨_, (List.append_assoc _ _ _).symm⟩
  obtain ⟨ps, hps⟩ := hparts
  refine ⟨Path.placeFrom [] ps, name, ?_, hyaml⟩
  have hback : ".." ∉ [name] := by simpa using hup.symm
  rw [Path.place, hps, Path.placeFrom_append, Path.placeFrom_forward hback]

/-- No language file is looked for where a module is. -/
theorem not_looksAt_module (dir : Path) (locale : String) (here : Place) (name : String) :
    ¬ LooksAt dir locale (here ++ [Project.moduleFile name]) := by
  have hno : ∀ front file, isYamlName file = true →
      here ++ [Project.moduleFile name] ≠ front ++ [file] := by
    intro front file hfile heq
    have hlast := (List.append_inj' heq rfl).2
    rw [List.cons.injEq] at hlast
    rw [← hlast.1, moduleFile_not_yaml] at hfile
    cases hfile
  rintro (hflat | ⟨file, hfile, hfolder⟩)
  · obtain ⟨front, file, hplace, hfile⟩ := exists_flat_place dir locale
    exact hno front file hfile (hflat.trans hplace)
  · exact hno _ file hfile hfolder

end Wording

namespace FileTree

variable {t : FileTree} {p : Path} {place q : Place} {n : FileNode}

/-- The names of what lies at some places in a folder. -/
def namesIn (folder : Place) (places : List Place) : List String :=
  places.filterMap fun place =>
    match Path.namesBelow? folder place with
    | some [name] => some name
    | _ => none

/-- The places of a tree after something has been put in. -/
theorem keys_put (t : FileTree) (q : Place) (n : FileNode) :
    Assoc.keys (t.put q n).nodes = Assoc.keys t.nodes ∨
      q ∉ Assoc.keys t.nodes ∧ Assoc.keys (t.put q n).nodes = Assoc.keys t.nodes ++ [q] := by
  rw [put, Assoc.keys_put]
  split
  · exact .inl rfl
  · next h => exact .inr ⟨h, rfl⟩

theorem items_names (hwf : t.WellFormed) (hsteady : t.Steady p) :
    (t.items p).map Prod.fst = namesIn p.place (Assoc.keys t.nodes) := by
  rw [items_of_steady hwf hsteady, namesIn, below, Assoc.keys, List.filterMap_map,
    List.filterMap_filterMap, List.map_filterMap]
  refine congrFun (congrArg _ (funext fun k => ?_)) _
  simp only [Function.comp, Path.namesBelow?]
  rcases Path.dropFront? p.place k.1 with _ | _ | ⟨name, _ | _⟩ <;> rfl

/-- A steady path finds something else only where it leads to the change. -/
theorem find?_put (hwf : t.WellFormed) (hadmits : t.Admits q n) (hsteady : t.Steady p) :
    (t.put q n).find? p = if p.place = q then some n else t.find? p := by
  have hsteady' := hsteady.of_keepsFolders (keepsFolders_put hadmits.free n)
  rw [find?_of_steady (hwf.put hadmits) hsteady', find?_of_steady hwf hsteady,
    at?_put hadmits.ne_root]

end FileTree

namespace Wording

section Put

variable {t : FileTree} {dir : Path} {q : Place} {n : FileNode}

theorem yamlFiles_eq (t : FileTree) (dir : Path) : yamlFiles t dir =
    ((((t.items dir).map Prod.fst).filter isYamlName).map dir.child).mergeSort Path.le := by
  rw [yamlFiles, List.filter_map, List.map_map]
  rfl

theorem loadPairs_congr {u : FileTree} {file : Path} (hfind : u.find? file = t.find? file)
    (hhas : t.has file = true) : loadPairs u file = loadPairs t file := by
  rw [loadPairs, loadPairs, loadYaml, loadYaml, FileTree.readText_congr hfind hhas]

theorem foldlM_congr {α β ε : Type} {f g : β → α → Except ε β} {l : List α}
    (h : ∀ a ∈ l, ∀ b, f b a = g b a) (b : β) : l.foldlM f b = l.foldlM g b := by
  induction l generalizing b with
  | nil => rfl
  | cons a l ih =>
    rw [List.foldlM_cons, List.foldlM_cons, h a (by simp)]
    exact congrArg _ (funext fun c => ih (fun x hx => h x (by simp [hx])) c)

section Files

variable (hwf : t.WellFormed) (hsteady : t.Steady dir)
include hwf hsteady

theorem mem_yamlFiles {file : Path} (h : file ∈ yamlFiles t dir) : ∃ name,
    isYamlName name = true ∧ file = dir.child name ∧ t.at? (dir.place ++ [name]) ≠ none := by
  rw [yamlFiles_eq, FileTree.items_names hwf hsteady, List.mem_mergeSort] at h
  obtain ⟨name, hname, rfl⟩ := List.mem_map.mp h
  obtain ⟨hname, hyaml⟩ := List.mem_filter.mp hname
  obtain ⟨k, hk, hbelow⟩ := List.mem_filterMap.mp hname
  split at hbelow
  · next single hsingle =>
    cases hbelow
    rw [(Path.namesBelow?_eq_some.mp hsingle).1] at hk
    exact ⟨name, hyaml, rfl, FileTree.at?_ne_none_of_mem hk⟩
  · cases hbelow

/-- Where no folder is, there are no language files. -/
theorem yamlFiles_of_not_folder (h : t.isFolder dir = false) : yamlFiles t dir = [] := by
  have hplace : t.at? dir.place ≠ some .folder := by
    intro hfolder
    rw [FileTree.isFolder, FileTree.find?_of_steady hwf hsteady, hfolder] at h
    cases h
  rw [yamlFiles, FileTree.items_of_steady hwf hsteady, hwf.below_eq_nil hplace]
  exact List.mergeSort_nil

end Files

variable (hwf : t.WellFormed) (hadmits : t.Admits q n)
include hwf hadmits

/-- The language files in a folder stay the same when something comes where none of them is looked
for. -/
theorem yamlFiles_put (hsteady : t.Steady dir)
    (hq : ∀ name, isYamlName name = true → q ≠ dir.place ++ [name]) :
    yamlFiles (t.put q n) dir = yamlFiles t dir := by
  have hsteady' := hsteady.of_keepsFolders (FileTree.keepsFolders_put hadmits.free n)
  rw [yamlFiles_eq, yamlFiles_eq, FileTree.items_names (hwf.put hadmits) hsteady',
    FileTree.items_names hwf hsteady]
  rcases FileTree.keys_put t q n with hkeys | ⟨-, hkeys⟩
  · rw [hkeys]
  · have hnone : (FileTree.namesIn dir.place [q]).filter isYamlName = [] := by
      rw [List.filter_eq_nil_iff]
      intro name hname hyaml
      obtain ⟨k, hk, hbelow⟩ := List.mem_filterMap.mp hname
      rcases List.mem_singleton.mp hk with rfl
      split at hbelow
      · next single hsingle =>
        cases hbelow
        exact hq name hyaml (Path.namesBelow?_eq_some.mp hsingle).1
      · cases hbelow
    rw [hkeys, FileTree.namesIn, List.filterMap_append, List.filter_append]
    rw [FileTree.namesIn] at hnone
    rw [hnone, List.append_nil]
    rfl

/-- The texts of a locale stay the same when something comes where none of its files is looked
for. -/
theorem loadCatalog_put {locale : String} (hlook : LooksSteadily t dir locale)
    (hq : ¬ LooksAt dir locale q) :
    loadCatalog (t.put q n) dir locale = loadCatalog t dir locale := by
  have hflat : flatPairs (t.put q n) dir locale = flatPairs t dir locale := by
    have hfind := FileTree.find?_put hwf hadmits hlook.flat
    rw [if_neg fun h => hq (.inl h.symm)] at hfind
    rw [flatPairs, flatPairs, FileTree.has, FileTree.has, hfind]
    split
    · next hhas => exact loadPairs_congr hfind hhas
    · rfl
  have hyaml : ∀ name, isYamlName name = true → q ≠ (dir.join locale).place ++ [name] :=
    fun name hname h => hq (.inr ⟨name, hname, h⟩)
  have hfiles := yamlFiles_put hwf hadmits hlook.folder hyaml
  rw [loadCatalog, loadCatalog, hflat]
  refine congrArg _ (funext fun pairs => ?_)
  dsimp only
  cases hfolder : t.isFolder (dir.join locale) with
  | true =>
    have hfolder' :=
      FileTree.isFolder_of_keepsFolders (FileTree.keepsFolders_put hadmits.free n) hfolder
    rw [hfolder', if_pos rfl, if_pos rfl, hfiles]
    refine foldlM_congr (fun file hfile catalog => ?_) _
    -- each of the files is found as before
    obtain ⟨name, hname, rfl, hsome⟩ := mem_yamlFiles hwf hlook.folder hfile
    have hback := (ne_of_yamlName hname).2.2
    have hsteady := hlook.folder.append (q := (dir.join locale).child name) rfl
      (by simpa using hback.symm)
    have hplace := Path.place_child hback (p := dir.join locale)
    have hfind := FileTree.find?_put hwf hadmits hsteady
    rw [if_neg fun h => hyaml name hname (by rw [← h, hplace])] at hfind
    have hhas : t.has ((dir.join locale).child name) = true := by
      rw [FileTree.has, FileTree.find?_of_steady hwf hsteady, hplace]
      exact Option.isSome_iff_ne_none.mpr hsome
    rw [loadPairs_congr hfind hhas]
  | false =>
    -- if the folder is new, it is empty
    rw [hfiles, yamlFiles_of_not_folder hwf hlook.folder hfolder]
    split <;> rfl

end Put

end Wording

/-! ## Source files -/

namespace FileTree

variable {t u : FileTree} {p : Path} {place q : Place} {n : FileNode}

/-- What a file declares depends on nothing but what is found there. -/
theorem declaredIn_congr (hfind : u.find? p = t.find? p) (markers : List String)
    (module : String) : u.declaredIn markers p module = t.declaredIn markers p module := by
  cases hhas : t.has p with
  | true => rw [declaredIn, declaredIn, readText_congr hfind hhas]
  | false =>
    have hnone : t.find? p = none := by simpa [has] using hhas
    obtain ⟨e, he⟩ := @exists_readText_error t p (by simp [hnone])
    obtain ⟨e', he'⟩ := @exists_readText_error u p (by simp [hfind, hnone])
    rw [declaredIn, declaredIn, he, he']

theorem declaredIn_of_not_file (h : ∀ content, t.find? p ≠ some (.file content))
    (markers : List String) (module : String) : t.declaredIn markers p module = [] := by
  obtain ⟨e, he⟩ := exists_readText_error h
  rw [declaredIn, he]

/-- The paths of all that lies below the folder where a path leads, as they come. -/
def pathsBelow (t : FileTree) (p : Path) : List Path :=
  ((Assoc.keys t.nodes).filterMap (Path.namesBelow? p.place)).map fun names =>
    { p with parts := p.parts ++ names }

theorem everything_paths (hwf : t.WellFormed) (hsteady : t.Steady p) :
    (t.everything p).map Prod.fst = (t.pathsBelow p).mergeSort Path.le := by
  rw [everything_of_steady hwf hsteady, pathsBelow, ← below_names, List.map_map]
  rfl

theorem mem_pathsBelow (hwf : t.WellFormed) {file : Path} (h : file ∈ t.pathsBelow p) :
    ∃ names, names ≠ [] ∧ ".." ∉ names ∧ file.parts = p.parts ++ names ∧
      t.at? (p.place ++ names) ≠ none := by
  obtain ⟨names, hnames, rfl⟩ := List.mem_map.mp h
  obtain ⟨k, hk, hbelow⟩ := List.mem_filterMap.mp hnames
  obtain ⟨rfl, hne⟩ := Path.namesBelow?_eq_some.mp hbelow
  have hforward := hwf.forward _ hk
  exact ⟨names, hne, fun hback => hforward (by simp [hback]), rfl, at?_ne_none_of_mem hk⟩

/-- Nothing is below what is no folder. -/
theorem pathsBelow_of_not_folder (hwf : t.WellFormed) (h : t.at? p.place ≠ some .folder) :
    t.pathsBelow p = [] := by
  rw [pathsBelow, ← below_names, hwf.below_eq_nil h]
  rfl

/-- A new path below a folder is that of the change. -/
theorem pathsBelow_put (t : FileTree) (p : Path) (q : Place) (n : FileNode) :
    (t.put q n).pathsBelow p = t.pathsBelow p ∨ ∃ names, names ≠ [] ∧ q = p.place ++ names ∧
      (t.put q n).pathsBelow p = t.pathsBelow p ++ [{ p with parts := p.parts ++ names }] := by
  rw [pathsBelow, pathsBelow]
  rcases keys_put t q n with hkeys | ⟨-, hkeys⟩
  · exact .inl (by rw [hkeys])
  · rw [hkeys, List.filterMap_append, List.map_append]
    cases hbelow : Path.namesBelow? p.place q with
    | none => exact .inl (by simp [hbelow])
    | some names =>
      obtain ⟨hq, hne⟩ := Path.namesBelow?_eq_some.mp hbelow
      exact .inr ⟨names, hne, hq, by simp [hbelow]⟩

end FileTree

namespace Discovery

variable (d : Discovery) (root : Path) {t : FileTree} {p : Path} {q : Place} {n : FileNode}

/-- What comes from something below a path: what it declares if it is a source file that is not
passed over. -/
def fromBelow (t : FileTree) (p file : Path) : List FoundEnum :=
  if file.name.endsWith ".py" && !(((Path.under? p file).getD []).dropLast.any d.passesOver) then
    d.declared root t file
  else []

theorem declared_congr {u : FileTree} {file : Path} (hfind : u.find? file = t.find? file) :
    d.declared root u file = d.declared root t file := by
  rw [declared, declared]
  split
  · rfl
  · exact FileTree.declaredIn_congr hfind _ _

theorem declared_of_not_file {file : Path} (h : ∀ content, t.find? file ≠ some (.file content)) :
    d.declared root t file = [] := by
  rw [declared]
  split
  · rfl
  · exact FileTree.declaredIn_of_not_file h _ _

theorem fromBelow_module {file : Path} {name : String}
    (h : file.name = Project.moduleFile name) : d.fromBelow root t p file = [] := by
  rw [fromBelow, h, moduleFile_not_source]
  rfl

theorem flatMap_filter_eq {α β : Type} (l : List α) (keep : α → Bool) (f : α → List β) :
    (l.filter keep).flatMap f = l.flatMap fun a => if keep a then f a else [] := by
  induction l with
  | nil => rfl
  | cons a l ih =>
    rw [List.flatMap_cons, ← ih]
    cases hkeep : keep a with
    | true =>
      rw [List.filter_cons_of_pos hkeep]
      rfl
    | false =>
      rw [List.filter_cons_of_neg (by simp [hkeep])]
      rfl

/-- The enumerations below a path, from its file or from what lies below its folder. -/
theorem foundAt_eq (hwf : t.WellFormed) (hsteady : t.Steady p) (hroot : d.root = some root) :
    d.foundAt t p =
      if t.isFile p then (if p.ending = ".py" then d.declared root t p else [])
      else ((t.pathsBelow p).mergeSort Path.le).flatMap (d.fromBelow root t p) := by
  have hfind := FileTree.find?_of_steady hwf hsteady
  rw [foundAt_unfold, hroot, Option.getD_some, sourceFiles]
  cases hfile : t.isFile p with
  | true =>
    have hhas : t.has p = true := by
      rw [FileTree.isFile] at hfile
      rw [FileTree.has]
      split at hfile
      · next content h => simp [h]
      · cases hfile
    rw [hhas]
    by_cases hending : p.ending = ".py" <;> simp [hending]
  | false =>
    rw [FileTree.everything_paths hwf hsteady]
    simp only [Bool.false_eq_true, if_false, flatMap_filter_eq]
    cases hhas : t.has p with
    | true => rfl
    | false =>
      have hnone : t.at? p.place = none := by
        rw [← hfind]
        simpa [FileTree.has] using hhas
      rw [FileTree.pathsBelow_of_not_folder hwf (by simp [hnone]), List.mergeSort_nil]
      rfl

section Put

variable (hwf : t.WellFormed) (hadmits : t.Admits q n)
  (hmodule : n ≠ .folder → ∃ here name, q = here ++ [Project.moduleFile name])
include hwf hadmits hmodule

/-- What comes from a path below a folder is the same as before. -/
theorem fromBelow_put (hsteady : t.Steady p) {file : Path} (hfile : file ∈ t.pathsBelow p) :
    d.fromBelow root (t.put q n) p file = d.fromBelow root t p file := by
  obtain ⟨names, hne, hforward, hparts, hsome⟩ := FileTree.mem_pathsBelow hwf hfile
  have hplace : file.place = p.place ++ names := Path.place_append hparts hforward
  have hfind := FileTree.find?_put hwf hadmits (hsteady.append hparts hforward)
  by_cases hq : file.place = q
  · -- a file is written over, so it is a module
    have hnew : n ≠ .folder := fun h => hsome (by rw [← hplace, hq, hadmits.new h])
    obtain ⟨here, name, hmod⟩ := hmodule hnew
    have hname := Path.name_of_place hparts hne hforward (hq.trans hmod)
    rw [fromBelow_module d root hname, fromBelow_module d root hname]
  · rw [if_neg hq] at hfind
    rw [fromBelow, fromBelow, declared_congr d root hfind]

/-- Nothing comes from a path that is new. -/
theorem fromBelow_new (hsteady : t.Steady p) {names : List String} (hne : names ≠ [])
    (hq : q = p.place ++ names) :
    d.fromBelow root (t.put q n) p { p with parts := p.parts ++ names } = [] := by
  have hforward : ".." ∉ names := by
    have hmem : q ∈ Assoc.keys (t.put q n).nodes :=
      FileTree.mem_keys_of_at? hadmits.ne_root (by simp [FileTree.at?_put hadmits.ne_root])
    have hback := (hwf.put hadmits).forward q hmem
    rw [hq] at hback
    exact fun h => hback (by simp [h])
  have hplace : ({ p with parts := p.parts ++ names } : Path).place = q :=
    (Path.place_append rfl hforward).trans hq.symm
  cases n with
  | file content =>
    obtain ⟨here, name, hmod⟩ := hmodule (by simp)
    exact fromBelow_module d root (Path.name_of_place rfl hne hforward (hplace.trans hmod))
  | folder =>
    have hfind := FileTree.find?_put hwf hadmits
      (hsteady.append (q := { p with parts := p.parts ++ names }) rfl hforward)
    rw [if_pos hplace] at hfind
    rw [fromBelow, declared_of_not_file d root (by simp [hfind])]
    split <;> rfl

/-- What lies below a path gives the same as before. -/
theorem flatMap_below_put (hsteady : t.Steady p) :
    (((t.put q n).pathsBelow p).mergeSort Path.le).flatMap (d.fromBelow root (t.put q n) p) =
      ((t.pathsBelow p).mergeSort Path.le).flatMap (d.fromBelow root t p) := by
  have hold : ((t.pathsBelow p).mergeSort Path.le).flatMap (d.fromBelow root (t.put q n) p) =
      ((t.pathsBelow p).mergeSort Path.le).flatMap (d.fromBelow root t p) :=
    List.flatMap_congr fun file hfile =>
      fromBelow_put d root hwf hadmits hmodule hsteady (List.mem_mergeSort.mp hfile)
  rcases FileTree.pathsBelow_put t p q n with hsame | ⟨names, hne, hq, hmore⟩
  · rw [hsame, hold]
  · have hnew := fromBelow_new d root hwf hadmits hmodule hsteady hne hq
    rw [hmore, Path.flatMap_mergeSort_concat hnew, hold]
    intro file hfile
    obtain ⟨names, -, rfl⟩ := List.mem_map.mp hfile
    rfl

/-- The enumerations below a path are the same as before. -/
theorem foundAt_put (hsteady : t.Steady p) (hroot : d.root = some root) :
    d.foundAt (t.put q n) p = d.foundAt t p := by
  have hkeeps := FileTree.keepsFolders_put hadmits.free n
  have hfind := FileTree.find?_put hwf hadmits hsteady
  have hbelow := flatMap_below_put d root hwf hadmits hmodule hsteady
  rw [foundAt_eq d root (hwf.put hadmits) (hsteady.of_keepsFolders hkeeps) hroot,
    foundAt_eq d root hwf hsteady hroot, hbelow]
  by_cases hq : p.place = q
  · have hold := FileTree.find?_of_steady hwf hsteady
    rw [if_pos hq] at hfind
    rw [hq] at hold
    cases n with
    | folder =>
      have hnone : t.find? p = none := hold.trans (hadmits.new rfl)
      simp [FileTree.isFile, hfind, hnone]
    | file content =>
      -- the path leads to a module, and nothing is below it
      obtain ⟨here, name, hmod⟩ := hmodule (by simp)
      have hfree : t.at? p.place ≠ some .folder := hq ▸ hadmits.free
      have hname := FileTree.name_of_steady hwf hsteady hfree (hq.trans hmod)
      have hending : p.ending ≠ ".py" := by
        intro hpy
        have hlast := last_of_splitName hpy
        rw [hname, last_of_moduleFile] at hlast
        cases hlast
      rw [FileTree.pathsBelow_of_not_folder hwf hfree]
      simp [hending]
  · rw [if_neg hq] at hfind
    rw [declared_congr d root hfind, FileTree.isFile, FileTree.isFile, hfind]

/-- The names of the enumerations that are discovered are the same as before. -/
theorem names_put (hsteady : ∀ p ∈ d.paths, t.Steady p) (hroot : d.root = some root) :
    d.names (t.put q n) = d.names t := by
  have hall : d.paths.flatMap (d.foundAt (t.put q n)) = d.paths.flatMap (d.foundAt t) :=
    List.flatMap_congr fun p hp => foundAt_put d root hwf hadmits hmodule (hsteady p hp) hroot
  rw [names, names, scan, scan, hall]

end Put

end Discovery

/-! ## The registry -/

section Same

variable {t u : FileTree} {r : LabelResolver} {locale : Value}

theorem translate_congr {translator : Wording.Translator}
    (h : translator.catalog u locale = translator.catalog t locale) (key : String)
    (params : List (Value × Value)) :
    translator.translate u key params locale = translator.translate t key params locale := by
  rw [Wording.Translator.translate, Wording.Translator.translate, h]

variable (hlocales : ∀ l ∈ r.locales,
    r.translator.catalog u (.text l) = r.translator.catalog t (.text l))
  (hasked : r.translator.catalog u (r.localeOr locale) = r.translator.catalog t (r.localeOr locale))
include hlocales

theorem localizedTexts_congr (key : String) (params : List (Value × Value)) :
    r.localizedTexts u key params = r.localizedTexts t key params := by
  rw [LabelResolver.localizedTexts, LabelResolver.localizedTexts]
  generalize r.locales = locales at hlocales
  induction locales with
  | nil => rfl
  | cons l locales ih =>
    rw [List.mapM_cons, List.mapM_cons, translate_congr (hlocales l (by simp)),
      ih fun k hk => hlocales k (by simp [hk])]

include hasked

/-- Labels depend on the files only through the catalogs of their locales. -/
theorem resolve_congr (case : String) (notes : CaseNotes) (owner : String) :
    r.resolve u case notes owner locale = r.resolve t case notes owner locale := by
  rw [LabelResolver.resolve, LabelResolver.resolve]
  simp only [localizedTexts_congr hlocales, translate_congr hasked]

theorem casesFrom_congr (c : ClassDef) (ms : List Member) :
    c.casesFrom u r locale ms = c.casesFrom t r locale ms := by
  induction ms with
  | nil => rfl
  | cons m ms ih => rw [ClassDef.casesFrom, ClassDef.casesFrom, resolve_congr hlocales hasked, ih]

theorem entry_congr (c : ClassDef) (name : Option String) :
    c.entry u r locale name = c.entry t r locale name := by
  unfold ClassDef.entry
  rw [casesFrom_congr hlocales hasked]

omit hlocales hasked in
/-- A class without the mark describes itself without any file. -/
theorem describe_congr (c : ClassDef) (locale : Value) :
    c.describe u {} locale = c.describe t {} locale := by
  have hsame : ∀ name, c.entry u {} locale name = c.entry t {} locale name :=
    entry_congr (t := t) (u := u) (r := {}) (fun _ _ => rfl) rfl c
  rw [ClassDef.describe, ClassDef.describe]
  simp only [hsame]

/-- A registry builds the same from files in which it finds the same catalogs. -/
theorem build_congr {registry : Registry} (hfiles : registry.files = t)
    (hresolver : registry.resolver = r) :
    ({ registry with files := u } : Registry).build locale = registry.build locale := by
  have hentry : ∀ name c, ({ registry with files := u } : Registry).entryOf locale name c =
      registry.entryOf locale name c := by
    intro name c
    rw [Registry.entryOf, Registry.entryOf, hresolver, hfiles, entry_congr hlocales hasked,
      describe_congr c locale]
  have hadd : ({ registry with files := u } : Registry).addEntry locale =
      registry.addEntry locale := by
    funext result p
    rw [Registry.addEntry, Registry.addEntry]
    simp only [hentry]
  rw [Registry.build, Registry.build, hadd]
  rfl

end Same

namespace Project

variable (p : Project) (locales : List String)

/-- What an export for some locales puts into a tree: folders where no language file is looked for,
and modules. -/
def Puts (place : Place) : FileNode → Prop
  | .folder => ∀ l ∈ locales ++ p.settings.output.locales, ¬ Wording.LooksAt p.langFolder l place
  | .file _ => ∃ here name, place = here ++ [moduleFile name]

/-- The paths that an export for some locales reads are steady. -/
structure ReadsSteadily (t : FileTree) : Prop where
  /-- those where enumerations are discovered -/
  sources : p.settings.discovery.enabled = true → ∀ path ∈ p.discovery.paths, t.Steady path
  /-- those where texts are looked for -/
  texts : ∀ l ∈ locales ++ p.settings.output.locales, Wording.LooksSteadily t p.langFolder l

variable {p locales} {t s : FileTree} {place : Place} {n : FileNode}

theorem ReadsSteadily.of_keepsFolders (h : p.ReadsSteadily locales t)
    (hkeeps : t.KeepsFolders s) : p.ReadsSteadily locales s where
  sources := fun henabled path hpath => (h.sources henabled path hpath).of_keepsFolders hkeeps
  texts := fun l hl => ⟨(h.texts l hl).flat.of_keepsFolders hkeeps,
    (h.texts l hl).folder.of_keepsFolders hkeeps⟩

theorem Puts.not_looksAt (h : p.Puts locales place n) :
    ∀ l ∈ locales ++ p.settings.output.locales, ¬ Wording.LooksAt p.langFolder l place := by
  cases n with
  | folder => exact h
  | file content =>
    obtain ⟨here, name, rfl⟩ := h
    exact fun l _ => Wording.not_looksAt_module p.langFolder l here name

theorem Puts.module (h : p.Puts locales place n) (hn : n ≠ .folder) :
    ∃ here name, place = here ++ [moduleFile name] := by
  cases n with
  | folder => exact absurd rfl hn
  | file content => exact h

/-- **An export does not notice what it puts into a tree.** -/
theorem builtFor_put {request : ExportRequest} {l : String} (hl : l ∈ locales) (hne : l ≠ "")
    (hrequest : request.locale = some l) (hwf : t.WellFormed) (hreads : p.ReadsSteadily locales t)
    (hadmits : t.Admits place n) (hputs : p.Puts locales place n) :
    p.builtFor request (t.put place n) = p.builtFor request t := by
  have hlocale : p.localeFor request = .text l := by
    rw [localeFor, hrequest]
    exact if_neg hne
  have hcatalog : ∀ k ∈ locales ++ p.settings.output.locales,
      p.translator.catalog (t.put place n) (.text k) = p.translator.catalog t (.text k) := by
    intro k hk
    have hload := Wording.loadCatalog_put hwf hadmits (hreads.texts k hk) (hputs.not_looksAt k hk)
    simp only [translator, Wording.Translator.catalog, Wording.catalogIn, Value.asText?, hload]
  have hnames : p.settings.discovery.enabled = true →
      p.discovery.names (t.put place n) = p.discovery.names t := fun henabled =>
    Discovery.names_put p.discovery p.dir hwf hadmits hputs.module (hreads.sources henabled) rfl
  have hregistry : p.registry (t.put place n) = { p.registry t with files := t.put place n } := by
    rw [registry, registry]
    cases henabled : p.settings.discovery.enabled with
    | false => rfl
    | true => simp only [hnames henabled]
  have hasked : p.resolver.localeOr (.text l) = .text l := by
    have htruthy : (Value.text l).truthy = true := by simpa [Value.truthy] using hne
    rw [LabelResolver.localeOr, if_pos htruthy]
  rw [builtFor, builtFor, hregistry, hlocale]
  refine build_congr (r := p.resolver) ?_ ?_ rfl rfl
  · exact fun k hk => hcatalog k (List.mem_append_right _ hk)
  · rw [hasked]
    exact hcatalog l (List.mem_append_left _ hl)

/-- However much it has put into a tree, an export builds what it would have built before. -/
theorem builtFor_grown {request : ExportRequest} {l : String} (hl : l ∈ locales) (hne : l ≠ "")
    (hrequest : request.locale = some l) (hwf : t.WellFormed) (hreads : p.ReadsSteadily locales t)
    (hgrown : FileTree.Grown (p.Puts locales) t s) :
    p.builtFor request s = p.builtFor request t := by
  induction hgrown with
  | same => rfl
  | put hgrown hadmits hputs ih =>
    have hreads' := hreads.of_keepsFolders hgrown.keepsFolders
    rw [builtFor_put hl hne hrequest (hgrown.wellFormed hwf) hreads' hadmits hputs, ih]

end Project

end EnumExport
