import EnumExport.Class.Validity
import EnumExport.Text.Split

/-!
# What dotted names lead to

A dotted name is read as a module and a path of attributes in it, with the module as long as can be:
`resolveWithin_of_none`, `resolveWithin_of_some`. So two things decide where the path of a module
leads.

* If nothing that the path names first is a module itself, the longer fronts are not there, and what
  the module holds under the path is found: `resolveWithin_of_free`.
* If the import of the module fails, so does that of every longer front, with the same fault:
  `importFault?_below`. Unless this says that the module is not there, it stands:
  `resolveWithin_of_fault`.
-/

namespace EnumExport.Modules

/-- What a module holds under a path of names: its attribute, and from there one attribute after the
other. No name of a path holds a point. -/
inductive Reaches (ms : Modules) (module : String) : List String → Found → Prop
  /-- an attribute of the module -/
  | start {m : ModuleDef} {name : String} {f : Found} (hname : '.' ∉ name.toList)
      (hmodule : (ms.find? fun m => m.name == module) = some m) (h : attribute? m name = some f) :
      Reaches ms module [name] f
  /-- an attribute of what is reached -/
  | step {path : List String} {name : String} {f g : Found} (hname : '.' ∉ name.toList)
      (hpath : Reaches ms module path f) (h : ms.follow? f name = some g) :
      Reaches ms module (path ++ [name]) g

/-- What can be the name of a module: importing takes no empty name, and takes a point in front for
something else. -/
def IsModuleName (name : String) : Prop := name ≠ "" ∧ name.startsWith "." = false

/-- Whether a name is that of a module or of a package around it. -/
def IsAt (name module : String) : Prop := name = module ∨ ∃ rest, module = name ++ "." ++ rest

/-- The name of what lies below a module under a path. -/
def below (module : String) (path : List String) : String := ".".intercalate (module :: path)

variable {ms : Modules} {module : String} {path : List String}

/-! ## Names below a module -/

theorem isPrefixOf_iff {front name : String} :
    front.isPrefixOf name = true ↔ ∃ rest, name = front ++ rest := by
  rw [String.isPrefixOf, String.startsWith_string_iff]
  constructor
  · rintro ⟨rest, hrest⟩
    exact ⟨String.ofList rest, by rw [← String.toList_inj]; simp [hrest]⟩
  · rintro ⟨rest, rfl⟩
    exact ⟨rest.toList, by simp⟩

theorem below_nil (module : String) : below module [] = module := String.intercalate_singleton

theorem below_take_zero : below module (path.take 0) = module := below_nil module

theorem below_append {rest : List String} (h : rest ≠ []) :
    below module (path ++ rest) = below module path ++ "." ++ ".".intercalate rest := by
  rw [below, ← List.cons_append, String.intercalate_append_of_ne_nil (by simp) h]
  rfl

theorem intercalate_split_append (module : String) (path : List String) :
    ".".intercalate (Text.split '.' module ++ path) = below module path := by
  cases path with
  | nil => rw [List.append_nil, Text.intercalate_split, below_nil]
  | cons name rest =>
    rw [String.intercalate_append_of_ne_nil (Text.split_ne_nil module) (by simp),
      Text.intercalate_split, below, String.intercalate_cons_cons]

theorem split_below (h : ∀ name ∈ path, '.' ∉ name.toList) :
    Text.split '.' (below module path) = Text.split '.' module ++ path := by
  cases path with
  | nil => rw [below_nil, List.append_nil]
  | cons name rest =>
    rw [below, String.intercalate_cons_cons, Text.split_append_point,
      Text.split_intercalate (by simp) h]

theorem isModuleName_of_importFault? (h : ms.importFault? module = none) :
    IsModuleName module := by
  rw [importFault?] at h
  split at h
  · cases h
  · next hne =>
    split at h
    · cases h
    · next hpoint => exact ⟨hne, Bool.eq_false_iff.mpr hpoint⟩

theorem isModuleName_below (h : IsModuleName module) (path : List String) :
    IsModuleName (below module path) := by
  cases path with
  | nil => rwa [below_nil]
  | cons name rest =>
    obtain ⟨hne, hpoint⟩ := h
    -- the name of the module is not empty, so it is the module's name that the text begins with
    obtain ⟨c, cs, hcs⟩ := List.exists_cons_of_ne_nil (mt String.toList_eq_nil_iff.mp hne)
    have hc : c ≠ '.' := by
      rintro rfl
      have hstart : module.startsWith "." = true := by
        rw [String.startsWith_string_iff, hcs]
        exact ⟨cs, rfl⟩
      rw [hstart] at hpoint
      cases hpoint
    have hbelow : (below module (name :: rest)).toList =
        c :: (cs ++ ("." ++ ".".intercalate (name :: rest)).toList) := by
      rw [below, String.intercalate_cons_cons, String.append_assoc, String.toList_append, hcs,
        List.cons_append]
    refine ⟨?_, ?_⟩
    · intro hempty
      rw [hempty] at hbelow
      cases hbelow
    · rw [Bool.eq_false_iff]
      intro hstart
      rw [String.startsWith_string_iff, hbelow] at hstart
      obtain ⟨_, hprefix⟩ := hstart
      exact hc (List.cons.inj hprefix).1.symm

/-! ## Imports -/

theorem fronts_append (parts more : List String) : fronts (parts ++ more) =
    fronts parts ++ (List.range more.length).map fun n =>
      ".".intercalate (parts ++ more.take (n + 1)) := by
  rw [fronts, fronts, List.length_append, List.range_add, List.map_append, List.map_map]
  congr 1
  · apply List.map_congr_left
    intro n hn
    rw [List.take_append_of_le_length (List.mem_range.mp hn)]
  · apply List.map_congr_left
    intro n _
    rw [Function.comp_apply, Nat.add_assoc, List.take_length_add_append]

/-- The import of what lies below a module imports the module first. -/
theorem importFault?_below (hmodule : IsModuleName module) (h : ∀ name ∈ path, '.' ∉ name.toList) :
    ms.importFault? (below module path) = (ms.importFault? module).or
      (((List.range path.length).map fun n => below module (path.take (n + 1))).findSome?
        ms.ownFault?) := by
  obtain ⟨hne, hpoint⟩ := hmodule
  obtain ⟨hbelow, hbelowpoint⟩ := isModuleName_below ⟨hne, hpoint⟩ path
  rw [importFault?, importFault?, if_neg hne, if_neg hbelow, hpoint, hbelowpoint, split_below h,
    fronts_append, List.findSome?_append]
  simp only [Bool.false_eq_true, if_false, intercalate_split_append]

theorem saysMissing_iff {fault : ImportFault} :
    saysMissing fault module = true ↔ ∃ n, fault = .noModule n ∧ IsAt n module := by
  cases fault with
  | noModule n => simp [saysMissing, IsAt, isPrefixOf_iff, String.append_assoc]
  | emptyName | relative | failed => simp [saysMissing]

theorem saysMissing_below (xs ys : List String) :
    saysMissing (.noModule (below module xs)) (below module (xs ++ ys)) = true := by
  refine saysMissing_iff.mpr ⟨_, rfl, ?_⟩
  by_cases hys : ys = []
  · left
    rw [hys, List.append_nil]
  · right
    exact ⟨_, below_append hys⟩

/-- What lies below a module that can be imported is not there if its first part is not. -/
theorem importFault?_of_free {name : String} {rest : List String}
    (hfault : ms.importFault? module = none) (h : ∀ n ∈ name :: rest, '.' ∉ n.toList)
    (hfree : ms.has (below module [name]) = false) :
    ms.importFault? (below module (name :: rest)) = some (.noModule (below module [name])) := by
  rw [importFault?_below (isModuleName_of_importFault? hfault) h, hfault, Option.none_or,
    List.length_cons, List.range_succ_eq_map, List.map_cons, List.findSome?_cons]
  simp [ownFault?, hfree]

/-! ## Dotted names -/

theorem resolve_below (hne : path ≠ []) (h : ∀ name ∈ path, '.' ∉ name.toList) :
    ms.resolve (below module path) = ms.resolveWithin (Text.split '.' module ++ path)
      ((Text.split '.' module).length + (path.length - 1)) := by
  have hpos := List.length_pos_iff.mpr hne
  rw [resolve, split_below h, List.length_append, Nat.add_sub_assoc hpos]

theorem exists_length_add (module : String) (k : Nat) :
    ∃ n, (Text.split '.' module).length + k = n + 1 := by
  have hpos := List.length_pos_iff.mpr (Text.split_ne_nil module)
  exact ⟨(Text.split '.' module).length + k - 1, by omega⟩

/-- A try that succeeds, as the module under the first names of the path can be imported. -/
theorem resolveWithin_of_none {k : Nat} (h : ms.importFault? (below module (path.take k)) = none) :
    ms.resolveWithin (Text.split '.' module ++ path) ((Text.split '.' module).length + k) =
      .ok (ms.lookup? (below module (path.take k)) (path.drop k)) := by
  obtain ⟨n, hn⟩ := exists_length_add module k
  rw [hn, resolveWithin, ← hn, List.take_length_add_append, List.drop_length_add_append,
    intercalate_split_append, h]

/-- A try that fails. Where the module is not there, a shorter one is tried. -/
theorem resolveWithin_of_some {k : Nat} {fault : ImportFault}
    (h : ms.importFault? (below module (path.take k)) = some fault) :
    ms.resolveWithin (Text.split '.' module ++ path) ((Text.split '.' module).length + k) =
      if saysMissing fault (below module (path.take k)) then
        ms.resolveWithin (Text.split '.' module ++ path) ((Text.split '.' module).length + k - 1)
      else .error fault := by
  obtain ⟨n, hn⟩ := exists_length_add module k
  have hpred : (Text.split '.' module).length + k - 1 = n := by omega
  rw [hpred, hn, resolveWithin, ← hn, List.take_length_add_append, intercalate_split_append, h]

/-- If the first name of a path is no module below the module, every try ends at the module. -/
theorem resolveWithin_of_free {name : String} {rest : List String}
    (hfault : ms.importFault? module = none) (h : ∀ n ∈ name :: rest, '.' ∉ n.toList)
    (hfree : ms.has (below module [name]) = false) (k : Nat) :
    ms.resolveWithin (Text.split '.' module ++ name :: rest)
      ((Text.split '.' module).length + k) = .ok (ms.lookup? module (name :: rest)) := by
  induction k with
  | zero =>
    rw [resolveWithin_of_none (by rwa [below_take_zero]), below_take_zero, List.drop_zero]
  | succ k ih =>
    have hnames : ∀ n ∈ name :: rest.take k, '.' ∉ n.toList := by
      intro n hn
      exact h n (List.cons_subset_cons name (List.take_subset k rest) hn)
    have hfront := importFault?_of_free hfault hnames hfree
    have hmissing : saysMissing (.noModule (below module [name]))
        (below module (name :: rest.take k)) = true := saysMissing_below [name] (rest.take k)
    rw [← List.take_succ_cons] at hfront hmissing
    rw [resolveWithin_of_some hfront, if_pos hmissing]
    exact ih

/-- A fault of the module that does not say that the module is missing ends every try. -/
theorem resolveWithin_of_fault {fault : ImportFault} (hmodule : IsModuleName module)
    (hfault : ms.importFault? module = some fault) (hthere : saysMissing fault module = false)
    (h : ∀ name ∈ path, '.' ∉ name.toList) (k : Nat) :
    ms.resolveWithin (Text.split '.' module ++ path) ((Text.split '.' module).length + k) =
      .error fault := by
  induction k with
  | zero =>
    rw [resolveWithin_of_some (by rwa [below_take_zero]), below_take_zero, hthere,
      if_neg Bool.false_ne_true]
  | succ k ih =>
    have hnames : ∀ n ∈ path.take (k + 1), '.' ∉ n.toList := fun n hn =>
      h n (List.take_subset (k + 1) path hn)
    have hfront : ms.importFault? (below module (path.take (k + 1))) = some fault := by
      rw [importFault?_below hmodule hnames, hfault, Option.some_or]
    rw [resolveWithin_of_some hfront]
    -- the longer front may be what the fault is about; then a shorter one is tried
    split
    · exact ih
    · rfl

/-! ## What is reached -/

/-- The path leads to what is reached. What stands for no attribute leads nowhere. -/
theorem lookup?_of_reaches {f : Found} (h : Reaches ms module path f) :
    f = .value .null ∨ ms.lookup? module path = some f := by
  induction h with
  | start hname hmodule h =>
    rw [lookup?, hmodule, Option.bind_some, h]
    split
    · next hnone => cases hnone
    · next hnull => exact .inl (Option.some.inj hnull)
    · next hsome =>
      cases hsome
      exact .inr rfl
  | @step path name f g hname hpath h ih =>
    right
    rcases ih with rfl | ih
    · cases h
    · cases path with
      | nil => cases ih
      | cons first rest =>
        rw [lookup?] at ih
        rw [List.cons_append, lookup?]
        split at ih
        · cases ih
        · cases ih
        · rw [List.foldlM_append, ih]
          simpa using h

theorem names_of_reaches {f : Found} (h : Reaches ms module path f) :
    path ≠ [] ∧ ∀ name ∈ path, '.' ∉ name.toList := by
  induction h with
  | start hname hmodule h => exact ⟨by simp, by simpa using hname⟩
  | step hname hpath h ih =>
    refine ⟨by simp, ?_⟩
    intro name hmem
    rcases List.mem_append.mp hmem with hmem | hmem
    · exact ih.2 name hmem
    · rwa [List.mem_singleton.mp hmem]

theorem resolve_of_reaches {c : ClassDef} (hfault : ms.importFault? module = none)
    (h : Reaches ms module path (.class c))
    (hfree : ∀ j, 0 < j → j < path.length → ms.has (below module (path.take j)) = false) :
    ms.resolve (below module path) = .ok (some (.class c)) := by
  obtain ⟨hne, hnames⟩ := names_of_reaches h
  have hlookup : ms.lookup? module path = some (.class c) := by
    rcases lookup?_of_reaches h with hnull | hlookup
    · cases hnull
    · exact hlookup
  rw [resolve_below hne hnames, ← hlookup]
  cases path with
  | nil => cases hne rfl
  | cons name rest =>
    cases rest with
    | nil =>
      -- a single name is looked up in the module at once
      rw [List.length_singleton, Nat.sub_self, resolveWithin_of_none (by rwa [below_take_zero]),
        below_take_zero, List.drop_zero]
    | cons next rest =>
      have hfirst : ms.has (below module [name]) = false := hfree 1 Nat.zero_lt_one (by simp)
      exact resolveWithin_of_free hfault hnames hfirst _

theorem resolve_of_fault {fault : ImportFault} (hmodule : IsModuleName module)
    (hfault : ms.importFault? module = some fault)
    (hthere : ∀ n, fault = .noModule n → ¬ IsAt n module) (rest : String) :
    ms.resolve (module ++ "." ++ rest) = .error fault := by
  have hnames : ∀ name ∈ Text.split '.' rest, '.' ∉ name.toList := fun name =>
    Text.point_not_mem_split
  have hbelow : module ++ "." ++ rest = below module (Text.split '.' rest) := by
    rw [← List.nil_append (Text.split '.' rest), below_append (Text.split_ne_nil rest), below_nil,
      Text.intercalate_split]
  have hmissing : saysMissing fault module = false := by
    rw [Bool.eq_false_iff]
    intro hmissing
    obtain ⟨n, hn, hat⟩ := saysMissing_iff.mp hmissing
    exact hthere n hn hat
  rw [hbelow, resolve_below (Text.split_ne_nil rest) hnames]
  exact resolveWithin_of_fault hmodule hfault hmissing hnames _

/-- **Names below a module.** A class that a path of attributes reaches from a module that can be
imported is what the dotted name leads to, if no front of the path is a module itself. And a fault
of importing a module stands for every name below it, unless it says that the module is not there:
such a name is told to be one that cannot be imported, and not one that does not exist. -/
theorem resolve_below_of_import (ms : Modules) (module : String) :
    (ms.importFault? module = none → ∀ path c, Reaches ms module path (.class c) →
      (∀ j, 0 < j → j < path.length → ms.has (below module (path.take j)) = false) →
      ms.resolve (below module path) = .ok (some (.class c))) ∧
    ∀ fault, IsModuleName module → ms.importFault? module = some fault →
      (∀ n, fault = .noModule n → ¬ IsAt n module) → ∀ rest,
      ms.resolve (module ++ "." ++ rest) = .error fault ∧
        ms.validate (.named (module ++ "." ++ rest)) =
          .error (.unimportable (module ++ "." ++ rest) fault.kind fault.message) := by
  refine ⟨fun hfault path c h hfree => resolve_of_reaches hfault h hfree, ?_⟩
  intro fault hmodule hfault hthere rest
  have hresolve := resolve_of_fault hmodule hfault hthere rest
  refine ⟨hresolve, ?_⟩
  rw [validate, found, hresolve]

/-! ## A class in another one -/

/-- An enumeration `Visibility` within a plain class `Internal`. -/
def visibilityClass : ClassDef where
  name := "Visibility"
  qualifiedName := "Internal.Visibility"
  module := "app"
  line := [{ self := .declared "Visibility" }, { self := .marker }, { self := .enumeration },
    { self := .object }]
  table :=
    { names := [("Public", ⟨"Public", .text "public"⟩)], listed := [⟨"Public", .text "public"⟩] }
  notes := []
  keepsValues := false

/-- Its module, and one that needs a module below itself which is not there. -/
def channels : Modules :=
  [{ name := "app", classes := [visibilityClass] },
    { name := "legacy", fault := some (.noModule "legacy.tables") }]

theorem reaches_visibility {ms : Modules}
    (h : (ms.find? fun m => m.name == "app") =
      some { name := "app", classes := [visibilityClass] }) :
    Reaches ms "app" ["Internal", "Visibility"] (.class visibilityClass) := by
  have hholder : attribute? { name := "app", classes := [visibilityClass] } "Internal" =
      some (.holder "app" "Internal") := by
    have hheld : isHeldBy "Internal" visibilityClass = true := by decide +kernel
    simp [attribute?, Assoc.get?, hheld]
    rfl
  have hclass : ms.follow? (.holder "app" "Internal") "Visibility" =
      some (.class visibilityClass) := by
    simp only [follow?, h]
    rfl
  exact .step (by decide) (.start (by decide) h hholder) hclass

theorem resolve_below_of_channels :
    (channels.importFault? "app" = none ∧
      Reaches channels "app" ["Internal", "Visibility"] (.class visibilityClass) ∧
      channels.resolve (below "app" ["Internal", "Visibility"]) =
        .ok (some (.class visibilityClass))) ∧
    channels.importFault? "legacy" = some (.noModule "legacy.tables") ∧
      channels.resolve ("legacy" ++ "." ++ "tables.Row") = .error (.noModule "legacy.tables") := by
  have happ : channels.importFault? "app" = none := by decide +kernel
  have hlegacy : channels.importFault? "legacy" = some (.noModule "legacy.tables") := by
    decide +kernel
  have hreaches : Reaches channels "app" ["Internal", "Visibility"] (.class visibilityClass) :=
    reaches_visibility rfl
  refine ⟨⟨happ, hreaches, ?_⟩, hlegacy, ?_⟩
  · refine (resolve_below_of_import channels "app").1 happ _ _ hreaches ?_
    intro j hpos hj
    obtain rfl : j = 1 := by
      simp at hj
      omega
    decide +kernel
  · refine ((resolve_below_of_import channels "legacy").2 _ ?_ hlegacy ?_ _).1
    · exact ⟨by decide, by decide +kernel⟩
    · rintro n hn hat
      cases hn
      rcases hat with heq | ⟨rest, hrest⟩
      · exact absurd heq (by decide)
      · have hlength := congrArg String.length hrest
        simp only [String.length_append] at hlength
        have hlonger : "legacy".length < "legacy.tables".length := by decide
        omega

/-- The module of the class next to one whose package is called like the plain class. -/
def crowded : Modules :=
  [{ name := "app", classes := [visibilityClass] }, { name := "app.Internal.extra" }]

/-- No module of the name `app.Internal` is declared, but it is the package of one that is; so it is
imported, and the class is not in it. -/
theorem crowded_hides_visibility :
    crowded.importFault? "app" = none ∧
      Reaches crowded "app" ["Internal", "Visibility"] (.class visibilityClass) ∧
      (∀ j, 0 < j → j < 2 → ∀ m ∈ crowded,
        m.name ≠ below "app" (["Internal", "Visibility"].take j)) ∧
      crowded.resolve (below "app" ["Internal", "Visibility"]) ≠
        .ok (some (.class visibilityClass)) := by
  have hpackage : crowded.importFault? (below "app" ["Internal"]) = none := by decide +kernel
  have hnone : crowded.resolve (below "app" ["Internal", "Visibility"]) = .ok none := by
    rw [resolve_below (by simp) (by decide)]
    exact (resolveWithin_of_none (k := 1) hpackage).trans rfl
  refine ⟨by decide +kernel, reaches_visibility rfl, ?_, ?_⟩
  · intro j hpos hj
    obtain rfl : j = 1 := by omega
    decide +kernel
  · rw [hnone]
    simp

end EnumExport.Modules
