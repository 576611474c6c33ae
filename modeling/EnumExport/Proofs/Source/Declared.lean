import EnumExport.Discovery.Basic
import Mathlib.Data.List.Induction
import Mathlib.Data.List.Basic

/-!
# Which classes are declared

What a survey of a module finds, said without the survey. The class statements of a module are its
sites, in the order of the text, each with the classes around it. A site reaches a property by a
base that has it, or by a base that is the path of an earlier site that reaches it.

* Reading a module takes note of its sites one after the other, whatever they stand in:
  `readStatements_eq`.
* The classes known after some sites are the paths of those that reach the property,
  `mem_known_iff`, by induction on the sites read so far; enumerations and markers are two cases
  of it.
* So the declarations found are those of the sites that reach both and count, `found_ofSites`.
-/

namespace EnumExport.Source

/-- A class statement where it stands in a module. -/
structure Site where
  /-- the names of the classes around it, from the outermost in, and its own -/
  names : List String
  /-- its line -/
  line : Nat
  /-- the dotted names of its bases -/
  bases : List String
  /-- whether a function stands around it -/
  inFunction : Bool
  /-- its body -/
  body : Block

/-- The path of the class. -/
def Site.path (site : Site) : String := ".".intercalate site.names

/-- What is told of the class when it is found. -/
def Site.declaration (site : Site) : Declaration := ⟨site.path, site.line, site.bases⟩

mutual

/-- The class statements in a statement that stands inside the classes of some names. -/
def Statement.sites (outer : List String) (inFunction : Bool) : Statement → List Site
  | .simple _ => []
  | .function body => body.sites outer true
  | .classDecl line name bases body =>
    ⟨outer ++ [name], line, bases, inFunction, body⟩ :: body.sites (outer ++ [name]) inFunction
  | .compound blocks => sitesOfBlocks outer inFunction blocks

/-- The class statements in a block. -/
def Block.sites (outer : List String) (inFunction : Bool) : Block → List Site
  | .inline _ => []
  | .indented statements => sitesOf outer inFunction statements

/-- The class statements in statements, from the first one to the last. -/
def sitesOf (outer : List String) (inFunction : Bool) : List Statement → List Site
  | [] => []
  | x :: xs => x.sites outer inFunction ++ sitesOf outer inFunction xs

/-- The class statements in blocks, from the first one to the last. -/
def sitesOfBlocks (outer : List String) (inFunction : Bool) : List Block → List Site
  | [] => []
  | x :: xs => x.sites outer inFunction ++ sitesOfBlocks outer inFunction xs

end

/-- The class statements of a module, in the order of the text. -/
def moduleSites (statements : List Statement) : List Site := sitesOf [] false statements

/-- Whether the class at a place among the sites reaches a property that the classes of some names
have: by the last part of a base, or by a base that is the path of an earlier class that does. -/
inductive Reaches (names : List String) (sites : List Site) : Nat → Prop
  | direct {i : Nat} {site : Site} {base : String} : sites[i]? = some site → base ∈ site.bases →
      lastPart base ∈ names → Reaches names sites i
  | passed {i j : Nat} {site earlier : Site} : sites[i]? = some site → j < i →
      sites[j]? = some earlier → earlier.path ∈ site.bases → Reaches names sites j →
      Reaches names sites i

/-- Whether a body stands on lines of its own and gives a value to a target, directly in it. -/
def Block.GivesValue (body : Block) : Prop :=
  ∃ statements parts, body = .indented statements ∧ .simple parts ∈ statements ∧
    (.assignment ∈ parts ∨ .typed true ∈ parts)

/-- Whether the class at a place among the sites is an enumeration declared for export. -/
structure IsDeclared (markers : List String) (sites : List Site) (i : Nat) : Prop where
  /-- the class stands in no function and has members -/
  counts : ∃ site, sites[i]? = some site ∧ site.inFunction = false ∧ site.body.GivesValue
  /-- it is an enumeration -/
  isEnum : Reaches enumBases sites i
  /-- it is marked -/
  isMarked : Reaches markers sites i

section Reaches

variable {names : List String} {done more : List Site} {i : Nat}

theorem Reaches.lt (h : Reaches names done i) : i < done.length := by
  cases h with
  | direct hsite _ _ => exact (List.getElem?_eq_some_iff.mp hsite).1
  | passed hsite _ _ _ _ => exact (List.getElem?_eq_some_iff.mp hsite).1

/-- What comes later in the text does not matter. -/
theorem reaches_append (hi : i < done.length) :
    Reaches names (done ++ more) i ↔ Reaches names done i := by
  constructor
  · intro h
    induction h with
    | direct hsite hbase hname =>
      rw [List.getElem?_append_left hi] at hsite
      exact .direct hsite hbase hname
    | passed hsite hj hearlier hpath _ ih =>
      rw [List.getElem?_append_left hi] at hsite
      rw [List.getElem?_append_left (Nat.lt_trans hj hi)] at hearlier
      exact .passed hsite hj hearlier hpath (ih (Nat.lt_trans hj hi))
  · intro h
    induction h with
    | direct hsite hbase hname =>
      exact .direct (by rw [List.getElem?_append_left hi, hsite]) hbase hname
    | passed hsite hj hearlier hpath _ ih =>
      exact .passed (by rw [List.getElem?_append_left hi, hsite]) hj
        (by rw [List.getElem?_append_left (Nat.lt_trans hj hi), hearlier]) hpath
        (ih (Nat.lt_trans hj hi))

/-- The last site reaches a property by one of its bases. -/
theorem reaches_last {site : Site} : Reaches names (done ++ [site]) done.length ↔
    ∃ base ∈ site.bases, lastPart base ∈ names ∨
      ∃ j earlier, done[j]? = some earlier ∧ earlier.path = base ∧ Reaches names done j := by
  constructor
  · intro h
    cases h with
    | direct hsite hbase hname =>
      obtain rfl : site = _ := by simpa using hsite
      exact ⟨_, hbase, .inl hname⟩
    | passed hsite hj hearlier hpath hreaches =>
      obtain rfl : site = _ := by simpa using hsite
      rw [List.getElem?_append_left hj] at hearlier
      exact ⟨_, hpath, .inr ⟨_, _, hearlier, rfl, (reaches_append hj).mp hreaches⟩⟩
  · rintro ⟨base, hbase, hname | ⟨j, earlier, hearlier, rfl, hreaches⟩⟩
    · exact .direct (by simp) hbase hname
    · have hj := hreaches.lt
      exact .passed (by simp) hj (by rw [List.getElem?_append_left hj, hearlier]) hbase
        ((reaches_append hj).mpr hreaches)

end Reaches

/-! ## The classes known so far -/

/-- The paths of the classes known to have a property, with those known before, after a site. -/
def know (names known : List String) (site : Site) : List String :=
  if site.bases.any (Survey.reaches names known) then site.path :: known else known

/-- The paths of the classes known to have a property after some sites. -/
def known (names : List String) (done : List Site) : List String := done.foldl (know names) []

theorem known_concat (names : List String) (done : List Site) (site : Site) :
    known names (done ++ [site]) = know names (known names done) site := by
  rw [known, List.foldl_append]
  rfl

section Known

variable {names : List String} {done : List Site} {site : Site}

/-- A site is taken for one that reaches the property as it should, if those before it are. -/
theorem any_reaches_iff
    (h : ∀ base, base ∈ known names done ↔
      ∃ j earlier, done[j]? = some earlier ∧ earlier.path = base ∧ Reaches names done j) :
    site.bases.any (Survey.reaches names (known names done)) = true ↔
      Reaches names (done ++ [site]) done.length := by
  rw [List.any_eq_true, reaches_last]
  simp only [Survey.reaches, Bool.or_eq_true, List.contains_iff_mem, h]

/-- The known paths are those of the classes that reach the property. -/
theorem mem_known_iff (names : List String) (done : List Site) (base : String) :
    base ∈ known names done ↔
      ∃ j earlier, done[j]? = some earlier ∧ earlier.path = base ∧ Reaches names done j := by
  induction done using List.reverseRecOn generalizing base with
  | nil => simp [known]
  | append_singleton done site ih =>
    have hlast : site.bases.any (Survey.reaches names (known names done)) = true ↔
        Reaches names (done ++ [site]) done.length := any_reaches_iff ih
    have hearlier : base ∈ known names done ↔ ∃ j earlier, (done ++ [site])[j]? = some earlier ∧
        earlier.path = base ∧ Reaches names (done ++ [site]) j ∧ j < done.length := by
      rw [ih]
      constructor
      · rintro ⟨j, earlier, hget, hpath, hreaches⟩
        have hj := hreaches.lt
        exact ⟨j, earlier, by rw [List.getElem?_append_left hj, hget], hpath,
          (reaches_append hj).mpr hreaches, hj⟩
      · rintro ⟨j, earlier, hget, hpath, hreaches, hj⟩
        rw [List.getElem?_append_left hj] at hget
        exact ⟨j, earlier, hget, hpath, (reaches_append hj).mp hreaches⟩
    rw [known_concat, know]
    constructor
    · intro hmem
      split at hmem
      · next hany =>
        rcases List.mem_cons.mp hmem with rfl | hmem
        · exact ⟨done.length, site, by simp, rfl, hlast.mp hany⟩
        · obtain ⟨j, earlier, hget, hpath, hreaches, -⟩ := hearlier.mp hmem
          exact ⟨j, earlier, hget, hpath, hreaches⟩
      · obtain ⟨j, earlier, hget, hpath, hreaches, -⟩ := hearlier.mp hmem
        exact ⟨j, earlier, hget, hpath, hreaches⟩
    · rintro ⟨j, earlier, hget, hpath, hreaches⟩
      have hj : j < done.length ∨ j = done.length := by
        have hlt := hreaches.lt
        rw [List.length_append, List.length_singleton] at hlt
        omega
      rcases hj with hj | rfl
      · have hmem := hearlier.mpr ⟨j, earlier, hget, hpath, hreaches, hj⟩
        split
        · exact List.mem_cons_of_mem _ hmem
        · exact hmem
      · obtain rfl : site = earlier := by simpa using hget
        rw [if_pos (hlast.mpr hreaches), hpath]
        exact List.mem_cons_self

/-- The last site is taken for one that reaches the property as it should. -/
theorem any_known_iff : site.bases.any (Survey.reaches names (known names done)) = true ↔
    Reaches names (done ++ [site]) done.length :=
  any_reaches_iff fun base => mem_known_iff names done base

end Known

/-! ## The survey -/

namespace Survey

/-- Takes note of a site. -/
def note (markers : List String) (s : Survey) (site : Site) : Survey :=
  s.declare markers site.declaration (!site.inFunction && site.body.declaresMember)

mutual

theorem readStatement_eq (markers outer : List String) (inFunction : Bool) (s : Survey) :
    (x : Statement) → readStatement markers outer inFunction s x =
      (x.sites outer inFunction).foldl (note markers) s
  | .simple _ => rfl
  | .function body => readBlock_eq markers outer true s body
  | .classDecl line name bases body =>
    readBlock_eq markers (outer ++ [name]) inFunction
      (note markers s ⟨outer ++ [name], line, bases, inFunction, body⟩) body
  | .compound blocks => readBlocks_eq markers outer inFunction s blocks

theorem readBlock_eq (markers outer : List String) (inFunction : Bool) (s : Survey) :
    (x : Block) → readBlock markers outer inFunction s x =
      (x.sites outer inFunction).foldl (note markers) s
  | .inline _ => rfl
  | .indented statements => readStatements_eq markers outer inFunction s statements

/-- Reading statements takes note of their sites, one after the other. -/
theorem readStatements_eq (markers outer : List String) (inFunction : Bool) (s : Survey) :
    (xs : List Statement) → readStatements markers outer inFunction s xs =
      (sitesOf outer inFunction xs).foldl (note markers) s
  | [] => rfl
  | x :: xs => by
    rw [readStatements, readStatement_eq, readStatements_eq, sitesOf, List.foldl_append]

theorem readBlocks_eq (markers outer : List String) (inFunction : Bool) (s : Survey) :
    (xs : List Block) → readBlocks markers outer inFunction s xs =
      (sitesOfBlocks outer inFunction xs).foldl (note markers) s
  | [] => rfl
  | x :: xs => by
    rw [readBlocks, readBlock_eq, readBlocks_eq, sitesOfBlocks, List.foldl_append]

end

/-- The survey of some sites. -/
def ofSites (markers : List String) (done : List Site) : Survey := done.foldl (note markers) {}

variable {markers : List String} {done : List Site} {site : Site}

theorem ofSites_concat (markers : List String) (done : List Site) (site : Site) :
    ofSites markers (done ++ [site]) = note markers (ofSites markers done) site := by
  rw [ofSites, List.foldl_append]
  rfl

/-- The two properties spread independently of each other. -/
theorem known_ofSites (markers : List String) (done : List Site) :
    (ofSites markers done).enums = known enumBases done ∧
      (ofSites markers done).marked = known markers done := by
  induction done using List.reverseRecOn with
  | nil => exact ⟨rfl, rfl⟩
  | append_singleton done site ih =>
    obtain ⟨henums, hmarked⟩ := ih
    rw [ofSites_concat, known_concat, known_concat, ← henums, ← hmarked]
    exact ⟨rfl, rfl⟩

theorem declaresMember_iff {body : Block} : body.declaresMember = true ↔ body.GivesValue := by
  have hsimple : ∀ part : Simple, part.declaresMember = true ↔
      part = .assignment ∨ part = .typed true := by
    intro part
    cases part <;> simp [Simple.declaresMember]
  have hstatement : ∀ x : Statement, x.declaresMember = true ↔
      ∃ parts, x = .simple parts ∧ (.assignment ∈ parts ∨ .typed true ∈ parts) := by
    intro x
    cases x with
    | simple parts =>
      simp only [Statement.declaresMember, List.any_eq_true, hsimple, Statement.simple.injEq]
      constructor
      · rintro ⟨part, hpart, rfl | rfl⟩
        · exact ⟨parts, rfl, .inl hpart⟩
        · exact ⟨parts, rfl, .inr hpart⟩
      · rintro ⟨_, rfl, hpart | hpart⟩
        · exact ⟨_, hpart, .inl rfl⟩
        · exact ⟨_, hpart, .inr rfl⟩
    | function | classDecl | compound => simp [Statement.declaresMember]
  cases body with
  | inline parts => simp [Block.declaresMember, Block.GivesValue]
  | indented statements =>
    simp only [Block.declaresMember, List.any_eq_true, hstatement, Block.GivesValue]
    constructor
    · rintro ⟨x, hx, parts, rfl, hparts⟩
      exact ⟨statements, parts, rfl, hx, hparts⟩
    · rintro ⟨_, parts, heq, hx, hparts⟩
      obtain rfl := Block.indented.inj heq
      exact ⟨_, hx, parts, rfl, hparts⟩

theorem isDeclared_append {i : Nat} (hi : i < done.length) :
    IsDeclared markers (done ++ [site]) i ↔ IsDeclared markers done i := by
  constructor
  · rintro ⟨hcounts, henum, hmarked⟩
    rw [List.getElem?_append_left hi] at hcounts
    exact ⟨hcounts, (reaches_append hi).mp henum, (reaches_append hi).mp hmarked⟩
  · rintro ⟨hcounts, henum, hmarked⟩
    refine ⟨?_, (reaches_append hi).mpr henum, (reaches_append hi).mpr hmarked⟩
    rwa [List.getElem?_append_left hi]

theorem isDeclared_concat {i : Nat} : IsDeclared markers (done ++ [site]) i ↔
    IsDeclared markers done i ∨ i = done.length ∧ IsDeclared markers (done ++ [site]) i := by
  constructor
  · intro h
    have hlt := h.isEnum.lt
    rw [List.length_append, List.length_singleton] at hlt
    rcases Nat.lt_or_ge i done.length with hi | hi
    · exact .inl ((isDeclared_append hi).mp h)
    · exact .inr ⟨by omega, h⟩
  · rintro (h | ⟨-, h⟩)
    · exact (isDeclared_append h.isEnum.lt).mpr h
    · exact h

/-- Whether the last site is found. -/
theorem isDeclared_last : IsDeclared markers (done ++ [site]) done.length ↔
    (site.bases.any (reaches enumBases (ofSites markers done).enums) &&
      site.bases.any (reaches markers (ofSites markers done).marked) &&
      (!site.inFunction && site.body.declaresMember)) = true := by
  obtain ⟨henums, hmarked⟩ := known_ofSites markers done
  rw [henums, hmarked, Bool.and_eq_true, Bool.and_eq_true, Bool.and_eq_true, any_known_iff,
    any_known_iff, declaresMember_iff, Bool.not_eq_true']
  constructor
  · rintro ⟨⟨last, hlast, hfunction, hbody⟩, henum, hmarked⟩
    obtain rfl : site = last := by simpa using hlast
    exact ⟨⟨henum, hmarked⟩, hfunction, hbody⟩
  · rintro ⟨⟨henum, hmarked⟩, hfunction, hbody⟩
    exact ⟨⟨site, by simp, hfunction, hbody⟩, henum, hmarked⟩

end Survey

/-! ## What is found -/

/-- Some places are those of a kind, from the first to the last. -/
structure InOrder (p : Nat → Prop) (places : List Nat) : Prop where
  /-- they come in order, and each once -/
  increasing : places.Pairwise (· < ·)
  /-- they are all there are -/
  mem_iff : ∀ i, i ∈ places ↔ p i

theorem InOrder.concat {p q : Nat → Prop} {places : List Nat} {n : Nat} (h : InOrder p places)
    (hlt : ∀ i, p i → i < n) (hq : ∀ i, q i ↔ p i ∨ i = n) : InOrder q (places ++ [n]) := by
  obtain ⟨hincreasing, hmem⟩ := h
  refine ⟨?_, fun i => ?_⟩
  · rw [List.pairwise_append]
    refine ⟨hincreasing, List.pairwise_singleton _ _, ?_⟩
    intro i hi j hj
    rw [List.mem_singleton.mp hj]
    exact hlt i ((hmem i).mp hi)
  · rw [List.mem_append, List.mem_singleton, hmem, hq]

/-- What is told of the sites at some places. -/
def declarationsAt (sites : List Site) (places : List Nat) : List Declaration :=
  places.filterMap fun i => sites[i]?.map Site.declaration

theorem declarationsAt_append {done : List Site} {places : List Nat}
    (h : ∀ i ∈ places, i < done.length) (site : Site) :
    declarationsAt (done ++ [site]) places = declarationsAt done places := by
  refine List.filterMap_congr fun i hi => ?_
  rw [List.getElem?_append_left (h i hi)]

/-- What is found is told of the declared sites, from the first to the last. -/
theorem found_ofSites (markers : List String) (done : List Site) :
    ∃ places, InOrder (IsDeclared markers done) places ∧
      (Survey.ofSites markers done).found = declarationsAt done places := by
  induction done using List.reverseRecOn with
  | nil =>
    refine ⟨[], ⟨.nil, fun i => ?_⟩, rfl⟩
    simp only [List.not_mem_nil, false_iff]
    exact fun h => absurd h.isEnum.lt (by simp)
  | append_singleton done site ih =>
    obtain ⟨places, hplaces, hfound⟩ := ih
    have hlt : ∀ i, IsDeclared markers done i → i < done.length := fun i h => h.isEnum.lt
    have hsame := declarationsAt_append (fun i hi => hlt i ((hplaces.mem_iff i).mp hi)) site
    have hlast : IsDeclared markers (done ++ [site]) done.length ↔ _ := Survey.isDeclared_last
    rw [Survey.ofSites_concat]
    by_cases hdeclared : IsDeclared markers (done ++ [site]) done.length
    · refine ⟨places ++ [done.length], hplaces.concat hlt fun i => ?_, ?_⟩
      · rw [Survey.isDeclared_concat]
        exact or_congr_right ⟨And.left, fun h => ⟨h, h ▸ hdeclared⟩⟩
      · have hstep : (Survey.note markers (Survey.ofSites markers done) site).found =
            (Survey.ofSites markers done).found ++ [site.declaration] := if_pos (hlast.mp hdeclared)
        rw [hstep, hfound, ← hsame, declarationsAt, declarationsAt, List.filterMap_append]
        simp
    · refine ⟨places, ⟨hplaces.increasing, fun i => ?_⟩, ?_⟩
      · rw [hplaces.mem_iff, Survey.isDeclared_concat]
        exact ⟨.inl, fun h => h.elim id fun ⟨hi, h⟩ => absurd (hi ▸ h) hdeclared⟩
      · have hstep : (Survey.note markers (Survey.ofSites markers done) site).found =
            (Survey.ofSites markers done).found := if_neg fun h => hdeclared (hlast.mpr h)
        rw [hstep, hfound, hsame]

theorem declarations_eq (markers : List String) (statements : List Statement) :
    declarations markers statements = (Survey.ofSites markers (moduleSites statements)).found :=
  congrArg Survey.found (Survey.readStatements_eq markers [] false {} statements)

end EnumExport.Source

namespace EnumExport

open Source

/-- The statements of a source file; none where it cannot be read. -/
def FileTree.statements (t : FileTree) (file : Path) : List Statement :=
  match t.readText file with
  | .error _ => []
  | .ok source => (module? source).getD []

theorem FileTree.declaredIn_eq (t : FileTree) (markers : List String) (file : Path)
    (module : String) : t.declaredIn markers file module =
      (declarations markers (t.statements file)).map fun d =>
        { qualifiedName := module ++ "." ++ d.path, file, line := d.line, bases := d.bases } := by
  rw [declaredIn, statements]
  cases t.readText file with
  | error e => rfl
  | ok source =>
    dsimp only
    rw [declarationsOf]
    cases module? source <;> rfl

/-- **Declared enumerations.** Of the class statements of a module, in the order of the text, those
are found that stand in no function, give a value to a member in a block of their own, and reach
both an enumeration and a marker; of each its line is told and its path, in a file behind the name
of the module. -/
theorem declared_of_sites (markers : List String) :
    (∀ statements, ∃ places, InOrder (IsDeclared markers (moduleSites statements)) places ∧
      declarations markers statements = declarationsAt (moduleSites statements) places) ∧
    ∀ (t : FileTree) (file : Path) (module : String), ∃ places,
      InOrder (IsDeclared markers (moduleSites (t.statements file))) places ∧
      t.declaredIn markers file module = places.filterMap fun i =>
        (moduleSites (t.statements file))[i]?.map fun site =>
          { qualifiedName := module ++ "." ++ ".".intercalate site.names, file, line := site.line,
            bases := site.bases } := by
  have hfound : ∀ statements, ∃ places,
      InOrder (IsDeclared markers (moduleSites statements)) places ∧
      declarations markers statements = declarationsAt (moduleSites statements) places := by
    intro statements
    rw [declarations_eq]
    exact found_ofSites markers (moduleSites statements)
  refine ⟨hfound, fun t file module => ?_⟩
  obtain ⟨places, hplaces, hdeclarations⟩ := hfound (t.statements file)
  refine ⟨places, hplaces, ?_⟩
  rw [t.declaredIn_eq, hdeclarations, declarationsAt, List.map_filterMap]
  simp only [Option.map_map]
  rfl

/-- A base in a function counts for the classes behind it, but is not found itself. -/
example : declarations ["Shares"]
    [.function (.indented
      [.classDecl 2 "Base" ["Shares", "Enum"] (.indented [.simple [.assignment]])]),
      .classDecl 5 "Suit" ["Base"] (.indented [.simple [.assignment]])] =
    [{ path := "Suit", line := 5, bases := ["Base"] }] := by
  decide +kernel

end EnumExport
