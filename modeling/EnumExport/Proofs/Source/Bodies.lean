import EnumExport.Proofs.Source.Declared

/-!
# Bodies on the line of their class

A body of simple statements can stand behind the colon of its class or on lines of its own, and says
the same in both places. Discovery does not see it so: a class of which the body stands on its line
is taken for one without members.

* The outline of a text forgets its lines and puts every body of simple statements behind its colon,
  so that two texts with one outline are two layouts of the same statements. They have the same
  sites up to outlines: `sitesOf_outline`.
* Whether a class is meant to be found can be said of the outline: `isMeant_of_outline`. Of the
  classes that are meant, those are found that have a body on lines of its own: `isDeclared_iff`.
* `found_of_relaid` says what becomes of what is found where one class is laid out anew.
-/

namespace EnumExport.Source

/-! ## Outlines -/

/-- Whether a statement stands for simple statements. -/
def Statement.isSimple : Statement → Bool
  | .simple _ => true
  | _ => false

/-- The simple statements that a statement stands for. -/
def Statement.simples : Statement → List Simple
  | .simple parts => parts
  | _ => []

/-- The simple statements directly in a body, however it is laid out. -/
def Block.simples : Block → List Simple
  | .inline parts => parts
  | .indented statements => statements.flatMap Statement.simples

/-- Whether a body stands on lines of its own. -/
def Block.isIndented : Block → Bool
  | .inline _ => false
  | .indented _ => true

mutual

/-- The outline of a statement. -/
def Statement.outline : Statement → Statement
  | .simple parts => .simple parts
  | .function body => .function body.outline
  | .classDecl _ name bases body => .classDecl 0 name bases body.outline
  | .compound blocks => .compound (outlineOfBlocks blocks)

/-- The outline of a block. -/
def Block.outline : Block → Block
  | .inline parts => .inline parts
  | .indented statements =>
    if statements.all Statement.isSimple then .inline (statements.flatMap Statement.simples)
    else .indented (outlineOf statements)

/-- The outline of statements. -/
def outlineOf : List Statement → List Statement
  | [] => []
  | x :: xs => x.outline :: outlineOf xs

/-- The outlines of blocks. -/
def outlineOfBlocks : List Block → List Block
  | [] => []
  | x :: xs => x.outline :: outlineOfBlocks xs

end

/-- The outline of a class statement. -/
def Site.outline (site : Site) : Site := { site with line := 0, body := site.body.outline }

theorem simples_outlineOf (xs : List Statement) :
    (outlineOf xs).flatMap Statement.simples = xs.flatMap Statement.simples := by
  induction xs with
  | nil => rfl
  | cons x xs ih =>
    rw [outlineOf, List.flatMap_cons, List.flatMap_cons, ih]
    cases x <;> rfl

/-- The layout of a body does not matter for the simple statements in it. -/
theorem simples_outline (body : Block) : body.outline.simples = body.simples := by
  cases body with
  | inline parts => rfl
  | indented statements =>
    rw [Block.outline]
    split
    · rfl
    · exact simples_outlineOf statements

theorem sitesOf_eq_nil {outer : List String} {inFunction : Bool} {xs : List Statement}
    (h : xs.all Statement.isSimple = true) : sitesOf outer inFunction xs = [] := by
  induction xs with
  | nil => rfl
  | cons x xs ih =>
    rw [List.all_cons, Bool.and_eq_true] at h
    rw [sitesOf, ih h.2, List.append_nil]
    cases x with
    | simple => rfl
    | function | classDecl | compound => exact absurd h.1 Bool.false_ne_true

mutual

theorem sites_outline (outer : List String) (inFunction : Bool) : (x : Statement) →
    x.outline.sites outer inFunction = (x.sites outer inFunction).map Site.outline
  | .simple _ => rfl
  | .function body => sites_outlineBlock outer true body
  | .classDecl _ name _ body =>
    congrArg (_ :: ·) (sites_outlineBlock (outer ++ [name]) inFunction body)
  | .compound blocks => sites_outlineOfBlocks outer inFunction blocks

theorem sites_outlineBlock (outer : List String) (inFunction : Bool) : (x : Block) →
    x.outline.sites outer inFunction = (x.sites outer inFunction).map Site.outline
  | .inline _ => rfl
  | .indented statements => by
    rw [Block.outline, Block.sites]
    split
    · next hsimple =>
      rw [sitesOf_eq_nil hsimple]
      rfl
    · exact sitesOf_outline outer inFunction statements

/-- The sites of an outline are the outlines of the sites. -/
theorem sitesOf_outline (outer : List String) (inFunction : Bool) : (xs : List Statement) →
    sitesOf outer inFunction (outlineOf xs) = (sitesOf outer inFunction xs).map Site.outline
  | [] => rfl
  | x :: xs => by
    rw [outlineOf, sitesOf, sitesOf, List.map_append, sites_outline, sitesOf_outline]

theorem sites_outlineOfBlocks (outer : List String) (inFunction : Bool) : (xs : List Block) →
    sitesOfBlocks outer inFunction (outlineOfBlocks xs) =
      (sitesOfBlocks outer inFunction xs).map Site.outline
  | [] => rfl
  | x :: xs => by
    rw [outlineOfBlocks, sitesOfBlocks, sitesOfBlocks, List.map_append, sites_outlineBlock,
      sites_outlineOfBlocks]

end

/-! ## Classes that are meant to be found -/

/-- Whether a body gives a value to a target, directly in it and however it is laid out. -/
def Block.Assigns (body : Block) : Prop := .assignment ∈ body.simples ∨ .typed true ∈ body.simples

/-- Whether the class at a place among the sites is a marked enumeration with a member. -/
structure IsMeant (markers : List String) (sites : List Site) (i : Nat) : Prop where
  /-- the class stands in no function and has members -/
  counts : ∃ site, sites[i]? = some site ∧ site.inFunction = false ∧ site.body.Assigns
  /-- it is an enumeration -/
  isEnum : Reaches enumBases sites i
  /-- it is marked -/
  isMarked : Reaches markers sites i

theorem givesValue_iff {body : Block} :
    body.GivesValue ↔ body.isIndented = true ∧ body.Assigns := by
  have hmem : ∀ {part : Simple} {statements : List Statement},
      part ∈ statements.flatMap Statement.simples ↔
        ∃ parts, .simple parts ∈ statements ∧ part ∈ parts := by
    intro part statements
    rw [List.mem_flatMap]
    constructor
    · rintro ⟨x, hx, hpart⟩
      cases x with
      | simple parts => exact ⟨parts, hx, hpart⟩
      | function | classDecl | compound => exact absurd hpart List.not_mem_nil
    · rintro ⟨parts, hx, hpart⟩
      exact ⟨.simple parts, hx, hpart⟩
  cases body with
  | inline parts => simp [Block.GivesValue, Block.isIndented]
  | indented statements =>
    rw [Block.Assigns, Block.simples, hmem, hmem]
    constructor
    · rintro ⟨_, parts, heq, hparts, hpart⟩
      obtain rfl := Block.indented.inj heq
      exact ⟨rfl, hpart.imp (fun h => ⟨parts, hparts, h⟩) fun h => ⟨parts, hparts, h⟩⟩
    · rintro ⟨-, ⟨parts, hparts, hpart⟩ | ⟨parts, hparts, hpart⟩⟩
      · exact ⟨statements, parts, rfl, hparts, .inl hpart⟩
      · exact ⟨statements, parts, rfl, hparts, .inr hpart⟩

/-- Of the classes that are meant, those are declared that have a body on lines of its own. -/
theorem isDeclared_iff {markers : List String} {sites : List Site} {i : Nat} :
    IsDeclared markers sites i ↔ IsMeant markers sites i ∧
      sites[i]?.map (fun site => site.body.isIndented) = some true := by
  constructor
  · rintro ⟨⟨site, hsite, hfunction, hbody⟩, henum, hmarked⟩
    obtain ⟨hindented, hassigns⟩ := givesValue_iff.mp hbody
    exact ⟨⟨⟨site, hsite, hfunction, hassigns⟩, henum, hmarked⟩,
      by rw [hsite, Option.map_some, hindented]⟩
  · rintro ⟨⟨⟨site, hsite, hfunction, hassigns⟩, henum, hmarked⟩, hindented⟩
    rw [hsite, Option.map_some, Option.some_inj] at hindented
    exact ⟨⟨site, hsite, hfunction, givesValue_iff.mpr ⟨hindented, hassigns⟩⟩, henum, hmarked⟩

section Outline

variable {xs ys : List Site} (h : xs.map Site.outline = ys.map Site.outline)
include h

/-- Where two texts have one outline, a site of the one is a site of the other. -/
theorem exists_site_of_outline {i : Nat} {site : Site} (hsite : xs[i]? = some site) :
    ∃ other, ys[i]? = some other ∧ other.outline = site.outline := by
  have hmap : (ys.map Site.outline)[i]? = some site.outline := by
    rw [← h, List.getElem?_map, hsite, Option.map_some]
  rw [List.getElem?_map] at hmap
  exact Option.map_eq_some_iff.mp hmap

theorem reaches_of_outline {names : List String} {i : Nat} (hreaches : Reaches names xs i) :
    Reaches names ys i := by
  induction hreaches with
  | direct hsite hbase hname =>
    obtain ⟨other, hother, heq⟩ := exists_site_of_outline h hsite
    exact .direct hother (congrArg Site.bases heq ▸ hbase) hname
  | @passed _ _ _ earlier hsite hj hearlier hpath _ ih =>
    obtain ⟨other, hother, heq⟩ := exists_site_of_outline h hsite
    obtain ⟨before, hbefore, heqBefore⟩ := exists_site_of_outline h hearlier
    have hpaths : before.path = earlier.path := (congrArg Site.path heqBefore :)
    exact .passed hother hj hbefore (hpaths ▸ congrArg Site.bases heq ▸ hpath) ih

/-- Whether a class is meant to be found can be told from the outline. -/
theorem isMeant_of_outline {markers : List String} {i : Nat} (hmeant : IsMeant markers xs i) :
    IsMeant markers ys i := by
  obtain ⟨⟨site, hsite, hfunction, hassigns⟩, henum, hmarked⟩ := hmeant
  obtain ⟨other, hother, heq⟩ := exists_site_of_outline h hsite
  refine ⟨⟨other, hother, ?_, ?_⟩, reaches_of_outline h henum, reaches_of_outline h hmarked⟩
  · exact (congrArg Site.inFunction heq).trans hfunction
  · have hsimples : other.body.simples = site.body.simples := by
      rw [← simples_outline other.body, ← simples_outline site.body]
      exact congrArg (fun site => site.body.simples) heq
    rwa [Block.Assigns, hsimples]

theorem path_of_outline (i : Nat) : xs[i]?.map Site.path = ys[i]?.map Site.path := by
  have hpath : ∀ sites : List Site,
      (sites.map Site.outline)[i]?.map Site.path = sites[i]?.map Site.path := by
    intro sites
    rw [List.getElem?_map, Option.map_map]
    rfl
  rw [← hpath xs, h, hpath ys]

end Outline

/-! ## Places -/

/-- There is one way to tell the places of a kind in order. -/
theorem InOrder.unique {p : Nat → Prop} {xs ys : List Nat} (hxs : InOrder p xs)
    (hys : InOrder p ys) : xs = ys := by
  have hperm : xs.Perm ys := by
    rw [List.perm_ext_iff_of_nodup (hxs.increasing.imp Nat.ne_of_lt)
      (hys.increasing.imp Nat.ne_of_lt)]
    exact fun i => (hxs.mem_iff i).trans (hys.mem_iff i).symm
  exact hperm.eq_of_pairwise (fun a b _ _ hab hba => absurd hab (Nat.lt_asymm hba))
    hxs.increasing hys.increasing

theorem inOrder_singleton (k : Nat) : InOrder (· = k) [k] :=
  ⟨List.pairwise_singleton _ _, fun _ => List.mem_singleton⟩

theorem InOrder.filter {p : Nat → Prop} {xs : List Nat} (h : InOrder p xs) (q : Nat → Prop)
    [DecidablePred q] : InOrder (fun i => p i ∧ q i) (xs.filter q) := by
  refine ⟨h.increasing.filter _, fun i => ?_⟩
  rw [List.mem_filter, h.mem_iff, decide_eq_true_iff]

/-- Places of one kind, with those of another kind behind them. -/
theorem InOrder.append {p q r : Nat → Prop} {xs ys : List Nat} (hxs : InOrder p xs)
    (hys : InOrder q ys) (hlt : ∀ i j, p i → q j → i < j) (hr : ∀ i, r i ↔ p i ∨ q i) :
    InOrder r (xs ++ ys) := by
  refine ⟨List.pairwise_append.mpr ⟨hxs.increasing, hys.increasing, ?_⟩, fun i => ?_⟩
  · intro i hi j hj
    exact hlt i j ((hxs.mem_iff i).mp hi) ((hys.mem_iff j).mp hj)
  · rw [List.mem_append, hxs.mem_iff, hys.mem_iff, hr]

/-! ## Texts -/

/-- The statements of a module text; none where it is malformed. -/
def statementsOf (source : String) : List Statement := (module? source).getD []

/-- The class statements of a module text. -/
def sitesIn (source : String) : List Site := moduleSites (statementsOf source)

/-- The names of the enumerations found in a module text. -/
def foundNames (markers : List String) (source : String) : List String :=
  (declarationsOf markers source).map Declaration.path

/-- The body of the class at a place stands on the line of the class in one text and on lines of its
own in another, and this is all that differs but for lines. -/
structure Relaid (s t : String) (k : Nat) : Prop where
  /-- the texts say the same -/
  same : outlineOf (statementsOf s) = outlineOf (statementsOf t)
  /-- the body stands on the line of the class in the one -/
  inline : (sitesIn s)[k]?.map (fun site => site.body.isIndented) = some false
  /-- and on lines of its own in the other -/
  indented : (sitesIn t)[k]?.map (fun site => site.body.isIndented) = some true
  /-- the other classes are laid out the same way -/
  others : ∀ i, i ≠ k → (sitesIn s)[i]?.map (fun site => site.body.isIndented) =
    (sitesIn t)[i]?.map (fun site => site.body.isIndented)

/-- The paths of the classes at some places. -/
def pathsAt (sites : List Site) (places : List Nat) : List String :=
  places.filterMap fun i => sites[i]?.map Site.path

theorem pathsAt_append (sites : List Site) (xs ys : List Nat) :
    pathsAt sites (xs ++ ys) = pathsAt sites xs ++ pathsAt sites ys := List.filterMap_append

/-- The names found are the paths of the declared classes, from the first to the last. -/
theorem foundNames_eq {markers : List String} {source : String} {places : List Nat}
    (h : InOrder (IsDeclared markers (sitesIn source)) places) :
    foundNames markers source = pathsAt (sitesIn source) places := by
  obtain ⟨all, hall, hfound⟩ := found_ofSites markers (sitesIn source)
  have hdeclarations : declarationsOf markers source =
      declarationsAt (sitesIn source) places := by
    rw [h.unique hall, ← hfound, sitesIn, ← declarations_eq, declarationsOf, statementsOf]
    cases module? source <;> rfl
  rw [foundNames, hdeclarations, declarationsAt, List.map_filterMap]
  simp only [Option.map_map]
  rfl

theorem qualifiedName_declaredIn {tree : FileTree} {file : Path} {source : String}
    (hsource : tree.readText file = .ok source) (markers : List String) (module : String) :
    (tree.declaredIn markers file module).map FoundEnum.qualifiedName =
      (foundNames markers source).map (module ++ "." ++ ·) := by
  rw [FileTree.declaredIn, hsource, foundNames, List.map_map, List.map_map]
  rfl

namespace Relaid

variable {s t : String} {k : Nat} (h : Relaid s t k)
include h

theorem sites_outline : (sitesIn s).map Site.outline = (sitesIn t).map Site.outline := by
  have houtline : ∀ source, (sitesIn source).map Site.outline =
      moduleSites (outlineOf (statementsOf source)) :=
    fun source => (sitesOf_outline [] false (statementsOf source)).symm
  rw [houtline, houtline, h.same]

theorem isMeant_iff {markers : List String} {i : Nat} :
    IsMeant markers (sitesIn s) i ↔ IsMeant markers (sitesIn t) i :=
  ⟨isMeant_of_outline h.sites_outline, isMeant_of_outline h.sites_outline.symm⟩

/-- On its line the class is not found. -/
theorem not_isDeclared {markers : List String} : ¬ IsDeclared markers (sitesIn s) k := by
  rw [isDeclared_iff, h.inline]
  simp

/-- On lines of its own it is found where it is meant to be. -/
theorem isDeclared_iff_isMeant {markers : List String} :
    IsDeclared markers (sitesIn t) k ↔ IsMeant markers (sitesIn s) k := by
  rw [isDeclared_iff, h.indented, h.isMeant_iff]
  exact and_iff_left rfl

/-- Nothing changes for the other classes. -/
theorem isDeclared_iff_of_ne {markers : List String} {i : Nat} (hi : i ≠ k) :
    IsDeclared markers (sitesIn s) i ↔ IsDeclared markers (sitesIn t) i := by
  rw [isDeclared_iff, isDeclared_iff, h.isMeant_iff, h.others i hi]

theorem pathsAt_eq (places : List Nat) :
    pathsAt (sitesIn s) places = pathsAt (sitesIn t) places :=
  List.filterMap_congr fun i _ => path_of_outline h.sites_outline i

section Places

variable {markers : List String} {before after : List Nat}
  (hbefore : InOrder (fun i => IsDeclared markers (sitesIn s) i ∧ i < k) before)
  (hafter : InOrder (fun i => IsDeclared markers (sitesIn s) i ∧ k < i) after)
include hbefore hafter

/-- In the first text the classes before the place and behind it are declared. -/
theorem inOrder_inline : InOrder (IsDeclared markers (sitesIn s)) (before ++ after) := by
  refine hbefore.append hafter (fun i j hi hj => Nat.lt_trans hi.2 hj.2) fun i => ?_
  rw [← and_or_left, ← Nat.ne_iff_lt_or_gt]
  exact (and_iff_left_of_imp fun hd heq => h.not_isDeclared (heq ▸ hd)).symm

/-- In the second text the class at the place comes between them, if it is meant to be found. -/
theorem inOrder_indented (hmeant : IsMeant markers (sitesIn s) k) :
    InOrder (IsDeclared markers (sitesIn t)) (before ++ k :: after) := by
  have hbehind : InOrder (fun i => i = k ∨ IsDeclared markers (sitesIn s) i ∧ k < i) (k :: after) :=
    (inOrder_singleton k).append hafter (fun i j hi hj => hi ▸ hj.2) fun _ => Iff.rfl
  refine hbefore.append hbehind ?_ fun i => ?_
  · rintro i j ⟨-, hi⟩ (rfl | ⟨-, hj⟩)
    · exact hi
    · exact Nat.lt_trans hi hj
  · rcases Nat.lt_trichotomy i k with hi | rfl | hi
    · rw [← h.isDeclared_iff_of_ne (Nat.ne_of_lt hi)]
      grind
    · simp [h.isDeclared_iff_isMeant, hmeant]
    · rw [← h.isDeclared_iff_of_ne (Nat.ne_of_gt hi)]
      grind

end Places

/-- The same classes are declared in both texts, if the class at the place is not meant to be. -/
theorem isDeclared_iff_of_not_meant {markers : List String}
    (hmeant : ¬ IsMeant markers (sitesIn s) k) (i : Nat) :
    IsDeclared markers (sitesIn s) i ↔ IsDeclared markers (sitesIn t) i := by
  by_cases hi : i = k
  · subst hi
    exact iff_of_false h.not_isDeclared fun hd => hmeant (h.isDeclared_iff_isMeant.mp hd)
  · exact h.isDeclared_iff_of_ne hi

end Relaid

/-- **Bodies laid out anew.** Let two module texts differ in that the body of one class, of simple
statements only, stands on the line of the class in the first and on lines of its own in the second.
In the first text the classes before it and behind it are found, but not the class. In the second it
is found between them where it is meant to be: a marked enumeration that stands in no function and
has a member. So the same names are found just where the class is not one of those; the names of a
file are these behind the name of its module. -/
theorem found_of_relaid (markers : List String) {s t : String} {k : Nat} (h : Relaid s t k) :
    ∃ site before after, (sitesIn s)[k]? = some site ∧
      InOrder (fun i => IsDeclared markers (sitesIn s) i ∧ i < k) before ∧
      InOrder (fun i => IsDeclared markers (sitesIn s) i ∧ k < i) after ∧
      foundNames markers s = pathsAt (sitesIn s) before ++ pathsAt (sitesIn s) after ∧
      (IsMeant markers (sitesIn s) k → foundNames markers t =
        pathsAt (sitesIn s) before ++ site.path :: pathsAt (sitesIn s) after) ∧
      (foundNames markers s = foundNames markers t ↔ ¬ IsMeant markers (sitesIn s) k) ∧
      ∀ (tree : FileTree) (file : Path) (module source : String),
        tree.readText file = .ok source →
        (tree.declaredIn markers file module).map FoundEnum.qualifiedName =
          (foundNames markers source).map (module ++ "." ++ ·) := by
  obtain ⟨site, hsite, -⟩ := Option.map_eq_some_iff.mp h.inline
  obtain ⟨places, hplaces, -⟩ := found_ofSites markers (sitesIn s)
  have hbefore := hplaces.filter (· < k)
  have hafter := hplaces.filter (k < ·)
  have hline := foundNames_eq (h.inOrder_inline hbefore hafter)
  rw [pathsAt_append] at hline
  have hlines : IsMeant markers (sitesIn s) k → foundNames markers t =
      pathsAt (sitesIn s) (places.filter (· < k)) ++
        site.path :: pathsAt (sitesIn s) (places.filter (k < ·)) := by
    intro hmeant
    rw [foundNames_eq (h.inOrder_indented hbefore hafter hmeant), ← h.pathsAt_eq, pathsAt_append,
      pathsAt, pathsAt, List.filterMap_cons, hsite]
    rfl
  refine ⟨site, _, _, hsite, hbefore, hafter, hline, hlines, ⟨?_, fun hmeant => ?_⟩,
    fun _ _ module _ hsource => qualifiedName_declaredIn hsource markers module⟩
  · intro heq hmeant
    rw [hline, hlines hmeant] at heq
    simpa using congrArg List.length heq
  · have hsame : InOrder (IsDeclared markers (sitesIn t)) places :=
      ⟨hplaces.increasing, fun i =>
        (hplaces.mem_iff i).trans (h.isDeclared_iff_of_not_meant hmeant i)⟩
    rw [foundNames_eq hplaces, foundNames_eq hsame, h.pathsAt_eq]

/-- A suit whose case stands on the line of the class. -/
def suitLine : String := "class Suit(SharesWithFrontend, str, Enum): Hearts = 'H'\n"

/-- The same on two lines. -/
def suitLines : String := "class Suit(SharesWithFrontend, str, Enum):\n    Hearts = 'H'\n"

/-- The line, the name and the bases of the class that is all there is, whether its body stands on
lines of its own, and the simple statements that the body consists of. -/
def loneClass? : List Statement → Option (Nat × String × List String × Bool × List Simple)
  | [.classDecl line name bases (.inline parts)] => some (line, name, bases, false, parts)
  | [.classDecl line name bases (.indented [.simple parts])] =>
    some (line, name, bases, true, parts)
  | _ => none

theorem eq_of_loneClass? {xs : List Statement} {line : Nat} {name : String} {bases : List String}
    {parts : List Simple} (indented : Bool)
    (h : loneClass? xs = some (line, name, bases, indented, parts)) :
    xs = [.classDecl line name bases
      (if indented then .indented [.simple parts] else .inline parts)] := by
  unfold loneClass? at h
  split at h <;> cases h <;> rfl

theorem statementsOf_suitLine : statementsOf suitLine =
    [.classDecl 1 "Suit" ["SharesWithFrontend", "str", "Enum"] (.inline [.assignment])] :=
  eq_of_loneClass? false (by decide +kernel)

theorem statementsOf_suitLines : statementsOf suitLines =
    [.classDecl 1 "Suit" ["SharesWithFrontend", "str", "Enum"]
      (.indented [.simple [.assignment]])] :=
  eq_of_loneClass? true (by decide +kernel)

theorem sitesIn_suitLine : sitesIn suitLine =
    [⟨["Suit"], 1, ["SharesWithFrontend", "str", "Enum"], false, .inline [.assignment]⟩] := by
  rw [sitesIn, statementsOf_suitLine]
  rfl

theorem relaid_suit : Relaid suitLine suitLines 0 where
  same := by
    rw [statementsOf_suitLine, statementsOf_suitLines]
    rfl
  inline := by
    rw [sitesIn_suitLine]
    rfl
  indented := by
    rw [sitesIn, statementsOf_suitLines]
    rfl
  others := by
    intro i hi
    rw [sitesIn_suitLine, sitesIn, statementsOf_suitLines]
    cases i with
    | zero => exact absurd rfl hi
    | succ i => rfl

theorem isMeant_suit : IsMeant ["SharesWithFrontend"] (sitesIn suitLine) 0 := by
  rw [sitesIn_suitLine]
  refine ⟨⟨_, rfl, rfl, .inl (List.mem_singleton_self _)⟩, ?_, ?_⟩
  · exact .direct rfl (List.mem_of_getElem? (i := 2) rfl) (by decide +kernel)
  · exact .direct rfl List.mem_cons_self (by decide +kernel)

theorem found_of_relaid_suit : ∃ before after,
    foundNames ["SharesWithFrontend"] suitLine = before ++ after ∧
    foundNames ["SharesWithFrontend"] suitLines = before ++ "Suit" :: after := by
  obtain ⟨site, _, _, hsite, -, -, hline, hlines, -⟩ :=
    found_of_relaid ["SharesWithFrontend"] relaid_suit
  rw [sitesIn_suitLine] at hsite
  obtain rfl := Option.some.inj hsite
  exact ⟨_, _, hline, hlines isMeant_suit⟩

/-- The suit is meant to be found, and is missed on one line. -/
theorem suit_missed_on_its_line : Relaid suitLine suitLines 0 ∧
    IsMeant ["SharesWithFrontend"] (sitesIn suitLine) 0 ∧
    foundNames ["SharesWithFrontend"] suitLine = [] ∧
    foundNames ["SharesWithFrontend"] suitLines = ["Suit"] :=
  ⟨relaid_suit, isMeant_suit, by decide +kernel, by decide +kernel⟩

end EnumExport.Source
