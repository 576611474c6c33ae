import EnumExport.Proofs.Files.Place
import EnumExport.Proofs.Wording.Lookup
import EnumExport.Proofs.Yaml.Keys
import EnumExport.Wording.Check

/-!
# Leaves within reach

The check of a language file goes through the pairs of its maps, whatever their keys, and the
translator goes from key to key along the parts of a text. Where the keys are texts without points,
both come to the same leaves, and the path that the check writes for a leaf is what the translator
reads behind the name of the group.

* A leaf that the check passes is a text: `isText_of_contentErrors`.
* The file of a group is the only one that is found under its name: `get?_groups`.
* So each of its leaves is translated: `translate_leaf`.

Where a key is no text or has a point, the path that the check writes for a leaf leads nowhere.
-/

namespace EnumExport

namespace FileTree

variable {t : FileTree} {folder : Path} {name : String}

/-- A file that is read lies in a folder. -/
theorem exists_folder_of_read {bytes : List UInt8} (hname : name ≠ "..")
    (h : t.read (folder.child name) = .ok bytes) : ∃ here, t.locate folder = .ok here ∧
      t.at? here = some .folder ∧ t.at? (here ++ [name]) = some (.file bytes) := by
  rw [read, locate, Path.child, walk_append] at h
  obtain ⟨place, hplace, hfile⟩ := exists_of_bind_ok h
  obtain ⟨here, hhere, hstep⟩ := exists_of_bind_ok hplace
  rw [walk] at hstep
  split at hstep
  · cases hstep
  · cases hstep
  · next hfolder =>
    rw [if_neg hname, walk] at hstep
    cases hstep
    refine ⟨here, hhere, hfolder, ?_⟩
    split at hfile
    · cases hfile
    · cases hfile
    · next hat =>
      cases hfile
      exact hat

/-- What lies in a folder is one of its items. -/
theorem mem_items {here : Place} {n : FileNode} (hlocate : t.locate folder = .ok here)
    (h : t.at? (here ++ [name]) = some n) : (name, n) ∈ t.items folder := by
  have hplace : (here ++ [name]).isEmpty = false := by simp
  rw [at?, hplace] at h
  obtain ⟨⟨place, m⟩, hmem, hkey, rfl⟩ := Assoc.mem_of_get? h
  obtain rfl : place = here ++ [name] := beq_iff_eq.mp hkey
  have hbelow : ([name], m) ∈ t.below here := by
    refine List.mem_filterMap.mpr ⟨_, hmem, ?_⟩
    rw [Path.dropFront?_append]
  rw [items_eq, hlocate]
  exact List.mem_filterMap.mpr ⟨_, hbelow, rfl⟩

end FileTree

namespace Wording

/-- `Leads v ks x` says that the keys `ks` lead from `v` to `x`, from map to map. -/
inductive Leads : Value → List Value → Value → Prop
  /-- without keys one stays -/
  | here (v : Value) : Leads v [] v
  /-- the first key stands in the map, and the others lead on from its value -/
  | under {ps : List (Value × Value)} {k v x : Value} {ks : List Value} (pair : (k, v) ∈ ps)
      (rest : Leads v ks x) : Leads (.map ps) (k :: ks) x

/-- The path of a key below a path. -/
def pathBelow (path : String) (k : Value) : String :=
  if path = "" then k.display else path ++ "." ++ k.display

/-- The path of some keys as the check writes it. -/
def pathOf (ks : List Value) : String := ks.foldl pathBelow ""

/-- The file of a group. -/
def groupFile (dir : Path) (locale group : String) : Path :=
  (dir.join locale).child (group ++ ".yaml")

/-! ## What the check finds -/

theorem pairErrors_eq (path : String) (ps : List (Value × Value)) :
    pairErrors path ps = ps.flatMap fun p => valueErrors (pathBelow path p.1) p.2 := by
  induction ps with
  | nil => rw [pairErrors, List.flatMap_nil]
  | cons p ps ih =>
    rw [pairErrors, List.flatMap_cons, ih]
    rfl

/-- A leaf that is no text is found, under the path of its keys. -/
theorem mem_valueErrors {v x : Value} {ks : List Value} (h : Leads v ks x)
    (hleaf : x.isMap = false) (htext : x.isText = false) (path : String) :
    "'" ++ ks.foldl pathBelow path ++ "' must be a string or a mapping" ∈ valueErrors path v := by
  induction h generalizing path with
  | here v =>
    rw [valueErrors.eq_def]
    split
    · cases hleaf
    · rw [if_neg (Bool.eq_false_iff.mp htext)]
      exact List.mem_singleton_self _
  | under hpair _ ih =>
    rw [valueErrors, pairErrors_eq]
    exact List.mem_flatMap.mpr ⟨_, hpair, ih hleaf htext _⟩

/-- Where the check finds nothing, the leaves are texts. -/
theorem isText_of_contentErrors {content x : Value} {k : Value} {ks : List Value}
    (h : contentErrors content = []) (hlead : Leads content (k :: ks) x)
    (hleaf : x.isMap = false) : x.isText = true := by
  cases htext : x.isText with
  | true => rfl
  | false =>
    have herror := mem_valueErrors hlead hleaf htext ""
    cases hlead with
    | under hpair hrest =>
      rw [contentErrors] at h
      rw [valueErrors, h] at herror
      cases herror

theorem checkFile_of_loadYaml {t : FileTree} {p : Path} {content : Value}
    (h : loadYaml t p = .ok content) : checkFile t p = .ok (contentErrors content) := by
  rw [checkFile, fileErrors, h]

/-! ## What a file holds -/

theorem exists_read_of_loadYaml {t : FileTree} {p : Path} {v : Value}
    (h : loadYaml t p = .ok v) :
    ∃ bytes s, t.read p = .ok bytes ∧ Yaml.read s = .ok v := by
  rw [loadYaml, FileTree.readText] at h
  cases hbytes : t.read p with
  | error e =>
    rw [hbytes] at h
    cases h
  | ok bytes =>
    rw [hbytes] at h
    simp only [bind, Except.bind] at h
    split at h
    · cases h
    · next s _ =>
      cases hread : Yaml.read s with
      | error e =>
        rw [hread] at h
        cases h
      | ok w =>
        rw [hread] at h
        cases h
        exact ⟨bytes, s, rfl, hread⟩

theorem Leads.isDocument {v x : Value} {ks : List Value} (h : Leads v ks x)
    (hv : v.isDocument = true) : x.isDocument = true := by
  induction h with
  | here v => exact hv
  | under hpair _ ih => exact ih (Value.pairsDocument_iff.mp hv _ hpair).2

/-- Texts that lead to a value are the parts that the translator follows to it. -/
theorem Leads.follow?_eq {v x : Value} {names : List String} (h : Leads v (names.map .text) x)
    (hapart : v.KeysApart) : follow? v names = some x := by
  induction names generalizing v with
  | nil =>
    cases h
    rfl
  | cons name names ih =>
    cases h with
    | under hpair hrest =>
      simp only [follow?, Value.pairs?, hapart.field?_of_mem hpair, Option.bind_some]
      exact ih hrest (hapart.values _ hpair)

/-! ## Paths as the check writes them -/

theorem foldl_pathBelow {path : String} (hpath : path ≠ "") (names : List String) :
    (names.map Value.text).foldl pathBelow path = ".".intercalate (path :: names) := by
  induction names generalizing path with
  | nil => exact String.intercalate_singleton.symm
  | cons name names ih =>
    have hbelow : pathBelow path (.text name) = path ++ "." ++ name := if_neg hpath
    have hne : path ++ "." ++ name ≠ "" := by simp [hpath]
    rw [List.map_cons, List.foldl_cons, hbelow, ih hne]
    cases names with
    | nil => simp
    | cons next names => simp [String.intercalate_cons_cons, String.append_assoc]

/-- The path of texts is made of them with points between, when the first one is not empty. -/
theorem pathOf_texts {name : String} (hname : name ≠ "") (names : List String) :
    pathOf ((name :: names).map .text) = ".".intercalate (name :: names) := by
  have hfirst : pathBelow "" (.text name) = name := if_pos rfl
  rw [pathOf, List.map_cons, List.foldl_cons, hfirst]
  exact foldl_pathBelow hname names

/-! ## The files of the groups -/

theorem isYamlName_iff {name : String} :
    isYamlName name = true ↔ ∃ base, name = base ++ ".yaml" := by
  rw [isYamlName, ← String.endsWith_toSlice, String.Slice.endsWith_string_iff]
  constructor
  · rintro ⟨front, hfront⟩
    refine ⟨String.ofList front, String.toList_inj.mp ?_⟩
    simpa using hfront.symm
  · rintro ⟨base, rfl⟩
    simp

theorem stem_child {base : String} (hbase : base ≠ "") (folder : Path) :
    (folder.child (base ++ ".yaml")).stem = base := by
  have hname : (folder.child (base ++ ".yaml")).name = base ++ ".yaml" := by
    simp [Path.name, Path.child]
  have hback : (base ++ ".yaml").toList.reverse =
      ['l', 'm', 'a', 'y'] ++ '.' :: base.toList.reverse := by
    simp
  have hending : (base ++ ".yaml").toList.reverse.takeWhile (· ≠ '.') = ['l', 'm', 'a', 'y'] := by
    rw [hback]
    rfl
  rw [Path.stem, hname, Path.splitName, hending]
  simp [hbase]

theorem stem_child_bare (folder : Path) : (folder.child ("" ++ ".yaml")).stem = ".yaml" := by
  have hname : (folder.child ("" ++ ".yaml")).name = ".yaml" := by
    simp [Path.name, Path.child]
  rw [Path.stem, hname]
  rfl

theorem mem_yamlFiles_iff {t : FileTree} {folder file : Path} : file ∈ yamlFiles t folder ↔
    ∃ i ∈ t.items folder, isYamlName i.1 = true ∧ folder.child i.1 = file := by
  simp only [yamlFiles, List.mem_mergeSort, List.mem_map, List.mem_filter, and_assoc]

/-- A language file that is read lies in a folder, as one of the language files there. -/
theorem mem_yamlFiles_of_read {t : FileTree} {folder : Path} {name : String} {bytes : List UInt8}
    (hyaml : isYamlName name = true) (h : t.read (folder.child name) = .ok bytes) :
    t.isFolder folder = true ∧ folder.child name ∈ yamlFiles t folder := by
  have hname : name ≠ ".." := by
    rintro rfl
    exact absurd hyaml (by decide +kernel)
  obtain ⟨here, hlocate, hfolder, hfile⟩ := FileTree.exists_folder_of_read hname h
  exact ⟨FileTree.isFolder_of_locate hlocate hfolder,
    mem_yamlFiles_iff.mpr ⟨_, FileTree.mem_items hlocate hfile, hyaml, rfl⟩⟩

/-- A stem without points is all that stands before the ending. -/
theorem stem_child_of_point_not_mem {base : String} {folder : Path}
    (h : '.' ∉ (folder.child (base ++ ".yaml")).stem.toList) :
    (folder.child (base ++ ".yaml")).stem = base := by
  by_cases hbase : base = ""
  · rw [hbase, stem_child_bare] at h
    exact absurd (by decide +kernel) h
  · exact stem_child hbase folder

theorem point_not_mem_of_stem {base : String} {folder : Path}
    (h : '.' ∉ (folder.child (base ++ ".yaml")).stem.toList) : '.' ∉ base.toList := by
  rwa [stem_child_of_point_not_mem h] at h

/-- So it is the stem of one language file only. -/
theorem eq_of_stem {t : FileTree} {folder file : Path} (hpoint : '.' ∉ file.stem.toList)
    (hfile : file ∈ yamlFiles t folder) : file = folder.child (file.stem ++ ".yaml") := by
  obtain ⟨i, -, hyaml, rfl⟩ := mem_yamlFiles_iff.mp hfile
  obtain ⟨base, hbase⟩ := isYamlName_iff.mp hyaml
  rw [hbase] at hpoint ⊢
  rw [stem_child_of_point_not_mem hpoint]

/-- Where the files of a locale can be read, so can its groups. -/
theorem exists_groups {t : FileTree} {dir : Path} {locale : String}
    (hfiles : ∀ file ∈ yamlFiles t (dir.join locale), ∃ v, loadYaml t file = .ok v) :
    ∃ groups, groupCatalogs t dir locale = .ok groups := by
  rw [groupCatalogs]
  split
  · refine FailsWith.isOk (P := fun _ => False) (.mapM fun file hfile => ?_) fun _ => id
    obtain ⟨v, hv⟩ := hfiles file hfile
    rw [loadPairs, hv]
    exact .ok _
  · exact ⟨[], rfl⟩

theorem flatCatalog_of_no_file {t : FileTree} {dir : Path} {locale : String}
    (h : t.has (dir.join (locale ++ ".yaml")) = false) : flatCatalog t dir locale = .ok [] := by
  rw [flatCatalog, flatPairs, h]
  rfl

theorem find?_empty (key : String) : Catalog.find? [] key = none := by
  rw [Catalog.find?, split_eq_cons]
  rfl

section Reach

variable {t : FileTree} {dir : Path} {locale group start : String} {content : Value}
  (hpoint : '.' ∉ (groupFile dir locale group).stem.toList)
  (hcontent : loadYaml t (groupFile dir locale group) = .ok content)
include hpoint hcontent

/-- The pairs of the file stand under the name of the group, and no other file has it. -/
theorem get?_groups {groups : List (String × Catalog)}
    (hgroups : groupCatalogs t dir locale = .ok groups) :
    Assoc.get? group groups = some (content.pairs?.getD []) := by
  have hpairs : loadPairs t (groupFile dir locale group) = .ok (content.pairs?.getD []) := by
    rw [loadPairs, hcontent]
    rfl
  obtain ⟨bytes, s, hbytes, -⟩ := exists_read_of_loadYaml hcontent
  obtain ⟨hfolder, hfile⟩ := mem_yamlFiles_of_read (isYamlName_iff.mpr ⟨group, rfl⟩) hbytes
  rw [groupCatalogs, if_pos hfolder] at hgroups
  have hmem : (group, content.pairs?.getD []) ∈ groups := by
    refine (mem_mapM_ok_iff hgroups _).mpr ⟨groupFile dir locale group, hfile, ?_⟩
    rw [hpairs, groupFile, stem_child_of_point_not_mem hpoint]
    rfl
  obtain ⟨c, hc⟩ := Assoc.exists_get?_of_mem hmem (beq_self_eq_true _)
  obtain ⟨⟨name, c'⟩, hother, hname, rfl⟩ := Assoc.mem_of_get? hc
  obtain ⟨file, hfile', hmade⟩ := (mem_mapM_ok_iff hgroups _).mp hother
  obtain ⟨ps, hps, hpair⟩ := exists_of_map_ok hmade
  obtain ⟨hstem, rfl⟩ := Prod.mk.inj hpair
  -- a file with that stem is the file of the group
  have hstem : file.stem = group := hstem.trans (beq_iff_eq.mp hname)
  have hpoint' : '.' ∉ file.stem.toList := by
    rw [hstem]
    exact point_not_mem_of_stem hpoint
  obtain rfl : file = groupFile dir locale group := by
    rw [eq_of_stem hpoint' hfile', hstem]
    rfl
  rw [hc, ← Except.ok.inj (hpairs.symm.trans hps)]

/-- **Leaves within reach.** Take a locale without a flat file, all of whose group files can be
read. Where the check finds nothing wrong with the file of a group, every leaf in it whose keys are
texts without points is a text, and that is what the name of the group with the keys behind it is
translated into. The keys stand there as the check writes them, a first key that is empty aside. -/
theorem translate_leaf (hflat : t.has (dir.join (locale ++ ".yaml")) = false)
    (hfiles : ∀ file ∈ yamlFiles t (dir.join locale), ∃ v, loadYaml t file = .ok v)
    (hcheck : checkFile t (groupFile dir locale group) = .ok []) {names : List String} {x : Value}
    (hnames : names ≠ []) (hpoints : ∀ name ∈ names, '.' ∉ name.toList)
    (hlead : Leads content (names.map .text) x) (hleaf : x.isMap = false) :
    ∃ text, x = .text text ∧
      ({ source := .folder dir, locale := start } : Translator).translate t
        (group ++ "." ++ ".".intercalate names) [] (.text locale) = .ok text ∧
      (names.head? ≠ some "" → pathOf (names.map .text) = ".".intercalate names) := by
  obtain ⟨-, s, -, hread⟩ := exists_read_of_loadYaml hcontent
  have hdoc := Yaml.isDocument_of_read hread
  have hapart := Yaml.keysApart_of_read hread
  obtain ⟨groups, hgroups⟩ := exists_groups hfiles
  obtain ⟨name, rest, rfl⟩ := List.exists_cons_of_ne_nil hnames
  -- the check passes the leaf, so it is a text
  rw [checkFile_of_loadYaml hcontent] at hcheck
  have htext : x.isText = true := isText_of_contentErrors (Except.ok.inj hcheck) hlead hleaf
  obtain ⟨text, rfl⟩ := Value.eq_text_of_isText (hlead.isDocument hdoc) htext
  -- the parts of the key are the name of the group and the keys
  have hsplit : Text.split '.' (group ++ "." ++ ".".intercalate (name :: rest)) =
      group :: name :: rest := by
    rw [Text.split_append_point, Text.split_of_point_not_mem (point_not_mem_of_stem hpoint),
      Text.split_intercalate hnames hpoints]
    rfl
  have hline : groupLine? groups (group ++ "." ++ ".".intercalate (name :: rest)) = some text := by
    have hfollow := hlead.follow?_eq hapart
    cases hlead with
    | under hpair hlead =>
      rw [groupLine?, firstPart, hsplit, List.head?_cons, Option.getD_some,
        get?_groups hpoint hcontent hgroups, Option.bind_some, List.tail_cons]
      exact Option.bind_eq_some_iff.mpr ⟨_, hfollow, rfl⟩
  refine ⟨text, rfl, ?_, fun hfirst => pathOf_texts (fun h => hfirst (congrArg some h)) rest⟩
  rw [translate_merged (flatCatalog_of_no_file hflat) hgroups rfl, find?_merged, find?_empty, hline]
  exact congrArg _ (fill_nil text)

end Reach

/-- A leaf that is not translated, though its file passes the check and there is no flat file. -/
structure OutOfReach (t : FileTree) (dir : Path) (locale group : String) (keys : List Value)
    (text : String) : Prop where
  /-- the locale has no flat file -/
  noFlat : t.has (dir.join (locale ++ ".yaml")) = false
  /-- the file of the group passes the check -/
  passes : checkFile t (groupFile dir locale group) = .ok []
  /-- the text is a leaf in it -/
  leaf : ∃ content, loadYaml t (groupFile dir locale group) = .ok content ∧
    Leads content keys (.text text)
  /-- the path that the check writes for the leaf is not translated into it -/
  lost : ({ source := .folder dir } : Translator).translate t (group ++ "." ++ pathOf keys) []
    (.text locale) ≠ .ok text

/-! ## A deck of cards -/

/-- Two groups. In the first, one leaf has a key that is read as a truth value, one has a key with a
point, and one has an empty key; the second has a point in its name. -/
def deckFiles : FileTree where
  nodes :=
    [(["lang"], .folder), (["lang", "en"], .folder),
      (["lang", "en", "cards.yaml"], .file (bytesOfText
        ("\x7bSuit: \x7bHearts: Hearts\x7d, Joker: \x7bOn: Enabled\x7d, Suit.Spades: Spades, " ++
          "\"\": \x7bAce: One\x7d\x7d"))),
      (["lang", "en", "old.cards.yaml"], .file (bytesOfText "\x7bSuit: Colour\x7d"))]

/-- Next to a group is a file that cannot be read. -/
def tornFiles : FileTree where
  nodes :=
    [(["lang"], .folder), (["lang", "en"], .folder),
      (["lang", "en", "cards.yaml"], .file (bytesOfText "\x7bSuit: Colour\x7d")),
      (["lang", "en", "rules.yaml"], .file (bytesOfText "["))]

/-- The path of a group of either. -/
def deckGroup (group : String) : Path := groupFile { parts := ["lang"] } "en" group

/-- What the first group of the deck holds. -/
def deckLeaves : Value := .map
  [(.text "Suit", .map [(.text "Hearts", .text "Hearts")]),
    (.text "Joker", .map [(.bool true, .text "Enabled")]), (.text "Suit.Spades", .text "Spades"),
    (.text "", .map [(.text "Ace", .text "One")])]

/-- The texts in a value like that. -/
def deckTexts : Value → List String
  | .map [(.text suit, .map [(.text hearts, .text heartsLine)]),
      (.text joker, .map [(.bool true, .text jokerLine)]), (.text spades, .text spadesLine),
      (.text empty, .map [(.text ace, .text aceLine)])] =>
    [suit, hearts, heartsLine, joker, jokerLine, spades, spadesLine, empty, ace, aceLine]
  | _ => []

/-- The texts in a map of one line. -/
def lineTexts : Value → List String
  | .map [(.text key, .text line)] => [key, line]
  | _ => []

theorem load_deck : loadYaml deckFiles (deckGroup "cards") = .ok deckLeaves := by
  have htexts : (loadYaml deckFiles (deckGroup "cards")).toOption.map deckTexts =
      some ["Suit", "Hearts", "Hearts", "Joker", "Enabled", "Suit.Spades", "Spades", "", "Ace",
        "One"] := by
    decide +kernel
  obtain ⟨content, hcontent, htexts⟩ := exists_of_toOption htexts
  unfold deckTexts at htexts
  split at htexts
  · simp only [List.cons.injEq, and_true] at htexts
    obtain ⟨rfl, rfl, rfl, rfl, rfl, rfl, rfl, rfl, rfl, rfl⟩ := htexts
    exact hcontent
  · cases htexts

/-- A file of one line is known by the two texts in it. -/
theorem load_line {t : FileTree} {p : Path} {key line : String}
    (h : (loadYaml t p).toOption.map lineTexts = some [key, line]) :
    loadYaml t p = .ok (.map [(.text key, .text line)]) := by
  obtain ⟨content, hcontent, htexts⟩ := exists_of_toOption h
  unfold lineTexts at htexts
  split at htexts
  · simp only [List.cons.injEq, and_true] at htexts
    obtain ⟨rfl, rfl⟩ := htexts
    exact hcontent
  · cases htexts

theorem deck_files : yamlFiles deckFiles (({ parts := ["lang"] } : Path).join "en") =
    [deckGroup "cards", deckGroup "old.cards"] :=
  yamlFiles_of_listed (by decide +kernel) (by decide +kernel)

theorem torn_files : yamlFiles tornFiles (({ parts := ["lang"] } : Path).join "en") =
    [deckGroup "cards", deckGroup "rules"] :=
  yamlFiles_of_listed (by decide +kernel) (by decide +kernel)

theorem load_old : loadYaml deckFiles (deckGroup "old.cards") =
    .ok (.map [(.text "Suit", .text "Colour")]) := load_line (by decide +kernel)

theorem deck_noFlat :
    deckFiles.has (({ parts := ["lang"] } : Path).join ("en" ++ ".yaml")) = false := by
  decide +kernel

theorem deck_passes : checkFile deckFiles (deckGroup "cards") = .ok [] := by
  refine (checkFile_of_loadYaml load_deck).trans (congrArg Except.ok ?_)
  decide +kernel

theorem translate_hearts :
    '.' ∉ (deckGroup "cards").stem.toList ∧
      deckFiles.has (({ parts := ["lang"] } : Path).join ("en" ++ ".yaml")) = false ∧
      (∀ file ∈ yamlFiles deckFiles (({ parts := ["lang"] } : Path).join "en"),
        ∃ v, loadYaml deckFiles file = .ok v) ∧
      checkFile deckFiles (deckGroup "cards") = .ok [] ∧
      (∀ name ∈ ["Suit", "Hearts"], '.' ∉ name.toList) ∧
      ∃ content, loadYaml deckFiles (deckGroup "cards") = .ok content ∧
        Leads content (["Suit", "Hearts"].map .text) (.text "Hearts") ∧
        ({ source := .folder { parts := ["lang"] } } : Translator).translate deckFiles
          ("cards" ++ "." ++ ".".intercalate ["Suit", "Hearts"]) [] (.text "en") = .ok "Hearts" ∧
        pathOf (["Suit", "Hearts"].map .text) = ".".intercalate ["Suit", "Hearts"] := by
  have hpoint : '.' ∉ (deckGroup "cards").stem.toList := by decide +kernel
  have hpoints : ∀ name ∈ ["Suit", "Hearts"], '.' ∉ name.toList := by decide +kernel
  have hfiles : ∀ file ∈ yamlFiles deckFiles (({ parts := ["lang"] } : Path).join "en"),
      ∃ v, loadYaml deckFiles file = .ok v := by
    intro file hfile
    rw [deck_files, List.mem_cons, List.mem_singleton] at hfile
    rcases hfile with rfl | rfl
    · exact ⟨_, load_deck⟩
    · exact ⟨_, load_old⟩
  have hlead : Leads deckLeaves (["Suit", "Hearts"].map .text) (.text "Hearts") :=
    .under (.head _) (.under (.head _) (.here _))
  obtain ⟨text, htext, htranslate, hpath⟩ := translate_leaf hpoint load_deck deck_noFlat hfiles
    deck_passes (List.cons_ne_nil _ _) hpoints hlead rfl
  obtain rfl := Value.text.inj htext
  exact ⟨hpoint, deck_noFlat, hfiles, deck_passes, hpoints, _, load_deck, hlead, htranslate,
    hpath (by decide)⟩

theorem lost_of_echo {t : FileTree} {dir : Path} {locale key text : String}
    {groups : List (String × Catalog)} (hflat : t.has (dir.join (locale ++ ".yaml")) = false)
    (hgroups : groupCatalogs t dir locale = .ok groups) (hline : groupLine? groups key = none)
    (hne : key ≠ text) :
    ({ source := .folder dir } : Translator).translate t key [] (.text locale) ≠ .ok text := by
  rw [translate_merged (flatCatalog_of_no_file hflat) hgroups rfl, find?_merged, find?_empty, hline]
  exact fun h => hne (Except.ok.inj h)

theorem lost_of_error {t : FileTree} {dir : Path} {locale key text : String} {e : Unloadable}
    (hgroups : groupCatalogs t dir locale = .error e) :
    ({ source := .folder dir } : Translator).translate t key [] (.text locale) ≠ .ok text := by
  have hload : ∃ e, loadCatalog t dir locale = .error e := by
    rw [loadCatalog_eq, hgroups]
    cases flatCatalog t dir locale with
    | error e => exact ⟨e, rfl⟩
    | ok flat => exact ⟨e, rfl⟩
  obtain ⟨e, hload⟩ := hload
  intro h
  simp only [Translator.translate, Translator.catalog, catalogIn, Value.asText?, hload] at h
  cases h

/-- No group has a line under the paths of these leaves. -/
theorem deck_groups : ∃ groups,
    groupCatalogs deckFiles { parts := ["lang"] } "en" = .ok groups ∧
      groupLine? groups "cards.Joker.True" = none ∧
      groupLine? groups "cards.Suit.Spades" = none ∧ groupLine? groups "cards.Ace" = none ∧
      groupLine? groups "old.cards.Suit" = none := by
  have hfolder : deckFiles.isFolder (({ parts := ["lang"] } : Path).join "en") = true := by
    decide +kernel
  rw [groupCatalogs, if_pos hfolder, deck_files]
  simp only [List.mapM_cons, loadPairs, load_deck, load_old]
  exact ⟨_, rfl, by decide +kernel, by decide +kernel, by decide +kernel, by decide +kernel⟩

theorem torn_groups : ∃ e, groupCatalogs tornFiles { parts := ["lang"] } "en" = .error e := by
  have hfolder : tornFiles.isFolder (({ parts := ["lang"] } : Path).join "en") = true := by
    decide +kernel
  have hrules : (loadYaml tornFiles (deckGroup "rules")).toOption.isSome = false := by
    decide +kernel
  rw [groupCatalogs, if_pos hfolder, torn_files]
  cases hload : loadYaml tornFiles (deckGroup "rules") with
  | error e =>
    refine exists_mapM_error (a := deckGroup "rules") (e := e) (by simp) ?_
    rw [loadPairs, hload]
    rfl
  | ok v =>
    rw [hload] at hrules
    cases hrules

/-- Keys that are no texts, points in keys and in names of groups, and files that cannot be read
keep leaves out of reach, and so does a first key that the path leaves out. -/
theorem leaves_out_of_reach :
    OutOfReach deckFiles { parts := ["lang"] } "en" "cards" [.text "Joker", .bool true] "Enabled" ∧
      OutOfReach deckFiles { parts := ["lang"] } "en" "cards" [.text "Suit.Spades"] "Spades" ∧
      OutOfReach deckFiles { parts := ["lang"] } "en" "cards" [.text "", .text "Ace"] "One" ∧
      OutOfReach deckFiles { parts := ["lang"] } "en" "old.cards" [.text "Suit"] "Colour" ∧
      OutOfReach tornFiles { parts := ["lang"] } "en" "cards" [.text "Suit"] "Colour" := by
  obtain ⟨groups, hgroups, hjoker, hspades, hace, hsuit⟩ := deck_groups
  obtain ⟨e, herror⟩ := torn_groups
  have hold : checkFile deckFiles (deckGroup "old.cards") = .ok [] := by
    refine (checkFile_of_loadYaml load_old).trans (congrArg Except.ok ?_)
    decide +kernel
  have hcards : loadYaml tornFiles (deckGroup "cards") =
      .ok (.map [(.text "Suit", .text "Colour")]) := load_line (by decide +kernel)
  refine ⟨?_, ?_, ?_, ?_, ?_⟩
  · exact { noFlat := deck_noFlat
            passes := deck_passes
            leaf := ⟨_, load_deck, .under (.tail _ (.head _)) (.under (.head _) (.here _))⟩
            lost := lost_of_echo deck_noFlat hgroups hjoker (by decide) }
  · exact { noFlat := deck_noFlat
            passes := deck_passes
            leaf := ⟨_, load_deck, .under (.tail _ (.tail _ (.head _))) (.here _)⟩
            lost := lost_of_echo deck_noFlat hgroups hspades (by decide) }
  · exact { noFlat := deck_noFlat
            passes := deck_passes
            leaf := ⟨_, load_deck,
              .under (.tail _ (.tail _ (.tail _ (.head _)))) (.under (.head _) (.here _))⟩
            lost := lost_of_echo deck_noFlat hgroups hace (by decide) }
  · exact { noFlat := deck_noFlat
            passes := hold
            leaf := ⟨_, load_old, .under (.head _) (.here _)⟩
            lost := lost_of_echo deck_noFlat hgroups hsuit (by decide) }
  · exact { noFlat := by decide +kernel
            passes := (checkFile_of_loadYaml hcards).trans (congrArg Except.ok (by decide +kernel))
            leaf := ⟨_, hcards, .under (.head _) (.here _)⟩
            lost := lost_of_error herror }

end Wording

end EnumExport
