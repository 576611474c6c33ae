import EnumExport.Proofs.Outcome
import EnumExport.Wording.Translator

/-!
# Flat files and groups

The catalog of a locale is the map of its flat file with the groups added under their names. So a
key is looked up in the flat file as a whole and then, from its first part on, in whichever of the
two has that part, `find?_merged`. A group is added only where the flat file does not have its name:
a line of the flat file goes before one of a group, as it should, but a name in the flat file also
keeps out a whole group, `Hides`.
-/

namespace EnumExport.Wording

/-- The texts of the flat file of a locale; none where there is no such file. -/
def flatCatalog (t : FileTree) (dir : Path) (locale : String) : Except Unloadable Catalog :=
  (flatPairs t dir locale).map Assoc.ofList

/-- The texts of each group file of a locale, under the name of the group. -/
def groupCatalogs (t : FileTree) (dir : Path) (locale : String) :
    Except Unloadable (List (String × Catalog)) :=
  if t.isFolder (dir.join locale) then
    (yamlFiles t (dir.join locale)).mapM fun file =>
      (loadPairs t file).map fun ps => (file.stem, ps)
  else .ok []

/-- The first part of a key. -/
def firstPart (key : String) : String := (Text.split '.' key).head?.getD ""

/-- The line of a key in the groups: its first part is the name of one, and the others lead to a
text in there. -/
def groupLine? (groups : List (String × Catalog)) (key : String) : Option String :=
  (Assoc.get? (firstPart key) groups).bind fun c =>
    (follow? (.map c) (Text.split '.' key).tail).bind Value.asText?

/-- Whether a line in a group is out of reach: the flat file has no line for the key, but something
under the name of the group. -/
structure Hides (flat : Catalog) (groups : List (String × Catalog)) (key : String) : Prop where
  /-- the flat file has no line for the key -/
  noLine : flat.find? key = none
  /-- it has the name of the group -/
  hasName : Value.field? (firstPart key) flat ≠ none
  /-- the group has a line for the key -/
  groupLine : groupLine? groups key ≠ none

/-! ## The catalog of a locale -/

/-- The texts of the flat file with those of the groups. -/
def merged (flat : Catalog) (groups : List (String × Catalog)) : Catalog :=
  groups.foldl (fun c g => Assoc.putNew (.text g.1) (.map g.2) c) flat

theorem foldlM_files (t : FileTree) (files : List Path) (c : Catalog) :
    files.foldlM (fun c file => do
      return Assoc.putNew (.text file.stem) (.map (← loadPairs t file)) c) c =
    (files.mapM fun file => (loadPairs t file).map fun ps => (file.stem, ps)).map (merged c) := by
  induction files generalizing c with
  | nil => rfl
  | cons file files ih =>
    rw [List.foldlM_cons, List.mapM_cons]
    cases loadPairs t file with
    | error e => rfl
    | ok ps =>
      refine (ih _).trans ?_
      cases files.mapM fun file => (loadPairs t file).map fun ps => (file.stem, ps) <;> rfl

theorem loadCatalog_eq (t : FileTree) (dir : Path) (locale : String) : loadCatalog t dir locale =
    (do return merged (← flatCatalog t dir locale) (← groupCatalogs t dir locale)) := by
  rw [loadCatalog, flatCatalog, groupCatalogs]
  cases flatPairs t dir locale with
  | error e => rfl
  | ok ps =>
    simp only [foldlM_files]
    split
    · refine Eq.trans ?_ (bind_pure_comp _ _).symm
      rfl
    · rfl

theorem field?_putNew (name key : String) (v : Value) (c : Catalog) :
    Value.field? key (Assoc.putNew (.text name) v c) =
      (Value.field? key c).or (if name = key then some v else none) := by
  rw [Assoc.putNew]
  split
  · next hhas =>
    split
    · next heq =>
      subst heq
      exact (Option.or_of_isSome hhas).symm
    · rw [Option.or_none]
  · rw [Value.field?, Assoc.get?_append, Assoc.get?, Value.beq_eq_same, Value.same_text]
    simp only [beq_iff_eq, Assoc.get?]
    rfl

/-- What stands under a name is in the flat file, or it is the group of that name. -/
theorem field?_merged (key : String) (flat : Catalog) (groups : List (String × Catalog)) :
    Value.field? key (merged flat groups) =
      (Value.field? key flat).or ((Assoc.get? key groups).map .map) := by
  induction groups generalizing flat with
  | nil => exact (Option.or_none).symm
  | cons g groups ih =>
    refine (ih _).trans ?_
    rw [field?_putNew, Option.or_assoc, Assoc.get?]
    by_cases hg : g.1 = key
    · simp [hg]
    · simp [hg]

theorem split_eq_cons (key : String) :
    Text.split '.' key = firstPart key :: (Text.split '.' key).tail := by
  obtain ⟨part, parts, hparts⟩ := List.exists_cons_of_ne_nil (Text.split_ne_nil key)
  rw [firstPart, hparts]
  rfl

/-- The line of a key is that of the flat file, or where the flat file does not have the name of the
group, that of the group. -/
theorem find?_merged (flat : Catalog) (groups : List (String × Catalog)) (key : String) :
    (merged flat groups).find? key = (flat.find? key).or
      (if (Value.field? (firstPart key) flat).isSome then none else groupLine? groups key) := by
  have hwhole : (Value.field? key (merged flat groups)).bind Value.asText? =
      (Value.field? key flat).bind Value.asText? := by
    rw [field?_merged]
    cases Value.field? key flat with
    | some v => rfl
    | none => cases Assoc.get? key groups <;> rfl
  rw [Catalog.find?, Catalog.find?, hwhole, groupLine?, split_eq_cons key]
  cases (Value.field? key flat).bind Value.asText? with
  | some line => rfl
  | none =>
    dsimp only [follow?, Value.pairs?, List.tail_cons]
    rw [field?_merged]
    cases Value.field? (firstPart key) flat with
    | some v => simp
    | none => cases Assoc.get? (firstPart key) groups <;> simp

/-! ## What is translated -/

theorem Catalog.translate_of_params {c : Catalog} {key : String} {params : List (Value × Value)}
    {ps : List (String × String)} (hparams : params? params = some ps) :
    c.translate key params = .ok ((c.find? key).elim key (fill ps)) := by
  rw [Catalog.translate]
  cases c.find? key with
  | none => rfl
  | some line =>
    dsimp only
    split
    · next hempty =>
      obtain rfl : params = [] := List.isEmpty_iff.mp hempty
      obtain rfl : ps = [] := (Option.some.inj hparams).symm
      rw [Option.elim_some, fill_nil]
    · rw [hparams]
      rfl

section Folder

variable {t : FileTree} {dir : Path} {locale start key : String} {flat : Catalog}
  {groups : List (String × Catalog)} {params : List (Value × Value)} {ps : List (String × String)}
  (hflat : flatCatalog t dir locale = .ok flat) (hgroups : groupCatalogs t dir locale = .ok groups)
  (hparams : params? params = some ps)
include hflat hgroups hparams

/-- Where the files can be read, a key is looked up in the catalog that is made of them. -/
theorem translate_merged :
    ({ source := .folder dir, locale := start } : Translator).translate t key params
      (.text locale) = .ok (((merged flat groups).find? key).elim key (fill ps)) := by
  have hload : loadCatalog t dir locale = .ok (merged flat groups) := by
    rw [loadCatalog_eq, hflat, hgroups]
    rfl
  have hcatalog : ({ source := .folder dir, locale := start } : Translator).catalog t
      (.text locale) = .ok (merged flat groups) := by
    simp only [Translator.catalog, catalogIn, Value.asText?, hload]
  rw [Translator.translate, hcatalog]
  simp only [bind, Except.bind, Catalog.translate_of_params hparams]
  rfl

/-- **Flat files before groups.** A key is translated by its line in the flat file; where there is
none, by its line in the group that its first part names; and where there is none there either, the
key stands for itself. Only where the flat file has no line for the key, but has the name of the
group, the line of the group is not found. -/
theorem translate_from_files :
    (¬ Hides flat groups key →
      ({ source := .folder dir, locale := start } : Translator).translate t key params
        (.text locale) = .ok (((flat.find? key).or (groupLine? groups key)).elim key (fill ps))) ∧
    (Hides flat groups key →
      ({ source := .folder dir, locale := start } : Translator).translate t key params
        (.text locale) = .ok key) := by
  rw [translate_merged hflat hgroups hparams, find?_merged]
  refine ⟨fun hfound => ?_, fun hhides => ?_⟩
  · split
    · next hname =>
      cases hline : flat.find? key with
      | some line => rfl
      | none =>
        cases hgroup : groupLine? groups key with
        | none => rfl
        | some line =>
          refine absurd ⟨hline, Option.isSome_iff_ne_none.mp hname, ?_⟩ hfound
          rw [hgroup]
          exact Option.some_ne_none line
    · rfl
  · rw [hhides.noLine, if_pos (Option.isSome_iff_ne_none.mpr hhides.hasName)]
    rfl

end Folder

/-! ## A shop with two groups -/

/-- A flat file with two sentences, one of them the name of a group, and two groups. -/
def shopFiles : FileTree where
  nodes :=
    [(["lang"], .folder),
      (["lang", "en.yaml"],
        .file (bytesOfText "\x7borders: Orders, enums.Suit: Suit of :who\x7d")),
      (["lang", "en"], .folder),
      (["lang", "en", "enums.yaml"], .file (bytesOfText "\x7bSuit: Suit, Color: Colour\x7d")),
      (["lang", "en", "orders.yaml"], .file (bytesOfText "\x7bpending: Awaiting\x7d"))]

/-- Files that are listed in order are listed as they stand. -/
theorem yamlFiles_of_listed {t : FileTree} {folder : Path} {files : List Path}
    (hlisted : ((t.items folder).filter fun i => isYamlName i.1).map (fun i => folder.child i.1) =
      files) (hsorted : files.Pairwise fun p q => p.le q = true) : yamlFiles t folder = files := by
  rw [yamlFiles, hlisted]
  exact List.mergeSort_of_pairwise hsorted

/-- What the files of the shop say of the keys below. -/
theorem shop_catalogs : ∃ flat groups,
    flatCatalog shopFiles { parts := ["lang"] } "en" = .ok flat ∧
      groupCatalogs shopFiles { parts := ["lang"] } "en" = .ok groups ∧
      flat.find? "enums.Color" = none ∧ (Value.field? "enums" flat).isSome = false ∧
      flat.find? "orders.pending" = none ∧ (Value.field? "orders" flat).isSome = true ∧
      groupLine? groups "enums.Color" = some "Colour" ∧
      groupLine? groups "orders.pending" = some "Awaiting" := by
  have hflat : (flatCatalog shopFiles { parts := ["lang"] } "en").toOption.map (fun c : Catalog =>
      (Catalog.find? c "enums.Color", (Value.field? "enums" c).isSome,
        Catalog.find? c "orders.pending", (Value.field? "orders" c).isSome)) =
          some (none, false, none, true) := by
    decide +kernel
  have hfolder : shopFiles.isFolder (({ parts := ["lang"] } : Path).join "en") = true := by
    decide +kernel
  have hfiles : yamlFiles shopFiles (({ parts := ["lang"] } : Path).join "en") =
      [{ parts := ["lang", "en", "enums.yaml"] }, { parts := ["lang", "en", "orders.yaml"] }] :=
    yamlFiles_of_listed (by decide +kernel) (by decide +kernel)
  have hgroups : (groupCatalogs shopFiles { parts := ["lang"] } "en").toOption.map (fun gs =>
      (groupLine? gs "enums.Color", groupLine? gs "orders.pending")) =
        some (some "Colour", some "Awaiting") := by
    rw [groupCatalogs, if_pos hfolder, hfiles]
    decide +kernel
  obtain ⟨flat, hflat, hsays⟩ := exists_of_toOption hflat
  obtain ⟨groups, hgroups, hlines⟩ := exists_of_toOption hgroups
  simp only [Prod.mk.injEq] at hsays hlines
  obtain ⟨hcolor, hname, hpending, horders⟩ := hsays
  exact ⟨flat, groups, hflat, hgroups, hcolor, hname, hpending, horders, hlines⟩

theorem translate_shop : ∃ flat groups,
    flatCatalog shopFiles { parts := ["lang"] } "en" = .ok flat ∧
      groupCatalogs shopFiles { parts := ["lang"] } "en" = .ok groups ∧
      params? [(.text "who", .text "you")] = some [("who", "you")] ∧
      ¬ Hides flat groups "enums.Color" ∧ flat.find? "enums.Color" = none ∧
      groupLine? groups "enums.Color" = some "Colour" ∧
      ({ source := .folder { parts := ["lang"] } } : Translator).translate shopFiles "enums.Color"
        [(.text "who", .text "you")] (.text "en") = .ok "Colour" := by
  obtain ⟨flat, groups, hflat, hgroups, hcolor, hname, -, -, hgroup, -⟩ := shop_catalogs
  have hfound : ¬ Hides flat groups "enums.Color" := by
    intro hhides
    have hpart : firstPart "enums.Color" = "enums" := by decide +kernel
    have hsome := Option.isSome_iff_ne_none.mpr hhides.hasName
    rw [hpart, hname] at hsome
    cases hsome
  have hparams : params? [(.text "who", .text "you")] = some [("who", "you")] := by decide +kernel
  refine ⟨flat, groups, hflat, hgroups, hparams, hfound, hcolor, hgroup, ?_⟩
  rw [(translate_from_files hflat hgroups hparams).1 hfound, hcolor, hgroup]
  have hfill : fill [("who", "you")] "Colour" = "Colour" := by decide +kernel
  exact congrArg _ hfill

/-- The sentence `Orders` keeps out the whole group `orders`. -/
theorem shop_hides_orders : ∃ flat groups,
    flatCatalog shopFiles { parts := ["lang"] } "en" = .ok flat ∧
      groupCatalogs shopFiles { parts := ["lang"] } "en" = .ok groups ∧
      flat.find? "orders.pending" = none ∧
      groupLine? groups "orders.pending" = some "Awaiting" ∧
      ({ source := .folder { parts := ["lang"] } } : Translator).translate shopFiles
        "orders.pending" [] (.text "en") = .ok "orders.pending" := by
  obtain ⟨flat, groups, hflat, hgroups, -, -, hpending, horders, -, hgroup⟩ := shop_catalogs
  have hpart : firstPart "orders.pending" = "orders" := by decide +kernel
  have hparams : params? [] = some [] := rfl
  refine ⟨flat, groups, hflat, hgroups, hpending, hgroup, ?_⟩
  rw [translate_merged hflat hgroups hparams, find?_merged, hpending, hpart, if_pos horders]
  rfl

end EnumExport.Wording
