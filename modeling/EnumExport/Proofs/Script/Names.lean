import EnumExport.Proofs.Script.Fields
import Mathlib.Data.List.Forall2

/-!
# Names in a module

The names of the values that a module declares are those of its constants and functions, which
depend on the strategy and on the shape of the entry only (`fixedNames`), and the name of its
object. They are read off the text, too: the lines that begin the declaration of a value are one for
each of these names, in order.

* `Item.Opens` says so of one item, with one lemma for each kind of item, `opens_…`.
* `Declares` says it of a row of items, with one lemma for every emitter, `declares_…`.

The fixed names differ from each other. So a name is declared twice just where the object goes by
the name of a constant or function: `names_of_generate`.
-/

namespace EnumExport.Script

/-! ## Lines that begin a declaration -/

/-- How the declaration of a value begins. -/
def openings : List String := ["import \x7b ", "const ", "export const ", "function "]

/-- Whether a line begins the declaration of a value. -/
def opensValue (line : String) : Bool := openings.any fun o => o.toList.isPrefixOf line.toList

/-- A line begins the declaration of the value of a name. -/
def Opens (line name : String) : Prop :=
  ∃ o ∈ openings, ∃ c ∈ [' ', ':', '('], ∃ rest : List Char,
    line.toList = o.toList ++ name.toList ++ c :: rest

theorem Opens.opensValue {line name : String} (h : Opens line name) : opensValue line = true := by
  obtain ⟨o, ho, c, -, rest, hline⟩ := h
  refine List.any_eq_true.mpr ⟨o, ho, ?_⟩
  rw [hline, List.append_assoc, List.isPrefixOf_iff_prefix]
  exact List.prefix_append _ _

namespace Item

/-- Among the lines of an item, one begins the declaration of the value that the item declares, and
the others begin none. -/
def Opens (i : Item) : Prop :=
  List.Forall₂ Script.Opens (i.lines.filter opensValue) i.declares?.toList

variable {i : Item}

theorem opens_of_none (hdeclares : i.declares? = none) (h : ∀ l ∈ i.lines, opensValue l = false) :
    i.Opens := by
  have hlines : i.lines.filter opensValue = [] :=
    List.filter_eq_nil_iff.mpr fun l hl => by simp [h l hl]
  rw [Opens, hdeclares, hlines]
  exact .nil

theorem opens_of_first {name first : String} {rest : List String}
    (hdeclares : i.declares? = some name) (hlines : i.lines = first :: rest)
    (hfirst : Script.Opens first name) (hrest : ∀ l ∈ rest, opensValue l = false) : i.Opens := by
  have hnone : rest.filter opensValue = [] :=
    List.filter_eq_nil_iff.mpr fun l hl => by simp [hrest l hl]
  rw [Opens, hdeclares, hlines, List.filter_cons_of_pos hfirst.opensValue, hnone]
  exact .cons hfirst .nil

/-! Each kind of item has this form; of functions and objects that holds where their further lines
begin no declaration. -/

@[simp] theorem opens_blank : blank.Opens := opens_of_none rfl (by decide)

@[simp] theorem opens_comment (text : String) : (comment text).Opens :=
  opens_of_none rfl (by simp [lines, opensValue, openings, List.isPrefixOf])

@[simp] theorem opens_docComment (ls : List String) : (docComment ls).Opens := by
  refine opens_of_none rfl fun l hl => ?_
  simp only [lines, List.cons_append, List.mem_cons, List.mem_append, List.mem_map,
    List.not_mem_nil, or_false] at hl
  rcases hl with rfl | ⟨k, -, rfl⟩ | rfl
  · decide
  · split <;> simp [opensValue, openings, List.isPrefixOf]
  · decide

@[simp] theorem opens_helperImport (name source : String) : (helperImport name source).Opens :=
  opens_of_first rfl rfl
    ⟨"import \x7b ", by simp [openings], ' ', by simp, _, by simp; rfl⟩ (by simp)

@[simp] theorem opens_typeAlias (exported : Bool) (name : String) (body : TypeBody) :
    (typeAlias exported name body).Opens := by
  have hfirst : ∀ rest, opensValue (opening exported ("type " ++ rest)) = false := by
    intro rest
    cases exported <;> simp [opening, opensValue, openings, List.isPrefixOf]
  refine opens_of_none rfl fun l hl => ?_
  cases body with
  | union alternatives =>
    obtain rfl := List.mem_singleton.mp hl
    simp only [String.append_assoc]
    exact hfirst _
  | record fields =>
    simp only [lines, List.cons_append, List.mem_cons, List.mem_append, List.mem_map,
      List.not_mem_nil, or_false] at hl
    rcases hl with rfl | ⟨f, -, rfl⟩ | rfl
    · rw [String.append_assoc]
      exact hfirst _
    · simp [Field.line, opensValue, openings, List.isPrefixOf]
    · decide

@[simp] theorem opens_records (name : String) (rows : List (List Property)) :
    (records name rows).Opens := by
  refine opens_of_first rfl rfl
    ⟨"const ", by simp [openings], ' ', by simp, _, by simp; rfl⟩ fun l hl => ?_
  rcases List.mem_append.mp hl with hl | hl
  · obtain ⟨row, -, hl⟩ := List.mem_flatMap.mp hl
    simp only [List.cons_append, List.mem_cons, List.mem_append, List.mem_map, List.not_mem_nil,
      or_false] at hl
    rcases hl with rfl | ⟨p, -, rfl⟩ | rfl
    · decide
    · simp [opensValue, openings, List.isPrefixOf]
    · decide
  · obtain rfl := List.mem_singleton.mp hl
    decide

@[simp] theorem opens_choices (name type : String) (rows : List (List Property)) :
    (choices name type rows).Opens := by
  refine opens_of_first rfl rfl
    ⟨"const ", by simp [openings], ':', by simp, _, by simp; rfl⟩ fun l hl => ?_
  rcases List.mem_append.mp hl with hl | hl
  · obtain ⟨row, -, rfl⟩ := List.mem_map.mp hl
    simp [opensValue, openings, List.isPrefixOf]
  · obtain rfl := List.mem_singleton.mp hl
    decide

@[simp] theorem opens_constant (name type value : String) :
    (constant name (some type) value).Opens :=
  opens_of_first rfl rfl ⟨"const ", by simp [openings], ':', by simp, _, by simp; rfl⟩ (by simp)

@[simp] theorem opens_data (name : String) (value : Json) : (data name value).Opens :=
  opens_of_first rfl rfl ⟨"const ", by simp [openings], ' ', by simp, _, by simp; rfl⟩ (by simp)

theorem opens_object (name first : String) {ls : List String}
    (h : ∀ l ∈ ls, opensValue l = false) : (object name first ls).Opens :=
  opens_of_first rfl rfl
    ⟨"export const ", by simp [openings], ' ', by simp, _, by simp; rfl⟩ h

@[simp] theorem opens_defaultExport (name : String) : (defaultExport name).Opens :=
  opens_of_none rfl (by simp [lines, opensValue, openings, List.isPrefixOf])

end Item

/-- The lines of a module that begin the declaration of a value are one for each name. -/
theorem opens_of_items {items : List Item} (h : ∀ i ∈ items, i.Opens) :
    List.Forall₂ Opens ((items.flatMap Item.lines).filter opensValue) (declaredNames items) := by
  induction items with
  | nil => exact .nil
  | cons i items ih =>
    have hitem := h i (by simp)
    have hrest := ih fun j hj => h j (by simp [hj])
    rw [Item.Opens] at hitem
    rw [List.flatMap_cons, List.filter_append, declaredNames, List.filterMap_cons]
    cases hdeclares : i.declares? with
    | none =>
      rw [hdeclares] at hitem
      rw [List.forall₂_nil_right_iff.mp hitem]
      exact hrest
    | some name =>
      rw [hdeclares] at hitem
      obtain ⟨line, rest, hline, hnil, hlines⟩ := List.forall₂_cons_right_iff.mp hitem
      rw [hlines, List.forall₂_nil_right_iff.mp hnil]
      exact .cons hline hrest

/-! ## Emitters -/

/-- The names of the constants and functions of a module. -/
def fixedNames (entry : Entry) : Strategy → List String
  | .shared => ["buildEnum", "DATA"]
  | .inline =>
    ["ENTRIES", "KEYS", "VALUES"] ++ (if hasLocalizedLabel entry.cases then [] else ["LABELS"]) ++
      ["OPTIONS", "BY_KEY"] ++ (if entry.backing.isSome then ["BY_VALUE"] else []) ++
      (if hasLocalizedLabel entry.cases then ["resolveLabel"] else [])

/-- The fixed names differ from each other. -/
theorem nodup_fixedNames (entry : Entry) (s : Strategy) : (fixedNames entry s).Nodup := by
  cases s with
  | shared => simp [fixedNames]
  | inline =>
    rw [fixedNames]
    cases hasLocalizedLabel entry.cases <;> cases entry.backing.isSome <;> decide

theorem declaredNames_append (xs ys : List Item) :
    declaredNames (xs ++ ys) = declaredNames xs ++ declaredNames ys := List.filterMap_append

/-- Items that declare values by these names, a line for each. -/
structure Declares (items : List Item) (names : List String) : Prop where
  /-- the names, in order -/
  names_eq : declaredNames items = names
  /-- their lines -/
  opens : ∀ i ∈ items, i.Opens

theorem Declares.nil : Declares [] [] := ⟨rfl, by simp⟩

theorem Declares.append {xs ys : List Item} {ns ms : List String} (h : Declares xs ns)
    (k : Declares ys ms) : Declares (xs ++ ys) (ns ++ ms) where
  names_eq := by rw [declaredNames_append, h.names_eq, k.names_eq]
  opens := by
    intro i hi
    rcases List.mem_append.mp hi with hi | hi
    · exact h.opens i hi
    · exact k.opens i hi

/-- The head of a module declares the helper, where there is one. -/
theorem declares_headItems (options : Options) : Declares (headItems options)
    (if options.strategy = .shared then ["buildEnum"] else []) := by
  obtain ⟨exportTypes, strategy, locale, source⟩ := options
  cases locale with
  | none => cases strategy <;> exact ⟨rfl, by simp [headItems]⟩
  | some l =>
    by_cases hempty : l = ""
    · subst hempty
      cases strategy <;> exact ⟨rfl, by simp [headItems]⟩
    · have hhead : headItems ⟨exportTypes, strategy, some l, source⟩ =
          [.comment headLine, .comment ("Locale: " ++ l)] ++
            (if strategy = .shared then [.helperImport "buildEnum" source] else []) ++
            [.blank] := by
        cases strategy <;> simp [headItems, hempty]
      rw [hhead]
      cases strategy <;> exact ⟨rfl, by simp⟩

section Emitters

variable (name : String) (entry : Entry)

theorem declares_typeItems (exported : Bool) :
    Ensures (typeItems name entry exported) fun items => Declares items [] :=
  .bind fun _ _ => .bind fun _ _ => .bind fun _ _ => .pure ⟨rfl, by simp⟩

theorem declares_entryItems :
    Ensures (entryItems name entry) fun items => Declares items ["ENTRIES"] :=
  .bind fun _ _ => .pure ⟨rfl, by simp⟩

theorem declares_collectionItems : Ensures (collectionItems name entry) fun items =>
    Declares items (["KEYS", "VALUES"] ++
      (if hasLocalizedLabel entry.cases then [] else ["LABELS"]) ++ ["OPTIONS"]) := by
  refine .bind fun rows _ => .pure ?_
  cases hasLocalizedLabel entry.cases <;> exact ⟨rfl, by simp⟩

theorem declares_lookupItems : Declares (lookupItems name entry)
    (["BY_KEY"] ++ (if entry.backing.isSome then ["BY_VALUE"] else [])) := by
  unfold lookupItems
  cases entry.backing.isSome <;> exact ⟨rfl, by simp⟩

theorem declares_labelItems : Declares labelItems ["resolveLabel"] := by
  refine ⟨rfl, fun i hi => ?_⟩
  simp only [labelItems, List.mem_cons, List.not_mem_nil, or_false] at hi
  rcases hi with rfl | rfl | rfl
  · exact Item.opens_comment _
  · exact Item.opens_of_first rfl rfl
      ⟨"function ", by simp [openings], '(', by simp, _, by simp; rfl⟩
      (by simp [opensValue, openings, List.isPrefixOf])
  · exact Item.opens_blank

/-! ### The object -/

theorem opensValue_of_mem_objectHead : ∀ l ∈ objectHead name entry, opensValue l = false := by
  refine List.forall_mem_append.mpr ⟨List.forall_mem_append.mpr ⟨?_, ?_⟩, by decide⟩
  · simp [opensValue, openings, List.isPrefixOf]
  · intro l hl
    obtain ⟨⟨c, i⟩, -, hl⟩ := List.mem_flatMap.mp hl
    simp only [List.mem_cons, List.not_mem_nil, or_false] at hl
    rcases hl with rfl | rfl <;> simp [opensValue, openings, List.isPrefixOf]

theorem opensValue_of_mem_objectCollections :
    ∀ l ∈ objectCollections name entry, opensValue l = false := by
  unfold objectCollections
  split <;> simp [opensValue, openings, List.isPrefixOf]

theorem opensValue_of_mem_objectLookups :
    ∀ l ∈ objectLookups name entry, opensValue l = false := by
  simp [objectLookups, opensValue, openings, List.isPrefixOf]

theorem declares_objectItems :
    Ensures (objectItems name entry) fun items => Declares items [name] := by
  have hlines : ∀ l ∈ objectHead name entry ++ objectCollections name entry ++
      objectLookups name entry, opensValue l = false :=
    List.forall_mem_append.mpr ⟨List.forall_mem_append.mpr
      ⟨opensValue_of_mem_objectHead name entry, opensValue_of_mem_objectCollections name entry⟩,
      opensValue_of_mem_objectLookups name entry⟩
  refine .bind fun doc _ => .pure ⟨rfl, ?_⟩
  exact List.forall_mem_cons.mpr ⟨Item.opens_docComment doc,
    List.forall_mem_cons.mpr ⟨Item.opens_object name _ hlines, by simp⟩⟩

/-! ### The module -/

theorem declares_inlineItems : Ensures (inlineItems name entry) fun items =>
    Declares items (fixedNames entry .inline ++ [name]) := by
  refine .bind fun entries hentries => .bind fun collections hcollections =>
    .bind fun object hobject => .pure ?_
  have hlabels : Declares (if hasLocalizedLabel entry.cases then labelItems else [])
      (if hasLocalizedLabel entry.cases then ["resolveLabel"] else []) := by
    split
    · exact declares_labelItems
    · exact .nil
  have hall := ((((declares_entryItems name entry entries hentries).append
    (declares_collectionItems name entry collections hcollections)).append
    (declares_lookupItems name entry)).append hlabels).append
    (declares_objectItems name entry object hobject)
  simpa [fixedNames] using hall

theorem declares_sharedItems :
    Ensures (sharedItems name entry) fun items => Declares items ["DATA", name] := by
  have hobject := Item.opens_object name "buildEnum(DATA);" (List.forall_mem_nil _)
  unfold sharedItems
  split
  · exact .bind fun _ _ => .bind fun _ _ => .pure ⟨rfl, by simp [hobject]⟩
  · exact .throw_bind _ _

/-- A module declares the fixed names, and its own after them. -/
theorem declares_moduleItems (options : Options) : Ensures (moduleItems name entry options)
    fun items => Declares items (fixedNames entry options.strategy ++ [name]) := by
  have hexport : Declares [.defaultExport name] [] := ⟨rfl, by simp⟩
  refine .bind fun _ _ => .bind fun types htypes => ?_
  have hhead := (declares_headItems options).append
    (declares_typeItems name entry options.exportTypes types htypes)
  dsimp only
  split
  · next hstrategy =>
    rw [hstrategy] at hhead ⊢
    refine .bind fun body hbody => .pure ?_
    simpa using (hhead.append (declares_inlineItems name entry body hbody)).append hexport
  · next hstrategy =>
    rw [hstrategy] at hhead ⊢
    refine .bind fun body hbody => .pure ?_
    simpa [fixedNames] using
      (hhead.append (declares_sharedItems name entry body hbody)).append hexport

end Emitters

/-- **Names in a module.** A module that is generated declares the values of the fixed names and,
last, its object, and its lines begin a declaration just once for each of them, in order. The names
differ from each other just where the object does not go by one of the fixed names. -/
theorem names_of_generate {name : String} {entry : Entry} {options : Options} {text : String}
    (h : generate name entry options = .ok text) :
    ∃ items, moduleItems name entry options = .ok items ∧ text = render items ∧
      declaredNames items = fixedNames entry options.strategy ++ [name] ∧
      List.Forall₂ Opens ((items.flatMap Item.lines).filter opensValue) (declaredNames items) ∧
      ((declaredNames items).Nodup ↔ name ∉ fixedNames entry options.strategy) := by
  obtain ⟨items, hitems, htext⟩ := exists_of_bind_ok h
  obtain ⟨hnames, hopens⟩ := declares_moduleItems name entry options items hitems
  refine ⟨items, hitems, (Except.ok.inj htext).symm, hnames, opens_of_items hopens, ?_⟩
  rw [hnames, List.perm_append_comm.nodup_iff, List.singleton_append, List.nodup_cons]
  exact and_iff_left (nodup_fixedNames entry options.strategy)

theorem names_of_light : ∃ text items, generate "Light" light {} = .ok text ∧
    text = render items ∧ (declaredNames items).Nodup ∧
    declaredNames items = ["ENTRIES", "KEYS", "VALUES", "OPTIONS", "BY_KEY", "BY_VALUE",
      "resolveLabel", "Light"] := by
  obtain ⟨text, htext⟩ : ∃ text, generate "Light" light {} = .ok text := ⟨_, rfl⟩
  obtain ⟨items, -, hrender, hnames, -, hnodup⟩ := names_of_generate htext
  exact ⟨text, items, htext, hrender, hnodup.mpr (by decide), hnames⟩

/-- An object by the name of the constant with its data: the module declares the name twice. -/
theorem data_declared_twice : light.check = .ok () ∧ ∃ items,
    generate "DATA" light { strategy := .shared } = .ok (render items) ∧
    moduleItems "DATA" light { strategy := .shared } = .ok items ∧
    declaredNames items = ["buildEnum", "DATA", "DATA"] := by
  obtain ⟨items, hitems⟩ := moduleItems_isOk (isWritable_of_isPlain rfl light_isPlain) "DATA"
    { strategy := .shared }
  refine ⟨rfl, items, ?_, hitems, (declares_moduleItems _ _ _ items hitems).names_eq⟩
  rw [generate, hitems]
  rfl

end EnumExport.Script
