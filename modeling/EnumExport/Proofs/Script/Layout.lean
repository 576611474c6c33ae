import EnumExport.Proofs.Script.DocComment
import EnumExport.Proofs.Script.Fields
import Mathlib

/-!
# Lines of a module

Texts of an entry break no line of its module. So the number of lines depends only on the shape of
the entry: on how many cases, choices, names and further properties there are, which cases have no
value and which labels depend on the locale.

* `Shape` is all that counts, and `Shape.moduleLines` the number of lines.
* For every emitter there is one lemma, `laidOut_…`, which says that its lines hold no line break
  and how many they are.
* `texts_stay` puts this together with what is known of the comments.
-/

namespace EnumExport

/-- What counts of a case. -/
structure CaseShape where
  /-- how many further properties it has -/
  extras : Nat
  /-- whether it has no value -/
  isNull : Bool
  /-- whether its label depends on the locale -/
  isLocalized : Bool
  deriving DecidableEq, Repr

/-- What counts of an entry. -/
structure Shape where
  /-- whether there is a scalar behind its cases -/
  backed : Bool
  /-- what counts of its cases -/
  cases : List CaseShape
  /-- how many choices it has -/
  choices : Nat
  /-- how many keys its metadata has -/
  dataNames : Nat
  /-- how many names its further properties have -/
  extraNames : Nat
  deriving DecidableEq, Repr

/-- The shape of a case. -/
def Case.shape (c : Case) : CaseShape := ⟨c.extra.length, c.value.isNull, c.label.isLocalized⟩

/-- The shape of an entry. -/
def Entry.shape (e : Entry) : Shape :=
  ⟨e.backing.isSome, e.cases.map Case.shape, e.choices.length, e.dataNames.length,
    e.extraNames.length⟩

namespace Shape

/-- The lines of the type of the metadata. -/
def metaLines (s : Shape) : Nat := if s.dataNames = 0 then 1 else s.dataNames + 2

/-- The lines of the types. -/
def typeLines (s : Shape) : Nat := s.metaLines + s.extraNames + 16

/-- The lines of the cases. -/
def entryLines (s : Shape) : Nat := (s.cases.map fun c => c.extras + 6).sum + 5

/-- The lines of the collections. -/
def collectionLines (s : Shape) : Nat :=
  (if s.cases.any CaseShape.isLocalized then 0 else 1) + s.choices + 6

/-- The lines of the maps for looking cases up. -/
def lookupLines (s : Shape) : Nat := if s.backed then 4 else 3

/-- The lines of the function that picks a label. -/
def labelLines (s : Shape) : Nat := if s.cases.any CaseShape.isLocalized then 9 else 0

/-- The inner lines of the block comment. -/
def docLines (s : Shape) : Nat :=
  s.cases.length + (if s.backed then (s.cases.filter fun c => !c.isNull).length + 2 else 0) +
    (if s.backed && s.cases.head?.any CaseShape.isNull then 0 else 1) + 13

/-- The lines of the object and its comment. -/
def objectLines (s : Shape) : Nat := s.docLines + 2 * s.cases.length + 42

/-- The lines of a module. -/
def moduleLines (s : Shape) : Nat :=
  s.typeLines + s.entryLines + s.collectionLines + s.lookupLines + s.labelLines + s.objectLines + 3

end Shape

namespace Script

/-! ## Lines -/

/-- So many lines, none of which holds a line break. -/
structure LaidOut (ls : List String) (n : Nat) : Prop where
  /-- no line holds a break -/
  oneLine : ∀ l ∈ ls, '\n' ∉ l.toList
  /-- how many lines there are -/
  length : ls.length = n

namespace LaidOut

variable {ls ks : List String} {m n : Nat}

theorem append (h : LaidOut ls m) (k : LaidOut ks n) : LaidOut (ls ++ ks) (m + n) where
  oneLine := by
    intro l hl
    rcases List.mem_append.mp hl with hl | hl
    · exact h.oneLine l hl
    · exact k.oneLine l hl
  length := by rw [List.length_append, h.length, k.length]

theorem single {l : String} (h : '\n' ∉ l.toList) : LaidOut [l] 1 :=
  ⟨List.forall_mem_singleton.mpr h, rfl⟩

theorem cons {l : String} (h : '\n' ∉ l.toList) (k : LaidOut ks n) : LaidOut (l :: ks) (n + 1) := by
  rw [Nat.add_comm]
  exact (single h).append k

theorem nil : LaidOut [] 0 := ⟨by simp, rfl⟩

/-- The same lines, told and counted in another way. -/
theorem cast (h : LaidOut ls m) (hlines : ls = ks) (hlength : m = n) : LaidOut ks n :=
  hlines ▸ hlength ▸ h

end LaidOut

/-- The text of a module has as many line breaks as it has lines. -/
theorem count_newline_render {items : List Item} {n : Nat}
    (h : LaidOut (items.flatMap Item.lines) n) (hn : 0 < n) :
    (render items).toList.count '\n' = n := by
  have hcount : ∀ ls : List String, (∀ l ∈ ls, '\n' ∉ l.toList) →
      (ls.flatMap fun l => '\n' :: l.toList).count '\n' = ls.length := by
    intro ls hls
    induction ls with
    | nil => rfl
    | cons l ls ih =>
      rw [List.flatMap_cons, List.count_append, List.count_cons_self,
        List.count_eq_zero.mpr (hls l (by simp)), ih fun k hk => hls k (by simp [hk]),
        List.length_cons]
      omega
  obtain ⟨hone, hlength⟩ := h
  cases hls : items.flatMap Item.lines with
  | nil =>
    rw [hls] at hlength
    rw [← hlength] at hn
    cases hn
  | cons l ls =>
    rw [hls] at hone hlength
    rw [render, hls, String.toList_append, toList_lines, List.count_append, List.count_append,
      List.count_eq_zero.mpr (hone l (by simp)), hcount ls fun k hk => hone k (by simp [hk])]
    simpa using hlength

/-! ## Types -/

theorem newline_not_mem_unionText {alternatives : List String}
    (h : ∀ a ∈ alternatives, '\n' ∉ a.toList) : '\n' ∉ (unionText alternatives).toList :=
  newline_not_mem_intercalate (by simp) h

theorem newline_not_mem_opening (exported : Bool) {rest : String} (h : '\n' ∉ rest.toList) :
    '\n' ∉ (Item.opening exported rest).toList := by
  cases exported <;> simp [Item.opening, h]

theorem laidOut_union (exported : Bool) {name : String} {alternatives : List String}
    (hname : '\n' ∉ name.toList) (h : ∀ a ∈ alternatives, '\n' ∉ a.toList) :
    LaidOut (Item.typeAlias exported name (.union alternatives)).lines 1 := by
  refine .single (newline_not_mem_opening exported ?_)
  simp [hname, newline_not_mem_unionText h]

theorem laidOut_record (exported : Bool) {name : String} {fields : List Field}
    (hname : '\n' ∉ name.toList)
    (h : ∀ f ∈ fields, '\n' ∉ f.name.toList ∧ ∀ a ∈ f.alternatives, '\n' ∉ a.toList) :
    LaidOut (Item.typeAlias exported name (.record fields)).lines (fields.length + 2) := by
  have hfields : LaidOut (fields.map Field.line) fields.length := by
    refine ⟨?_, List.length_map _⟩
    intro l hl
    obtain ⟨f, hf, rfl⟩ := List.mem_map.mp hl
    obtain ⟨hfname, halternatives⟩ := h f hf
    have hunion := newline_not_mem_unionText halternatives
    cases hopt : f.optional <;> simp [Field.line, hfname, hunion, hopt]
  have hopening : '\n' ∉ (Item.opening exported ("type " ++ name ++ " = \x7b")).toList :=
    newline_not_mem_opening exported (by simp [hname])
  exact (LaidOut.cons hopening hfields).append (.single (by simp))

theorem newline_not_mem_isTyped {f : Field} (h : f.IsTyped) :
    ∀ a ∈ f.alternatives, '\n' ∉ a.toList := by
  obtain ⟨types, htypes⟩ := h
  intro a ha
  rw [htypes] at ha
  obtain ⟨t, -, rfl⟩ := List.mem_map.mp ha
  exact newline_not_mem_typeExpr t

/-- The names of fields, written as names of properties, are on one line. -/
theorem newline_not_mem_name {fields : List Field} {names : List String}
    (h : fields.map Field.name = names.map propertyName) {f : Field} (hf : f ∈ fields) :
    '\n' ∉ f.name.toList := by
  have hmem : f.name ∈ names.map propertyName := h ▸ List.mem_map_of_mem hf
  obtain ⟨s, -, hs⟩ := List.mem_map.mp hmem
  rw [← hs]
  exact newline_not_mem_propertyName s

/-! ## Cases and choices -/

/-- A property is on one line where its name is. -/
theorem newline_not_mem_property {p : Property} (h : '\n' ∉ p.name.toList) :
    '\n' ∉ p.render.toList := by
  simp [Property.render, h, newline_not_mem_expr]

theorem laidOut_records {n : String} {rows : List (List Property)} (hn : '\n' ∉ n.toList)
    (h : ∀ row ∈ rows, ∀ p ∈ row, '\n' ∉ p.name.toList) :
    LaidOut (Item.records n rows).lines ((rows.map fun row => row.length + 2).sum + 2) := by
  have hrows : LaidOut (rows.flatMap fun row =>
      "  Object.freeze(\x7b" :: row.map (fun p => "    " ++ p.render ++ ",") ++
        ["  \x7d as const),"]) (rows.map fun row => row.length + 2).sum := by
    induction rows with
    | nil => exact .nil
    | cons row rows ih =>
      have hrow : LaidOut (row.map fun p => "    " ++ p.render ++ ",") row.length := by
        refine ⟨?_, List.length_map _⟩
        intro l hl
        obtain ⟨p, hp, rfl⟩ := List.mem_map.mp hl
        simp [newline_not_mem_property (h row (by simp) p hp)]
      have hrest := ih fun r hr => h r (by simp [hr])
      exact ((LaidOut.cons (by simp) hrow).append (.single (by simp))).append hrest
  exact ((LaidOut.cons (by simp [hn]) hrows).append (.single (by simp)))

theorem laidOut_choices {n type : String} {rows : List (List Property)} (hn : '\n' ∉ n.toList)
    (htype : '\n' ∉ type.toList) (h : ∀ row ∈ rows, ∀ p ∈ row, '\n' ∉ p.name.toList) :
    LaidOut (Item.choices n type rows).lines (rows.length + 2) := by
  have hrows : LaidOut (rows.map fun row =>
      "  Object.freeze(\x7b " ++ ", ".intercalate (row.map Property.render) ++ " \x7d as const),")
      rows.length := by
    refine ⟨?_, List.length_map _⟩
    intro l hl
    obtain ⟨row, hrow, rfl⟩ := List.mem_map.mp hl
    have hjoined : '\n' ∉ (", ".intercalate (row.map Property.render)).toList := by
      refine newline_not_mem_intercalate (by simp) ?_
      intro t ht
      obtain ⟨p, hp, rfl⟩ := List.mem_map.mp ht
      exact newline_not_mem_property (h row hrow p hp)
    generalize ", ".intercalate (row.map Property.render) = joined at hjoined
    simp [hjoined]
  exact (LaidOut.cons (by simp [hn, htype]) hrows).append (.single (by simp))

theorem length_names {ps : List (Value × Value)} (h : ∀ p ∈ ps, ∃ s, p.1 = .text s) :
    (Value.names ps).length = ps.length := by
  obtain ⟨qs, hqs, hnames⟩ := exists_spelled h
  rw [← hnames, hqs, List.length_map, List.length_map]

/-- Some label depends on the locale just where it does so in the shape. -/
theorem hasLocalizedLabel_eq (entry : Entry) :
    hasLocalizedLabel entry.cases = entry.shape.cases.any CaseShape.isLocalized := by
  rw [hasLocalizedLabel, Entry.shape, List.any_map]
  rfl

/-- A constant is on one line where its value is. -/
theorem laidOut_constant {n type value : String} (hn : '\n' ∉ n.toList) (htype : '\n' ∉ type.toList)
    (hvalue : '\n' ∉ value.toList) : LaidOut (Item.constant n (some type) value).lines 1 :=
  .single (by simp [hn, htype, hvalue])

/-! ## Emitters -/

section Emitters

variable {name : String} {entry : Entry} (hname : '\n' ∉ name.toList)
include hname

theorem laidOut_valueBody (exported : Bool) :
    Ensures (valueBody name entry) fun body =>
      LaidOut (Item.typeAlias exported (name ++ "Value") body).lines 1 := by
  unfold valueBody
  split
  · exact .pure (laidOut_union exported (by simp [hname]) (by simp [hname]))
  · split
    · next literals hliterals =>
      refine .pure (laidOut_union exported (by simp [hname]) ?_)
      obtain ⟨all, hall, hliterals⟩ := exists_of_bind_ok hliterals
      cases hliterals
      have hlines := (Ensures.mapM_forall (fun v _ => newline_not_mem_literal v) all hall).2
      split
      · simp
      · exact fun a ha => hlines a (List.mem_eraseDups.mp ha)
    · exact .throw _

/-- The types of a record's own fields are on one line. -/
theorem newline_not_mem_coreField {f : Field} (hf : f ∈ [⟨"key", false, [name ++ "Key"]⟩,
      ⟨"value", false, valueTypes entry.backing entry.cases⟩,
      ⟨"label", false, labelTypes entry.cases⟩, ⟨"meta", false, [name ++ "Meta"]⟩]) :
    '\n' ∉ f.name.toList ∧ ∀ a ∈ f.alternatives, '\n' ∉ a.toList := by
  simp only [List.mem_cons, List.not_mem_nil, or_false] at hf
  rcases hf with rfl | rfl | rfl | rfl
  · simp [hname]
  · refine ⟨by simp, ?_⟩
    cases hb : entry.backing with
    | none => simp [valueTypes, baseType]
    | some k =>
      cases k <;> dsimp only [valueTypes] <;> split <;> simp [baseType]
  · refine ⟨by simp, ?_⟩
    intro a ha
    obtain ⟨c, -, rfl⟩ := List.mem_map.mp (List.mem_eraseDups.mp ha)
    cases c.label <;> simp [labelType]
  · simp [hname]

theorem laidOut_typeItems (h : entry.IsWritable) (exported : Bool) :
    Ensures (typeItems name entry exported) fun items =>
      LaidOut (items.flatMap Item.lines) entry.shape.typeLines := by
  obtain ⟨body, fields, hbody, hnone, hsome, hnames, htyped⟩ := metaBody_eq h
  obtain ⟨extra, hextra, hextraNames, hextraTyped⟩ := entryFields_eq h name
  have hkeys : LaidOut (Item.typeAlias exported (name ++ "Key")
      (.union (keyAlternatives entry.cases))).lines 1 := by
    refine laidOut_union exported (by simp [hname]) ?_
    intro a ha
    obtain ⟨c, -, rfl⟩ := List.mem_map.mp ha
    exact newline_not_mem_textLiteral c.key
  have hmeta : LaidOut (Item.typeAlias exported (name ++ "Meta") body).lines
      entry.shape.metaLines := by
    have hlength : fields.length = entry.dataNames.length := by
      simpa using congrArg List.length hnames
    by_cases hdata : entry.dataNames = []
    · have hsize : entry.shape.dataNames = 0 := List.length_eq_zero_iff.mpr hdata
      rw [hnone hdata, Shape.metaLines, if_pos hsize]
      exact laidOut_union exported (by simp [hname]) (by simp)
    · have hsize : entry.shape.dataNames ≠ 0 :=
        fun hzero => hdata (List.length_eq_zero_iff.mp hzero)
      rw [hsome hdata, Shape.metaLines, if_neg hsize]
      refine (laidOut_record exported (by simp [hname]) ?_).cast rfl (by rw [hlength]; rfl)
      exact fun f hf => ⟨newline_not_mem_name hnames hf, newline_not_mem_isTyped (htyped f hf).2⟩
  have hfields : LaidOut (Item.typeAlias exported (name ++ "Entry")
      (.record ([⟨"key", false, [name ++ "Key"]⟩,
        ⟨"value", false, valueTypes entry.backing entry.cases⟩,
        ⟨"label", false, labelTypes entry.cases⟩, ⟨"meta", false, [name ++ "Meta"]⟩] ++ extra))).lines
      (entry.extraNames.length + 6) := by
    have hlength : extra.length = entry.extraNames.length := by
      simpa using congrArg List.length hextraNames
    refine (laidOut_record exported (by simp [hname]) ?_).cast rfl (by simp [hlength])
    intro f hf
    rcases List.mem_append.mp hf with hf | hf
    · exact newline_not_mem_coreField hname hf
    · exact ⟨newline_not_mem_name hextraNames hf, newline_not_mem_isTyped (hextraTyped f hf).1⟩
  have hchoices : LaidOut (Item.typeAlias exported (name ++ "Option")
      (.record [⟨"value", false, choiceTypes name entry⟩,
        ⟨"label", false, ["string"]⟩])).lines 4 := by
    refine (laidOut_record exported (by simp [hname]) ?_).cast rfl rfl
    intro f hf
    simp only [List.mem_cons, List.not_mem_nil, or_false] at hf
    rcases hf with rfl | rfl
    · refine ⟨by simp, ?_⟩
      unfold choiceTypes
      split <;> simp [hname]
    · simp
  have hblank : LaidOut Item.blank.lines 1 := .single (by simp)
  rw [typeItems, hbody, hextra]
  refine .bind fun value hvalue => .pure ?_
  have hvalue := laidOut_valueBody hname exported value hvalue
  have hall := ((((((((hkeys.append hvalue).append hblank).append hmeta).append hblank).append
    hfields).append hblank).append hchoices).append hblank)
  refine hall.cast (by simp) ?_
  have hextras : entry.shape.extraNames = entry.extraNames.length := rfl
  rw [Shape.typeLines, hextras]
  omega

theorem laidOut_entryItems (h : entry.IsWritable) :
    Ensures (entryItems name entry) fun items =>
      LaidOut (items.flatMap Item.lines) entry.shape.entryLines := by
  refine .bind fun rows hrows => .pure ?_
  have hnames : rows.map (List.map Property.name) = entry.cases.map recordNames :=
    Ensures.mapM (fun c hc => names_of_caseProperties (h.extra c hc)) rows hrows
  have hlines : ∀ row ∈ rows, ∀ p ∈ row, '\n' ∉ p.name.toList := by
    intro row hrow p hp
    have hmem : row.map Property.name ∈ entry.cases.map recordNames :=
      hnames ▸ List.mem_map_of_mem hrow
    obtain ⟨c, -, hc⟩ := List.mem_map.mp hmem
    have hname : p.name ∈ recordNames c := hc ▸ List.mem_map_of_mem hp
    rcases List.mem_append.mp hname with hcore | hextra
    · have hfixed : ∀ f ∈ coreFields, '\n' ∉ f.toList := by simp [coreFields]
      exact hfixed _ hcore
    · obtain ⟨s, -, hs⟩ := List.mem_map.mp hextra
      rw [← hs]
      exact newline_not_mem_propertyName s
  have hlengths : rows.map (fun row => row.length + 2) =
      entry.cases.map fun c => c.extra.length + 6 := by
    have hcongr := congrArg (List.map fun ns : List String => ns.length + 2) hnames
    rw [List.map_map, List.map_map] at hcongr
    have hrow : rows.map (fun row => row.length + 2) =
        rows.map ((fun ns : List String => ns.length + 2) ∘ List.map Property.name) :=
      List.map_congr_left fun row _ => by simp
    rw [hrow, hcongr]
    refine List.map_congr_left fun c hc => ?_
    simp only [Function.comp, recordNames, List.length_append, List.length_map,
      length_names (h.extra c hc), coreFields, List.length_cons, List.length_nil]
    omega
  have hrecord : LaidOut (Item.typeAlias false (name ++ "Record")
      (.union ["(typeof ENTRIES)[number]"])).lines 1 :=
    laidOut_union false (by simp [hname]) (by simp)
  have hblank : LaidOut Item.blank.lines 1 := .single (by simp)
  have hrecords := laidOut_records (n := "ENTRIES") (by simp) hlines
  refine (((hrecords.append hblank).append hrecord).append hblank).cast (by simp) ?_
  rw [hlengths, Shape.entryLines]
  simp [Entry.shape, Case.shape, Function.comp_def]

theorem laidOut_collectionItems :
    Ensures (collectionItems name entry) fun items =>
      LaidOut (items.flatMap Item.lines) entry.shape.collectionLines := by
  refine .bind fun rows hrows => .pure ?_
  obtain ⟨hlength, hnames⟩ := Ensures.mapM_forall
    (P := fun row : List Property => ∀ p ∈ row, '\n' ∉ p.name.toList)
    (fun c _ => .bind fun value _ => .pure (by simp)) rows hrows
  have hcomment : LaidOut (Item.comment "Derived collections").lines 1 := .single (by simp)
  have hkeys : LaidOut (Item.constant "KEYS" (some ("readonly " ++ name ++ "Key[]"))
      "Object.freeze(ENTRIES.map((e) => e.key))").lines 1 :=
    laidOut_constant (by simp) (by simp [hname]) (by simp)
  have hvalues : LaidOut (Item.constant "VALUES" (some ("readonly " ++ name ++ "Value[]"))
      (if entry.backing.isNone then "KEYS"
      else if hasNullValue entry.cases then
        "Object.freeze(ENTRIES.flatMap((e) => (e.value === null ? [] : [e.value])))"
      else "Object.freeze(ENTRIES.map((e) => e.value))")).lines 1 := by
    refine laidOut_constant (by simp) (by simp [hname]) ?_
    split
    · simp
    · split <;> simp
  have hlabels : LaidOut ((if hasLocalizedLabel entry.cases then []
      else [Item.constant "LABELS" (some "readonly string[]")
        "Object.freeze(ENTRIES.map((e) => e.label))"]).flatMap Item.lines)
      (if entry.shape.cases.any CaseShape.isLocalized then 0 else 1) := by
    rw [hasLocalizedLabel_eq]
    split
    · exact .nil
    · exact .single (by simp)
  have hoptions : LaidOut (Item.choices "OPTIONS" ("readonly " ++ name ++ "Option[]") rows).lines
      (rows.length + 2) := laidOut_choices (by simp) (by simp [hname]) hnames
  have hblank : LaidOut Item.blank.lines 1 := .single (by simp)
  refine (((((hcomment.append hkeys).append hvalues).append hlabels).append hoptions).append
    hblank).cast (by simp) ?_
  have hchoices : entry.shape.choices = entry.choices.length := rfl
  rw [hlength, Shape.collectionLines, hchoices]
  omega

theorem laidOut_lookupItems :
    LaidOut ((lookupItems name entry).flatMap Item.lines) entry.shape.lookupLines := by
  have hcomment : LaidOut (Item.comment "Precomputed lookup maps for O(1) access").lines 1 :=
    .single (by simp)
  have hbyKey : LaidOut (Item.constant "BY_KEY"
      (some ("ReadonlyMap<string, " ++ (name ++ "Record") ++ ">"))
      "new Map(ENTRIES.map((e) => [e.key, e] as const))").lines 1 :=
    laidOut_constant (by simp) (by simp [hname]) (by simp)
  have hbase : '\n' ∉ (baseType entry.backing).toList := by
    cases entry.backing with
    | none => simp [baseType]
    | some k => cases k <;> simp [baseType]
  have hblank : LaidOut Item.blank.lines 1 := .single (by simp)
  have hbacked : entry.shape.backed = entry.backing.isSome := rfl
  have hbyValue : ∀ source : String, '\n' ∉ source.toList → LaidOut (Item.constant "BY_VALUE"
      (some ("ReadonlyMap<" ++ baseType entry.backing ++ ", " ++ (name ++ "Record") ++ ">"))
      ("new Map(" ++ source ++ ")")).lines 1 := fun source hsource =>
    laidOut_constant (by simp) (by simp [hname, hbase]) (by simp [hsource])
  unfold lookupItems
  rw [Shape.lookupLines, hbacked]
  dsimp only
  split
  · have hsource : '\n' ∉ (if hasNullValue entry.cases then
        "ENTRIES.flatMap((e) => (e.value === null ? [] : [[e.value, e] as const]))"
        else "ENTRIES.map((e) => [e.value, e] as const)").toList := by
      split <;> simp
    exact (((hcomment.append hbyKey).append (hbyValue _ hsource)).append hblank).cast (by simp) rfl
  · exact ((hcomment.append hbyKey).append hblank).cast (by simp) rfl

omit hname in
theorem laidOut_labelItems :
    LaidOut ((if hasLocalizedLabel entry.cases then labelItems else []).flatMap Item.lines)
      entry.shape.labelLines := by
  rw [hasLocalizedLabel_eq, Shape.labelLines]
  split
  · exact ⟨by simp [labelItems, Item.lines], rfl⟩
  · exact .nil

/-! ## The object and its comment -/

omit hname in
theorem length_lookupLines : Ensures (Script.lookupLines name entry) fun ls =>
    ls.length = if entry.shape.backed then
      (entry.shape.cases.filter fun c => !c.isNull).length + 2 else 0 := by
  have hbacked : entry.shape.backed = entry.backing.isSome := rfl
  rw [hbacked]
  unfold Script.lookupLines
  split
  · refine .bind fun found hfound => .pure ?_
    have hlength := (Ensures.mapM_forall (P := fun _ => True)
      (fun c _ => .bind fun value _ => .pure trivial) found hfound).1
    have hcount : found.length = (entry.shape.cases.filter fun c => !c.isNull).length := by
      rw [hlength, Entry.shape, List.filter_map, List.length_map]
      refine congrArg List.length (congrArg (List.filter · entry.cases) (funext fun c => ?_))
      simp only [Function.comp, Case.shape]
      cases c.value <;> rfl
    rw [← hcount, List.length_append, Nat.add_comm]
    rfl
  · exact .pure rfl

omit hname in
theorem length_guardLines (hcases : entry.cases ≠ []) : Ensures (guardLines name entry) fun ls =>
    ls.length =
      (if entry.shape.backed && entry.shape.cases.head?.any CaseShape.isNull then 0 else 1) + 3 := by
  unfold guardLines
  split
  · next hnil => exact absurd hnil hcases
  · next first rest hfirst =>
    have hbacked : entry.shape.backed = entry.backing.isSome := rfl
    have hhead : entry.shape.cases.head?.any CaseShape.isNull = first.value.isNull := by
      rw [Entry.shape, hfirst]
      rfl
    rw [hbacked, hhead]
    dsimp only
    split
    · next k hk hnull =>
      refine .bind fun probe hp => .pure ?_
      cases hp
      rw [hk, hnull]
      rfl
    · next k v hk hne =>
      refine .bind fun value _ => .bind fun probe hp => .pure ?_
      cases hp
      have hsome : first.value.isNull = false := by
        cases hv : first.value with
        | null => exact absurd hv hne
        | _ => rfl
      rw [hsome, Bool.and_false]
      rfl
    · next v hnone =>
      refine .bind fun value _ => .bind fun probe hp => .pure ?_
      cases hp
      rw [hnone]
      rfl

omit hname in
theorem length_docLines (hcases : entry.cases ≠ []) : Ensures (docLines name entry) fun ls =>
    ls.length = entry.shape.docLines := by
  refine .bind fun lookup hlookup => .bind fun values _ => .bind fun guards hguards => .pure ?_
  have hlookup := length_lookupLines lookup hlookup
  have hguards := length_guardLines hcases guards hguards
  have hsize : entry.shape.cases.length = entry.cases.length := List.length_map _
  simp only [List.length_append, List.length_cons, List.length_nil, List.length_map, hlookup,
    hguards, Shape.docLines, hsize]
  omega

omit hname in
theorem laidOut_docComment {ls : List String} (h : ∀ l ∈ ls, '\n' ∉ l.toList) :
    LaidOut (Item.docComment ls).lines (ls.length + 2) := by
  have hlines : LaidOut (ls.map fun l => if l = "" then " *" else " * " ++ l) ls.length := by
    refine ⟨?_, List.length_map _⟩
    intro l hl
    obtain ⟨k, hk, rfl⟩ := List.mem_map.mp hl
    split <;> simp [h k hk]
  exact (LaidOut.cons (by simp) hlines).append (.single (by simp))

/-- The lines of a case in the object: its comment and its record. -/
def caseLines (c : Case) (i : Nat) : List String :=
  ["  " ++ caseComment c, "  " ++ c.key ++ ": ENTRIES[" ++ toString i ++ "],"]

omit hname in
/-- In the head of the object the cases stand in order, behind six lines and in front of an empty
one. -/
theorem objectHead_eq (name : String) (entry : Entry) : ∃ before,
    objectHead name entry =
      before ++ entry.cases.zipIdx.flatMap (fun p => caseLines p.1 p.2) ++ [""] ∧
    ('\n' ∉ name.toList → LaidOut before 6) := by
  refine ⟨_, rfl, ?_⟩
  intro hname
  refine ⟨?_, rfl⟩
  have hcount : '\n' ∉ (toString entry.cases.length).toList := newline_not_mem_nat _
  generalize toString entry.cases.length = count at *
  cases entry.backing <;> simp [newline_not_mem_textLiteral, hcount]

theorem laidOut_objectHead (hkeys : ∀ c ∈ entry.cases, IsWord c.key.toList) :
    LaidOut (objectHead name entry) (2 * entry.cases.length + 7) := by
  obtain ⟨before, hhead, hbefore⟩ := objectHead_eq name entry
  have hcases : ∀ (n : Nat) (cs : List Case), (∀ c ∈ cs, IsWord c.key.toList) →
      LaidOut ((cs.zipIdx n).flatMap fun p => caseLines p.1 p.2) (2 * cs.length) := by
    intro n cs hcs
    induction cs generalizing n with
    | nil => exact .nil
    | cons c cs ih =>
      have hkey := (hcs c (by simp)).newline_not_mem
      have hlabel := (fitsComment_commentText c.label.shown).oneLine
      have hindex : '\n' ∉ (toString n).toList := newline_not_mem_nat n
      have hcase : LaidOut (caseLines c n) 2 := by
        refine ⟨?_, rfl⟩
        rw [caseLines, List.forall_mem_cons, List.forall_mem_singleton]
        generalize toString n = index at hindex
        exact ⟨by simp [caseComment, hlabel], by simp [hkey, hindex]⟩
      exact (hcase.append (ih (n + 1) fun d hd => hcs d (by simp [hd]))).cast rfl
        (by rw [List.length_cons]; omega)
  rw [hhead]
  exact (((hbefore hname).append (hcases 0 entry.cases hkeys)).append (.single (by simp))).cast rfl
    (by omega)

theorem laidOut_objectCollections : LaidOut (objectCollections name entry) 13 := by
  refine ⟨?_, ?_⟩
  · unfold objectCollections
    split <;> simp [hname]
  · unfold objectCollections
    split <;> rfl

theorem laidOut_objectLookups : LaidOut (objectLookups name entry) 18 := by
  refine ⟨?_, rfl⟩
  cases hbacking : entry.backing with
  | none => simp [objectLookups, hbacking, hname]
  | some k => cases k <;> simp [objectLookups, hbacking, hname]

theorem laidOut_objectItems (hword : IsWord name.toList) (hcases : entry.cases ≠ [])
    (hkeys : ∀ c ∈ entry.cases, IsWord c.key.toList) :
    Ensures (objectItems name entry) fun items =>
      LaidOut (items.flatMap Item.lines) entry.shape.objectLines := by
  refine .bind fun doc hdoc => .pure ?_
  have hfits := fitsComment_docLines hword hkeys doc hdoc
  have hcomment := laidOut_docComment fun l hl => (hfits l hl).oneLine
  have hobject : LaidOut (Item.object name "Object.freeze(\x7b"
      (objectHead name entry ++ objectCollections name entry ++ objectLookups name entry)).lines
      (2 * entry.cases.length + 39) :=
    (LaidOut.cons (by simp [hname]) (((laidOut_objectHead hname hkeys).append
      (laidOut_objectCollections hname)).append (laidOut_objectLookups hname))).cast rfl (by omega)
  have hblank : LaidOut Item.blank.lines 1 := .single (by simp)
  refine ((hcomment.append hobject).append hblank).cast (by simp) ?_
  have hsize : entry.shape.cases.length = entry.cases.length := List.length_map _
  rw [length_docLines hcases doc hdoc, Shape.objectLines, hsize]
  omega

end Emitters

/-! ## The module -/

/-- In a module the texts of the entry stay in their places. -/
structure TextsStay (name : String) (entry : Entry) (items : List Item) : Prop where
  /-- there is one block comment, and it ends at its end -/
  doc : ∃ doc, .docComment doc ∈ items ∧ (∀ ls, .docComment ls ∈ items → ls = doc) ∧
    ClosesAtEnd ("\n".intercalate (Item.docComment doc).lines)
  /-- the object holds the cases in order, each behind its comment -/
  cases : ∃ first before after, .object name first
    (before ++ entry.cases.zipIdx.flatMap (fun p => caseLines p.1 p.2) ++ after) ∈ items
  /-- and these comments end at their ends -/
  comments : ∀ c ∈ entry.cases, ClosesAtEnd (caseComment c)
  /-- no line holds a line break -/
  oneLine : ∀ l ∈ items.flatMap Item.lines, '\n' ∉ l.toList
  /-- the number of line breaks depends on the shape of the entry alone -/
  breaks : (render items).toList.count '\n' = entry.shape.moduleLines

section Module

variable {name : String} {entry : Entry}

/-- There is no block comment among the items in front of the object. -/
theorem not_docComment_mem (ls : List String) (exported : Bool) (options : Options) :
    Ensures (typeItems name entry exported) (fun items => .docComment ls ∉ items) ∧
      Ensures (entryItems name entry) (fun items => .docComment ls ∉ items) ∧
      Ensures (collectionItems name entry) (fun items => .docComment ls ∉ items) ∧
      .docComment ls ∉ lookupItems name entry ∧
      .docComment ls ∉ headItems { options with strategy := .inline, locale := none } := by
  refine ⟨.bind fun value _ => .bind fun data _ => .bind fun fields _ => .pure (by simp),
    .bind fun rows _ => .pure (by simp), .bind fun rows _ => .pure ?_, ?_, by simp [headItems]⟩
  · split <;> simp
  · unfold lookupItems
    dsimp only
    split <;> simp

theorem laidOut_moduleItems (hname : Text.isIdentifier name = true) (h : entry.IsWritable)
    (hkeys : ∀ c ∈ entry.cases, IsWord c.key.toList) (hcases : entry.cases ≠ [])
    (options : Options) :
    Ensures (moduleItems name entry { options with strategy := .inline, locale := none })
      fun items => LaidOut (items.flatMap Item.lines) entry.shape.moduleLines := by
  intro items hitems
  have hword := isWord_of_isIdentifier hname
  have hone := hword.newline_not_mem
  obtain ⟨types, entries, collections, object, htypes, hentries, hcollections, hobject, rfl⟩ :=
    @parts_of_moduleItems name entry { options with locale := none } _ hitems
  have hhead : LaidOut ((headItems { options with strategy := .inline, locale := none }).flatMap
      Item.lines) 2 := ⟨by simp [headItems, Item.lines, headLine], rfl⟩
  have hlast : LaidOut (Item.defaultExport name).lines 1 := .single (by simp [hone])
  have hlookup : LaidOut ((lookupItems name entry).flatMap Item.lines) entry.shape.lookupLines :=
    laidOut_lookupItems hone
  have hlabels : LaidOut ((if hasLocalizedLabel entry.cases then labelItems else []).flatMap
      Item.lines) entry.shape.labelLines := laidOut_labelItems
  have hbody := ((((laidOut_entryItems hone h entries hentries).append
    (laidOut_collectionItems hone collections hcollections)).append hlookup).append hlabels).append
    (laidOut_objectItems hone hword hcases hkeys object hobject)
  refine (((hhead.append (laidOut_typeItems hone h _ types htypes)).append hbody).append
    hlast).cast (by simp) ?_
  rw [Shape.moduleLines]
  omega

theorem textsStay_of_moduleItems (hname : Text.isIdentifier name = true) (h : entry.IsWritable)
    (options : Options) :
    Ensures (moduleItems name entry { options with strategy := .inline, locale := none })
      (TextsStay name entry) := by
  intro items hitems
  have hkeys : ∀ c ∈ entry.cases, IsWord c.key.toList := by
    intro c hc
    have hfree := (Entry.keys_of_check h.accepted).2 c hc
    simp only [isFreeKey, Bool.and_eq_true] at hfree
    exact isWord_of_isIdentifier hfree.2
  have hcases : entry.cases ≠ [] := by
    intro hnil
    have haccepted := h.accepted
    rw [Entry.check, hnil] at haccepted
    cases haccepted
  have hlaid := laidOut_moduleItems hname h hkeys hcases options items hitems
  obtain ⟨types, entries, collections, object, htypes, hentries, hcollections, hobject, hparts⟩ :=
    @parts_of_moduleItems name entry { options with locale := none } _ hitems
  obtain ⟨doc, hdoc, hobject⟩ := exists_of_bind_ok hobject
  cases hobject
  have hfits := fitsComment_docLines (isWord_of_isIdentifier hname) hkeys doc hdoc
  refine
    { doc := ⟨doc, by simp [hparts], ?_, closesAtEnd_docComment hfits⟩
      cases := ?_
      comments := fun c _ => closesAtEnd_caseComment c
      oneLine := hlaid.oneLine
      breaks := count_newline_render hlaid ?_ }
  · intro ls hls
    obtain ⟨htype, hentry, hcollection, hlookup, hhead⟩ :=
      @not_docComment_mem name entry ls options.exportTypes options
    have hlabels : .docComment ls ∉ if hasLocalizedLabel entry.cases then labelItems else [] := by
      split <;> simp [labelItems]
    simpa [hparts, htype types htypes, hentry entries hentries,
      hcollection collections hcollections, hlookup, hhead, hlabels] using hls
  · obtain ⟨before, hhead, -⟩ := objectHead_eq name entry
    refine ⟨"Object.freeze(\x7b", before, [""] ++ objectCollections name entry ++
      objectLookups name entry, ?_⟩
    rw [hparts]
    simp [hhead]
  · rw [Shape.moduleLines]
    omega

end Module

/-- **Texts stay where they are put.** An entry that can be written out has a module without a
locale that builds its object itself, under every name that is an identifier. In it every comment
with a text of the entry ends at its end and not before, and no text of the entry breaks a line: the
module of any other entry of the same shape has as many line breaks. -/
theorem texts_stay (name : String) (entry : Entry) (options : Options)
    (hname : Text.isIdentifier name = true) (h : entry.IsWritable) :
    ∃ items,
      moduleItems name entry { options with strategy := .inline, locale := none } = .ok items ∧
      TextsStay name entry items ∧
      ∀ (name' : String) (entry' : Entry) (options' : Options) (text' : String),
        Text.isIdentifier name' = true → entry'.IsWritable → entry'.shape = entry.shape →
        generate name' entry' { options' with strategy := .inline, locale := none } = .ok text' →
        text'.toList.count '\n' = (render items).toList.count '\n' := by
  obtain ⟨items, hitems⟩ :=
    moduleItems_isOk h name { options with strategy := .inline, locale := none }
  have hstay := textsStay_of_moduleItems hname h options items hitems
  refine ⟨items, hitems, hstay, ?_⟩
  intro name' entry' options' text' hname' h' hshape htext
  obtain ⟨items', hitems', hrender⟩ := exists_of_bind_ok htext
  cases hrender
  rw [(textsStay_of_moduleItems hname' h' options' items' hitems').breaks, hstay.breaks, hshape]

theorem texts_stay_light : Text.isIdentifier "Light" = true ∧ light.IsWritable ∧
    ∃ items, moduleItems "Light" light {} = .ok items ∧ TextsStay "Light" light items := by
  obtain ⟨items, hitems, hstay, -⟩ := texts_stay "Light" light {} (by decide)
    (isWritable_of_isPlain rfl light_isPlain)
  exact ⟨by decide, isWritable_of_isPlain rfl light_isPlain, items, hitems, hstay⟩

/-- The module of the light has 127 lines. -/
example : light.shape.moduleLines = 127 := by decide

end Script

end EnumExport
