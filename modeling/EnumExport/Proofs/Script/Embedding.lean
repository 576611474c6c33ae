import EnumExport.Proofs.Script.Generation

/-!
# Embedded data

A module embeds the data of its entry: with the inline strategy as the two constants `ENTRIES` and
`OPTIONS`, with the shared strategy as the one constant `DATA`. Read back, they are the same data,
namely that of the entry: `strategies_embed_same_data`.
-/

namespace EnumExport.Script

open Notation

/-- The text of the constant of a name among the items of a module. -/
def constantText? (name : String) (items : List Item) : Option String :=
  (items.find? fun i => i.declares? == some name).map fun i => "\n".intercalate i.lines

/-! ## Constants as they are written -/

theorem toList_lines (first : String) (rest : List String) :
    ("\n".intercalate (first :: rest)).toList =
      first.toList ++ rest.flatMap fun l => '\n' :: l.toList := by
  induction rest generalizing first with
  | nil => simp
  | cons l rest ih =>
    rw [String.intercalate_cons_cons, String.toList_append, ih]
    simp

/-- The break before a line at a depth. -/
def lineBreak (depth : Nat) : List Char := (Json.Layout.indented 2).break depth

theorem isBlank_of_mem_lineBreak {depth : Nat} : ∀ c ∈ lineBreak depth, isBlank c = true :=
  fun _ => isBlank_of_mem_break

/-- The object of a case as it is written over several lines. -/
def recordChars (row : List Named) : List Char :=
  frozenChars true ('\x7b' :: (commaEnded (row.map fun n => lineBreak 2 ++ n.chars) ++
    (lineBreak 1 ++ ['\x7d'])))

theorem reads_recordChars {row : List Named} (h : ∀ n ∈ row, n.value.isWhole = true) :
    Reads (recordChars row) (.map (row.map Named.pair)) :=
  (Reads.record h isBlank_of_mem_lineBreak isBlank_of_mem_lineBreak).frozen true

/-- The object of a choice as it is written on one line. -/
def choiceChars (n m : Named) : List Char :=
  frozenChars true ("\x7b ".toList ++ (n.chars ++ (", ".toList ++ (m.chars ++ " \x7d".toList))))

theorem reads_choiceChars {n m : Named} (hn : n.value.isWhole = true)
    (hm : m.value.isWhole = true) : Reads (choiceChars n m) (.map [n.pair, m.pair]) :=
  (Reads.two hn hm).frozen true

/-- A frozen list of parts, each with a comma behind it and beginning on a line of its own. -/
def frozenList (isConst : Bool) (parts : List (List Char)) : List Char :=
  frozenChars isConst ('[' :: (commaEnded (parts.map fun p => lineBreak 1 ++ p) ++
    (lineBreak 0 ++ [']'])))

theorem reads_frozenList {α : Type} {xs : List α} {chars : α → List Char} {meant : α → Value}
    (h : ∀ x ∈ xs, Reads (chars x) (meant x)) (isConst : Bool) :
    Reads (frozenList isConst (xs.map chars)) (.list (xs.map meant)) := by
  have hparts : ∀ p ∈ xs.map fun x => (lineBreak 1 ++ chars x, meant x), Reads p.1 p.2 := by
    intro p hp
    obtain ⟨x, hx, rfl⟩ := List.mem_map.mp hp
    exact (h x hx).blanks isBlank_of_mem_lineBreak
  have hlist := (Reads.list hparts (@isBlank_of_mem_lineBreak 0)).frozen isConst
  rw [List.map_map, List.map_map] at hlist
  rw [frozenList, List.map_map]
  exact hlist

/-- The constant of the cases is read back as the pairs of their properties. -/
theorem records_text (name : String) {rows : List (List Named)}
    (h : ∀ row ∈ rows, ∀ n ∈ row, n.value.isWhole = true) :
    ∃ t, "\n".intercalate (Item.records name (rows.map fun row => row.map Named.property)).lines =
        "const " ++ name ++ " = " ++ t ++ ";" ∧
      read? .script t = some (.list (rows.map fun row => .map (row.map Named.pair))) := by
  refine ⟨String.ofList (frozenList true (rows.map recordChars)), ?_, ?_⟩
  · rw [← String.toList_inj, Item.lines, List.cons_append, toList_lines]
    unfold frozenList recordChars frozenChars
    simp [commaEnded, List.flatMap_map, List.flatMap_assoc, Named.toList_render, lineBreak,
      Json.Layout.break]
  · refine Reads.read? ?_
    rw [String.toList_ofList]
    exact reads_frozenList (fun row hrow => reads_recordChars (h row hrow)) true

/-- The constant of the choices is read back as the pairs of their two properties. -/
theorem choices_text (name type : String) {rows : List (Named × Named)}
    (h : ∀ row ∈ rows, row.1.value.isWhole = true ∧ row.2.value.isWhole = true) :
    ∃ t, "\n".intercalate (Item.choices name type
          (rows.map fun row => [row.1.property, row.2.property])).lines =
        "const " ++ name ++ ": " ++ type ++ " = " ++ t ++ ";" ∧
      read? .script t = some (.list (rows.map fun row => .map [row.1.pair, row.2.pair])) := by
  refine ⟨String.ofList (frozenList false (rows.map fun row => choiceChars row.1 row.2)), ?_, ?_⟩
  · rw [← String.toList_inj, Item.lines, List.cons_append, toList_lines]
    unfold frozenList choiceChars frozenChars
    simp [commaEnded, List.flatMap_map, Named.toList_render, lineBreak, Json.Layout.break]
  · refine Reads.read? ?_
    rw [String.toList_ofList]
    exact reads_frozenList (fun row hrow => reads_choiceChars (h row hrow).1 (h row hrow).2) false

/-- The constant of the shared strategy is read back as JSON. -/
theorem data_text (name : String) {j : Json} (h : j.isWhole = true) :
    ∃ t, "\n".intercalate (Item.data name j).lines = "const " ++ name ++ " = " ++ t ++ " as const;" ∧
      read? .json t = some j.toValue := by
  refine ⟨Json.render (.indented 2) j, rfl, ?_⟩
  have hread := readValue_chars (.indented 2) .json j 0
    (2 * (Json.chars (.indented 2) 0 j).length) [] h endsWord_nil (Nat.le_refl _)
  rw [List.append_nil] at hread
  rw [read?, Json.render, String.toList_ofList, ← String.length_toList, String.toList_ofList, hread]
  rfl

/-! ## Constants of a module -/

theorem constantText?_append {name : String} {before : List Item}
    (h : ∀ i ∈ before, i.declares? ≠ some name) (items : List Item) :
    constantText? name (before ++ items) = constantText? name items := by
  have hnone : before.find? (fun i => i.declares? == some name) = none := by
    rw [List.find?_eq_none]
    intro i hi
    simp [h i hi]
  rw [constantText?, List.find?_append, hnone]
  rfl

theorem constantText?_cons {name : String} {i : Item} (h : i.declares? = some name)
    (items : List Item) :
    constantText? name (i :: items) = some ("\n".intercalate i.lines) := by
  rw [constantText?, List.find?_cons_of_pos (by rw [h]; exact BEq.rfl)]
  rfl

/-- The head of a module declares at most the helper. -/
theorem declares?_headItems {options : Options} {i : Item} (h : i ∈ headItems options) :
    i.declares? = none ∨ i.declares? = some "buildEnum" := by
  simp only [headItems, List.mem_append] at h
  rcases h with ((h | h) | h) | h
  · rcases List.mem_singleton.mp h with rfl
    exact .inl rfl
  · split at h
    · split at h
      · cases h
      · rcases List.mem_singleton.mp h with rfl
        exact .inl rfl
    · cases h
  · split at h
    · rcases List.mem_singleton.mp h with rfl
      exact .inr rfl
    · cases h
  · rcases List.mem_singleton.mp h with rfl
    exact .inl rfl

/-- The field of a map under a name. -/
def part? (name : String) (v : Value) : Option Value := v.pairs?.bind (Value.field? name)

/-- The cases of an entry as data. -/
def caseData (entry : Entry) : Value := .list (entry.cases.map fun c => .map c.fields)

/-- The choices of an entry as data. -/
def choiceData (entry : Entry) : Value :=
  .list (entry.choices.map fun c => .map (choiceFields (c.value, .text c.label)))

theorem part?_toValue (entry : Entry) :
    part? "entries" entry.toValue = some (caseData entry) ∧
      part? "options" entry.toValue = some (choiceData entry) := by
  simp only [part?, Entry.toValue, LooseEntry.toValue, Value.pairs?, Option.bind_some, Value.field?,
    Assoc.get?, Value.beq_eq_same, Value.same_text, Entry.loose, List.map_map]
  exact ⟨rfl, rfl⟩

section Plain

variable {entry : Entry} (h : entry.IsPlain)
include h

/-- The rows of the cases stand for the cases. -/
theorem entryItems_of_isPlain (name : String) : ∃ (entries : String) (item : Item) (rest : List Item),
    entryItems name entry = .ok (item :: rest) ∧ item.declares? = some "ENTRIES" ∧
      (∀ i ∈ rest, i.declares? = none) ∧
      "\n".intercalate item.lines = "const ENTRIES = " ++ entries ++ ";" ∧
      read? .script entries = some (caseData entry) := by
  obtain ⟨rows, hrows, hmeant, hwhole⟩ := mapM_of_forall (fun row : List Named => row.map Named.property)
    (fun row => Value.map (row.map Named.pair)) (fun row => ∀ n ∈ row, n.value.isWhole = true)
    fun c hc => caseProperties_of_isPlain (h.cases c hc)
  obtain ⟨entries, htext, hread⟩ := records_text "ENTRIES" hwhole
  refine ⟨entries, _, _, by rw [entryItems, hrows]; rfl, rfl, ?_, htext, ?_⟩
  · simp [Item.declares?]
  · rw [hread, hmeant]
    rfl

/-- The rows of the choices stand for the choices. -/
theorem collectionItems_of_isPlain (name : String) :
    ∃ (choices : String) (before : List Item) (item : Item) (rest : List Item),
    collectionItems name entry = .ok (before ++ item :: rest) ∧ item.declares? = some "OPTIONS" ∧
      (∀ i ∈ before, i.declares? ≠ some "OPTIONS") ∧
      "\n".intercalate item.lines =
        "const OPTIONS: readonly " ++ name ++ "Option[] = " ++ choices ++ ";" ∧
      read? .script choices = some (choiceData entry) := by
  obtain ⟨rows, hrows, hmeant, hwhole⟩ := mapM_of_forall (g := fun c : Choice =>
      Value.map (choiceFields (c.value, .text c.label)))
    (fun row : Named × Named => [row.1.property, row.2.property])
    (fun row => Value.map [row.1.pair, row.2.pair])
    (fun row => row.1.value.isWhole = true ∧ row.2.value.isWhole = true)
    fun c hc => by
      obtain ⟨value, hvalue, hback, hwhole⟩ := choiceProperties_of_isPlain (h.choices c hc)
      exact ⟨(⟨"value", value⟩, ⟨"label", .text c.label⟩), hvalue,
        by simp only [Named.pair, hback]; rfl, hwhole, rfl⟩
  obtain ⟨choices, htext, hread⟩ := choices_text "OPTIONS" ("readonly " ++ name ++ "Option[]") hwhole
  refine ⟨choices, _, _, _, by rw [collectionItems, hrows]; rfl, rfl, ?_, ?_, ?_⟩
  · intro i hi
    rcases List.mem_append.mp hi with hi | hi
    · simp only [List.mem_cons, List.not_mem_nil, or_false] at hi
      rcases hi with rfl | rfl | rfl <;> simp [Item.declares?]
    · split at hi
      · cases hi
      · rcases List.mem_singleton.mp hi with rfl
        simp [Item.declares?]
  · rw [htext, ← String.toList_inj]
    simp
  · rw [hread, hmeant]
    rfl

/-- The body of a module with the inline strategy holds the cases and the choices. -/
theorem inlineItems_of_isPlain (name : String) : ∃ (body : List Item) (entries choices : String),
    inlineItems name entry = .ok body ∧
      (∀ rest, constantText? "ENTRIES" (body ++ rest) = some ("const ENTRIES = " ++ entries ++ ";")) ∧
      (∀ rest, constantText? "OPTIONS" (body ++ rest) =
        some ("const OPTIONS: readonly " ++ name ++ "Option[] = " ++ choices ++ ";")) ∧
      read? .script entries = some (caseData entry) ∧
      read? .script choices = some (choiceData entry) := by
  obtain ⟨entries, e, es, hentries, he, hes, hetext, heread⟩ := entryItems_of_isPlain h name
  obtain ⟨choices, before, c, cs, hchoices, hc, hbefore, hctext, hcread⟩ :=
    collectionItems_of_isPlain h name
  obtain ⟨object, hobject⟩ := objectItems_isOk h name
  refine ⟨_, entries, choices, by rw [inlineItems, hentries, hchoices, hobject]; rfl, ?_, ?_, heread,
    hcread⟩
  · intro rest
    simp only [List.cons_append, List.append_assoc]
    rw [constantText?_cons he, hetext]
  · intro rest
    have hskip : ∀ i ∈ e :: es, i.declares? ≠ some "OPTIONS" := by
      intro i hi
      rcases List.mem_cons.mp hi with rfl | hi
      · simp [he]
      · simp [hes i hi]
    simp only [List.append_assoc]
    rw [constantText?_append hskip, constantText?_append hbefore, List.cons_append,
      constantText?_cons hc, hctext]

/-- The body of a module with the shared strategy holds the whole entry. -/
theorem sharedItems_of_isPlain (name : String) : ∃ (body : List Item) (data : String),
    sharedItems name entry = .ok body ∧
      (∀ rest, constantText? "DATA" (body ++ rest) = some ("const DATA = " ++ data ++ " as const;")) ∧
      read? .json data = some entry.toValue := by
  obtain ⟨j, hj, hwhole, hback⟩ := ofValue_of_isPlain entry.toValue (Entry.isPlain_toValue h)
  obtain ⟨doc, hdoc⟩ := docLines_isOk h name
  obtain ⟨data, htext, hread⟩ := data_text "DATA" hwhole
  refine ⟨_, data, by rw [sharedItems, hj, hdoc]; rfl, ?_, by rw [hread, hback]⟩
  intro rest
  rw [List.cons_append, constantText?_cons rfl, htext]
  rfl

end Plain

/-- A constant of the body of a module is one of the module, unless it is the helper. -/
theorem moduleItems_of_body {name : String} {entry : Entry} (options : Options)
    {body : List Item} (hcheck : entry.check = .ok ()) (hplain : entry.IsPlain)
    (hbody : (match options.strategy with
      | .inline => inlineItems name entry
      | .shared => sharedItems name entry) = .ok body) :
    ∃ items, moduleItems name entry options = .ok items ∧
      ∀ constant text, constant ≠ "buildEnum" →
        (∀ rest, constantText? constant (body ++ rest) = some text) →
        constantText? constant items = some text := by
  obtain ⟨types, htypes, hdeclares⟩ := typeItems_isOk hplain name options.exportTypes
  refine ⟨headItems options ++ types ++ body ++ [.defaultExport name], ?_, ?_⟩
  · unfold moduleItems
    rw [hcheck, htypes]
    cases hs : options.strategy <;> simp only [hs] at hbody <;> simp only [hbody] <;> rfl
  · intro constant text hne htext
    have hhead : ∀ i ∈ headItems options, i.declares? ≠ some constant := by
      intro i hi
      rcases declares?_headItems hi with h | h <;> simp [h, hne.symm]
    have htypes : ∀ i ∈ types, i.declares? ≠ some constant := by
      intro i hi
      simp [hdeclares i hi]
    simp only [List.append_assoc]
    rw [constantText?_append hhead, constantText?_append htypes, htext]

/-- **Both strategies embed the same data.** For a well-formed plain entry both modules are
generated. The constant `DATA` of the one is JSON for the entry; the constants `ENTRIES` and `OPTIONS`
of the other are literals for what that JSON has under these names, which are the cases and the
choices of the entry, field by field and in order. -/
theorem strategies_embed_same_data (name : String) (entry : Entry) (options : Options)
    (hcheck : entry.check = .ok ()) (hplain : entry.IsPlain) :
    ∃ (inlined shared : List Item) (entries choices data : String),
      moduleItems name entry { options with strategy := .inline } = .ok inlined ∧
      moduleItems name entry { options with strategy := .shared } = .ok shared ∧
      constantText? "ENTRIES" inlined = some ("const ENTRIES = " ++ entries ++ ";") ∧
      constantText? "OPTIONS" inlined =
        some ("const OPTIONS: readonly " ++ name ++ "Option[] = " ++ choices ++ ";") ∧
      constantText? "DATA" shared = some ("const DATA = " ++ data ++ " as const;") ∧
      read? .json data = some entry.toValue ∧
      read? .script entries = part? "entries" entry.toValue ∧
      read? .script choices = part? "options" entry.toValue ∧
      part? "entries" entry.toValue = some (caseData entry) ∧
      part? "options" entry.toValue = some (choiceData entry) := by
  obtain ⟨hcases, hchoices⟩ := part?_toValue entry
  obtain ⟨body, entries, choices, hbody, hentriestext, hchoicestext, hentriesread, hchoicesread⟩ :=
    inlineItems_of_isPlain hplain name
  obtain ⟨body', data, hbody', hdatatext, hdataread⟩ := sharedItems_of_isPlain hplain name
  obtain ⟨inlined, hinlined, hconstant⟩ :=
    moduleItems_of_body { options with strategy := .inline } hcheck hplain hbody
  obtain ⟨shared, hshared, hconstant'⟩ :=
    moduleItems_of_body { options with strategy := .shared } hcheck hplain hbody'
  refine ⟨inlined, shared, entries, choices, data, hinlined, hshared,
    hconstant _ _ (by decide) hentriestext, hconstant _ _ (by decide) hchoicestext,
    hconstant' _ _ (by decide) hdatatext, hdataread, ?_, ?_, hcases, hchoices⟩
  · rw [hentriesread, hcases]
  · rw [hchoicesread, hchoices]

/-- An entry with a quote in a text, a nested value, a label of two locales and a case without
value. -/
def light : Entry where
  name := "Light"
  qualifiedName := "app.Light"
  backing := some .string
  cases :=
    [{ key := "Red", value := .text "it's red", label := .text "Red"
       data := [(.text "wait", .list [.int 60, .null, .bool true])], extra := [] },
     { key := "Off", value := .null, label := .localized [("en", "Off"), ("fr", "Éteint")]
       data := [], extra := [(.text "dark mode", .map [(.text "on", .int (-1))])] }]
  choices := [⟨.text "it's red", "Red"⟩, ⟨.text "Off", "Off"⟩]

theorem light_isPlain : light.IsPlain where
  cases := by
    intro c hc
    simp only [light, List.mem_cons, List.not_mem_nil, or_false] at hc
    rcases hc with rfl | rfl
    · exact ⟨rfl, rfl, rfl, by simp, by simp⟩
    · refine ⟨rfl, rfl, rfl, by simp, ?_⟩
      simp [isCoreField, coreFields, Value.same_text]
  choices := by
    intro c hc
    simp only [light, List.mem_cons, List.not_mem_nil, or_false] at hc
    rcases hc with rfl | rfl <;> rfl

theorem strategies_embed_light :
    ∃ (inlined : List Item) (entries : String), moduleItems "Light" light {} = .ok inlined ∧
      constantText? "ENTRIES" inlined = some ("const ENTRIES = " ++ entries ++ ";") ∧
      read? .script entries = some (caseData light) := by
  obtain ⟨inlined, -, entries, -, -, hinlined, -, htext, -, -, -, hread, -, hcases, -⟩ :=
    strategies_embed_same_data "Light" light {} rfl light_isPlain
  exact ⟨inlined, entries, hinlined, htext, hread.trans hcases⟩

end EnumExport.Script
