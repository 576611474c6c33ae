import EnumExport.Class.Entry

/-!
# Methods that are exported

Among the definitions that the line of a class has of a name, the one that counts for the export is
the nearest that is exported, `exportedAs?`: `mem_exportedMethods_iff`. The one that the class itself
has under the name is the nearest of all, `lookup`. An exported definition behind a nearer one that
is not exported is thus still asked, although the class has something else under its name: it is
hidden, `Hides`. The two agree on the names of which no exported definition is hidden, and on no
other: `exportsByLookup_iff`.
-/

namespace EnumExport

namespace Assoc

variable {α β : Type} [BEq α] [LawfulBEq α]

/-- Where no key occurs twice, a key is kept with its value alone. -/
theorem filter_key {m : List (α × β)} (h : (keys m).Nodup) (k : α) :
    (m.filter fun p => p.1 == k) = (get? k m).toList.map fun v => (k, v) := by
  induction m with
  | nil => rfl
  | cons p rest ih =>
    obtain ⟨j, v⟩ := p
    obtain ⟨hj, hrest⟩ := List.nodup_cons.mp h
    rw [get?]
    by_cases hjk : j = k
    · subst hjk
      have hothers : get? j rest = none := by
        rcases hget : get? j rest with _ | w
        · rfl
        · exact absurd (List.mem_map.mpr ⟨_, (get?_eq_some_iff hrest).mp hget, rfl⟩) hj
      rw [List.filter_cons_of_pos (by simp), ih hrest, hothers, if_pos (by simp)]
      rfl
    · rw [List.filter_cons_of_neg (by simpa using hjk), if_neg (by simpa using hjk)]
      exact ih hrest

end Assoc

/-! ## What stands under a name -/

/-- What a class has under a name. -/
inductive Attribute
  /-- a member -/
  | member (m : Member)
  /-- something that is declared -/
  | declared (d : Definition)
  /-- something else, which the class of this name brings along -/
  | broughtBy (a : Ancestor)

/-- What a class itself has under a name, members apart. Besides what is declared, a class may bring
something along, as the class of texts does; of this it is known only whether it is there. -/
def Layer.attribute? (brings : Ancestor → String → Bool) (l : Layer) (name : String) :
    Option Attribute :=
  match l.definition? name with
  | some d => some (.declared d)
  | none => if brings l.self name then some (.broughtBy l.self) else none

namespace ClassDef

/-- What a class has under a name: its member, or what the nearest class has that has something. -/
def lookup (brings : Ancestor → String → Bool) (c : ClassDef) (name : String) : Option Attribute :=
  match Assoc.get? name c.table.names with
  | some m => some (.member m)
  | none => c.line.findSome? fun l => l.attribute? brings name

/-- The nearest method of a name that is exported. -/
def exportedAs? (c : ClassDef) (name : String) : Option Method :=
  c.line.findSome? fun l => (l.method? name).filter Method.isExported

/-- The exported methods of a name are those that the class has under this name. -/
def ExportsByLookup (brings : Ancestor → String → Bool) (c : ClassDef) (name : String) : Prop :=
  ∀ m, m.name = name → (m ∈ c.exportedMethods ↔
    c.lookup brings name = some (.declared (.method m)) ∧ m.isExported = true)

/-- Some class of the line has an exported method of a name, but what the class has under the name
is none. -/
def Hides (brings : Ancestor → String → Bool) (c : ClassDef) (name : String) : Prop :=
  (∃ l ∈ c.line, ∃ m, l.method? name = some m ∧ m.isExported = true) ∧
    ∀ m, c.lookup brings name = some (.declared (.method m)) → m.isExported = false

end ClassDef

/-! ## The table of exported methods -/

namespace Layer

variable {l : Layer} {name : String} {m : Method}

/-- The methods of a class, each under its name. -/
def methodTable (l : Layer) : List (String × Method) :=
  Assoc.ofList (l.methods.map fun m => (m.name, m))

theorem name_of_method? (h : l.method? name = some m) : m.name = name := by
  rw [method?, List.find?_eq_some_iff_append] at h
  exact beq_iff_eq.mp h.1

theorem nodup_methodTable (l : Layer) : (Assoc.keys l.methodTable).Nodup :=
  Assoc.nodup_keys_ofList _

theorem get?_methodTable (l : Layer) (name : String) :
    Assoc.get? name l.methodTable = l.method? name := by
  rw [methodTable, Assoc.ofList, Assoc.get?_foldl_put, List.filter_map, List.getLast?_map,
    List.getLast?_filter, method?]
  simp [Function.comp_def, Assoc.get?]

/-- What a class says under a name is a method of the name exactly where it is this one. -/
theorem attribute?_eq_method_iff {brings : Ancestor → String → Bool} :
    l.attribute? brings name = some (.declared (.method m)) ↔ l.method? name = some m := by
  rw [attribute?, definition?]
  cases l.method? name with
  | some n => simp
  | none =>
    cases Assoc.get? name l.attributes with
    | some v => simp
    | none => cases brings l.self name <;> simp

theorem method?_of_attribute?_none {brings : Ancestor → String → Bool}
    (h : l.attribute? brings name = none) : l.method? name = none := by
  rcases hmethod : l.method? name with _ | n
  · rfl
  · rw [attribute?_eq_method_iff.mpr hmethod] at h
    cases h

end Layer

/-- The exported methods of a line, from the furthest class to the nearest. -/
def exportTable (line : List Layer) : List (String × Method) :=
  Assoc.ofList ((line.reverse.flatMap Layer.methodTable).filter fun p => p.2.isExported)

theorem nodup_exportTable (line : List Layer) : (Assoc.keys (exportTable line)).Nodup :=
  Assoc.nodup_keys_ofList _

namespace ClassDef

variable {c : ClassDef} {name : String} {m : Method} {brings : Ancestor → String → Bool}

theorem exportedMethods_eq (c : ClassDef) :
    c.exportedMethods = Assoc.values (exportTable c.line) := rfl

/-- By induction on the line: a class in front takes the place of what those behind it have, and only
where it has an exported method of the name. -/
theorem get?_exportTable (line : List Layer) (name : String) :
    Assoc.get? name (exportTable line) =
      line.findSome? fun l => (l.method? name).filter Method.isExported := by
  induction line with
  | nil => rfl
  | cons l rest ih =>
    have hown : ((l.methodTable.filter fun p => p.2.isExported).filter
        fun p => p.1 == name).getLast?.map Prod.snd = (l.method? name).filter Method.isExported := by
      rw [List.filter_filter, List.filter_congr (fun p _ => Bool.and_comm _ _),
        ← List.filter_filter, Assoc.filter_key l.nodup_methodTable name,
        Layer.get?_methodTable]
      cases l.method? name with
      | none => rfl
      | some m => cases h : m.isExported <;> simp [h, Option.filter]
    have hsplit : exportTable (l :: rest) =
        (l.methodTable.filter fun p => p.2.isExported).foldl (fun t p => Assoc.put p.1 p.2 t)
          (exportTable rest) := by
      rw [exportTable, List.reverse_cons, List.flatMap_append, List.filter_append, Assoc.ofList,
        List.foldl_append, List.flatMap_singleton]
      rfl
    rw [hsplit, Assoc.get?_foldl_put, hown, ih, List.findSome?_cons]
    cases (l.method? name).filter Method.isExported <;> rfl

theorem name_of_exportedAs? (h : c.exportedAs? name = some m) :
    m.name = name ∧ m.isExported = true := by
  obtain ⟨l, -, hl⟩ := List.exists_of_findSome?_eq_some h
  obtain ⟨hmethod, hexported⟩ := Option.filter_eq_some_iff.mp hl
  exact ⟨Layer.name_of_method? hmethod, hexported⟩

/-- A method is exported exactly where it is the nearest of its name that is to be exported. -/
theorem mem_exportedMethods_iff : m ∈ c.exportedMethods ↔ c.exportedAs? m.name = some m := by
  have hget : ∀ name n, (name, n) ∈ exportTable c.line ↔ c.exportedAs? name = some n := by
    intro name n
    rw [← Assoc.get?_eq_some_iff (nodup_exportTable c.line), get?_exportTable, exportedAs?]
  rw [exportedMethods_eq, Assoc.values, List.mem_map]
  constructor
  · rintro ⟨⟨name, n⟩, hmem, rfl⟩
    have hnearest := (hget name n).mp hmem
    rw [(name_of_exportedAs? hnearest).1]
    exact hnearest
  · intro hnearest
    exact ⟨(m.name, m), (hget _ _).mpr hnearest, rfl⟩

/-! ## Lookup and export -/

/-- An exported method that a class has under a name is the nearest exported one. -/
theorem exportedAs?_of_lookup (h : c.lookup brings name = some (.declared (.method m)))
    (hexported : m.isExported = true) : c.exportedAs? name = some m := by
  rw [lookup] at h
  split at h
  · cases h
  · obtain ⟨front, l, back, hline, hl, hfront⟩ := List.findSome?_eq_some_iff.mp h
    refine List.findSome?_eq_some_iff.mpr ⟨front, l, back, hline, ?_, ?_⟩
    · rw [Layer.attribute?_eq_method_iff.mp hl, Option.filter_some, if_pos hexported]
    · intro l' hl'
      rw [Layer.method?_of_attribute?_none (hfront l' hl')]
      rfl

theorem exportedAs?_ne_none_iff : c.exportedAs? name ≠ none ↔
    ∃ l ∈ c.line, ∃ m, l.method? name = some m ∧ m.isExported = true := by
  simp only [exportedAs?, ne_eq, List.findSome?_eq_none_iff, Option.filter_eq_none_iff,
    Classical.not_forall, Classical.not_not, exists_prop]

/-- A name goes by lookup exactly where no exported method of the name is hidden. -/
theorem exportsByLookup_iff : c.ExportsByLookup brings name ↔ ¬ c.Hides brings name := by
  constructor
  · rintro hlookup ⟨hsome, hnone⟩
    obtain ⟨m, hm⟩ := Option.ne_none_iff_exists'.mp (exportedAs?_ne_none_iff.mpr hsome)
    obtain ⟨hname, hexported⟩ := name_of_exportedAs? hm
    have hmem : m ∈ c.exportedMethods := mem_exportedMethods_iff.mpr (by rw [hname]; exact hm)
    obtain ⟨hfound, -⟩ := (hlookup m hname).mp hmem
    rw [hnone m hfound] at hexported
    cases hexported
  · rintro hshown m rfl
    rw [mem_exportedMethods_iff]
    constructor
    · intro hm
      -- the class has some exported method under the name, which can only be the nearest one
      obtain ⟨n, hn, hexported⟩ : ∃ n,
          c.lookup brings m.name = some (.declared (.method n)) ∧ n.isExported = true := by
        apply Classical.byContradiction
        intro hno
        refine hshown ⟨exportedAs?_ne_none_iff.mp (by simp [hm]), fun n hn => ?_⟩
        exact Bool.eq_false_iff.mpr fun hexported => hno ⟨n, hn, hexported⟩
      obtain rfl := Option.some.inj (hm.symm.trans (exportedAs?_of_lookup hn hexported))
      exact ⟨hn, hexported⟩
    · rintro ⟨hfound, hexported⟩
      exact exportedAs?_of_lookup hfound hexported

/-- No two exported methods have one name. -/
theorem exportedMethods_nodup (c : ClassDef) : (c.exportedMethods.map Method.name).Nodup := by
  have hnames : c.exportedMethods.map Method.name = Assoc.keys (exportTable c.line) := by
    rw [exportedMethods_eq, Assoc.values, Assoc.keys, List.map_map]
    refine List.map_congr_left fun p hp => ?_
    have hget := (Assoc.get?_eq_some_iff (nodup_exportTable c.line)).mpr hp
    rw [get?_exportTable] at hget
    exact (name_of_exportedAs? hget).1
  rw [hnames]
  exact nodup_exportTable c.line

/-! ## Results -/

/-- What an exported method gives a member: its answer under the name of its property. A property
that is named like a core field is not asked for, and a method that fails gives nothing. -/
def resultOf? (c : ClassDef) (x : Member) (m : Method) : Option (String × Value) :=
  let property := m.property?.getD m.name
  if coreFields.contains property then none
  else (c.answerOf m x).toOption.map fun v => (property, v)

theorem resultsFrom_eq (c : ClassDef) (x : Member) (methods : List Method)
    (before : List (String × Value)) : (c.resultsFrom x before methods).1 =
      Assoc.update before (methods.filterMap (c.resultOf? x)) := by
  induction methods generalizing before with
  | nil => rfl
  | cons m rest ih =>
    rw [resultsFrom, List.filterMap_cons, resultOf?]
    dsimp only
    split
    · exact ih before
    · cases hanswer : c.answerOf m x with
      | error reason => exact ih before
      | ok v => exact ih _

/-- **The results of a case come from the exported methods**, of each name the nearest that is
exported; this is what the class has under the name exactly where no exported method is hidden. -/
theorem exports_by_lookup_iff (brings : Ancestor → String → Bool) (c : ClassDef) :
    (∀ name, c.ExportsByLookup brings name ↔ ¬ c.Hides brings name) ∧
      (∀ m, m ∈ c.exportedMethods ↔ c.exportedAs? m.name = some m) ∧
      (c.exportedMethods.map Method.name).Nodup ∧
      ∀ x, (c.results x).1 = Assoc.ofList (c.exportedMethods.filterMap (c.resultOf? x)) := by
  refine ⟨fun name => exportsByLookup_iff, fun m => mem_exportedMethods_iff,
    c.exportedMethods_nodup, fun x => ?_⟩
  rw [results, resultsFrom_eq]
  rfl

end ClassDef

/-! ## A method that is declared again without being exported -/

/-- A declaration with an exported method. -/
def toned : ClassDecl where
  name := "Toned"
  qualifiedName := "Toned"
  module := "app"
  bases := [.marker]
  methods := [{ name := "tone", mark := .plain, otherwise := .value (.text "warm") }]

/-- An enumeration that builds on it and declares the method again, not to be exported. -/
def chord : ClassDecl where
  name := "Chord"
  qualifiedName := "Chord"
  module := "app"
  bases := [.declared "Toned", .enumeration]
  members := [("One", .given (.int 1))]
  methods := [{ name := "tone", mark := .unmarked, otherwise := .value (.text "plain") }]
  parents := [toned]

/-- The class of the first declaration. -/
def tonedClass : ClassDef where
  name := "Toned"
  qualifiedName := "Toned"
  module := "app"
  line := [{ self := .declared "Toned", methods := toned.methods }, { self := .marker },
    { self := .object }]
  table := {}
  notes := []
  keepsValues := false

/-- The class of the second one. -/
def chordClass : ClassDef where
  name := "Chord"
  qualifiedName := "Chord"
  module := "app"
  line := [{ self := .declared "Chord", methods := chord.methods },
    { self := .declared "Toned", methods := toned.methods }, { self := .marker },
    { self := .enumeration }, { self := .object }]
  table := { names := [("One", ⟨"One", .int 1⟩)], listed := [⟨"One", .int 1⟩] }
  notes := []
  keepsValues := false

/-- What `Chord` has under the name is not exported, but the method behind it is. -/
theorem chord_hides_tone : ClassDef.ofDeclOver [] toned = .ok tonedClass ∧
    ClassDef.ofDeclOver [tonedClass] chord = .ok chordClass ∧
    (chordClass.results ⟨"One", .int 1⟩).1 = [("tone", .text "warm")] ∧
    ∀ brings, chordClass.lookup brings "tone" =
        some (.declared (.method
          { name := "tone", mark := .unmarked, otherwise := .value (.text "plain") })) ∧
      ¬ chordClass.ExportsByLookup brings "tone" := by
  refine ⟨rfl, rfl, rfl, fun brings => ⟨rfl, fun hlookup => ?_⟩⟩
  have hexported : { name := "tone", mark := .plain, otherwise := .value (.text "warm") } ∈
      chordClass.exportedMethods := List.mem_singleton.mpr rfl
  obtain ⟨hfound, -⟩ := (hlookup _ rfl).mp hexported
  injection hfound with hfound
  injection hfound with hfound
  injection hfound with hfound
  injection hfound with _ hmark
  cases hmark

end EnumExport
