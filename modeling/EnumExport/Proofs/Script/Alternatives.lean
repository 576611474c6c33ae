import EnumExport.Proofs.Class.Choices
import EnumExport.Proofs.Script.Batch
import EnumExport.Proofs.Script.Fields

/-!
# Alternatives of types

The types of keys, of values and of choices are alternatives of literals. This is about which literals
these are where a class that passes the tests is exported.

* A literal of a scalar is read back as the scalar: `readScalar?_of_spells`. So scalars that are told
  apart have different literals (`nodup_literals`), and leaving out repetitions leaves out nothing.
* No literal is mistaken for the name of the type of keys, as it ends in a letter that no literal ends
  in: `Spells.ne_alias`.
* `types_list_cases` puts these together: the types list the literals of the keys and values, each
  once and in order, and the literal of every choice is among what the type of choices stands for.
-/

namespace EnumExport.Script

open Notation

/-! ## Literals of scalars -/

/-- How a scalar is written. The truth value that a member stands for counts as a number, and is
written as it is. -/
inductive Spells : Scalar → Expr → Prop
  /-- a text is written between quotes -/
  | text (s : String) : Spells (.text s) (.text s)
  /-- a whole number is written in digits -/
  | whole (i : Int) : Spells (.number i) (.json (.int i))
  /-- a truth value is written as a word -/
  | truth (b : Bool) : Spells (.number (if b then 1 else 0)) (.json (.bool b))

section Scalars

variable {v : Value} {a : Scalar} {e : Expr}

theorem literalExpr_of_scalar (h : v.scalar? = some a) :
    ∃ e, literalExpr v = .ok e ∧ Spells a e := by
  cases v with
  | text s =>
    cases h
    exact ⟨_, rfl, .text s⟩
  | int i =>
    cases h
    exact ⟨_, rfl, .whole i⟩
  | bool b =>
    cases h
    exact ⟨_, rfl, .truth b⟩
  | member tag v =>
    -- a member is written as what it stands for
    obtain ⟨owner, name, data, shows, isFlag⟩ := tag
    cases data <;> cases v <;> simp [Value.scalar?, Value.asText?, Value.asInt?] at h <;> subst h
    · exact ⟨_, rfl, .text _⟩
    · exact ⟨_, rfl, .truth _⟩
    · exact ⟨_, rfl, .whole _⟩
  | _ => simp [Value.scalar?, Value.asText?, Value.asInt?] at h

theorem literal_of_ne_null (h : v ≠ .null) : literal v = match v.asText? with
    | some s => .ok (textLiteral s)
    | none => jsonText v := by
  cases v with
  | null => exact absurd rfl h
  | _ => rfl

/-- A value is written as a literal in the same way wherever it is written. -/
theorem literal_of_literalExpr (h : literalExpr v = .ok e) : literal v = .ok e.render := by
  by_cases hnull : v = .null
  · subst hnull
    cases h
    rfl
  · rw [literal_of_ne_null hnull]
    rw [literalExpr] at h
    cases htext : v.asText? with
    | some s =>
      rw [htext] at h
      cases h
      rfl
    | none =>
      rw [htext] at h
      cases hj : Json.ofValue v with
      | error u =>
        rw [hj] at h
        cases h
      | ok j =>
        rw [hj] at h
        cases h
        dsimp only
        rw [jsonText, Json.renderValue, hj]
        rfl

/-- The scalar that a literal is read as. -/
def readScalar? (text : String) : Option Scalar := (read? .script text).bind Value.scalar?

theorem readScalar?_of_spells (h : Spells a e) : readScalar? e.render = some a := by
  have hwhole : e.isWhole = true := by cases h <;> rfl
  rw [readScalar?, (Reads.expr hwhole).read?]
  cases h <;> rfl

theorem getLast?_literalChars (cs : List Char) : (literalChars cs).getLast? = some '\'' := by
  rw [literalChars]
  exact List.getLast?_concat

/-- A literal does not end like the name of a type. -/
theorem Spells.ne_alias (h : Spells a e) (name : String) : e.render ≠ name ++ "Key" := by
  intro heq
  have hlast : e.chars.getLast? = some 'y' := by
    rw [Expr.chars, heq, String.toList_append]
    simp
  have hmem : 'y' ∈ e.chars := List.mem_of_getLast? hlast
  cases h with
  | text s =>
    rw [Expr.chars_text, getLast?_literalChars] at hlast
    cases hlast
  | whole i =>
    rw [Expr.chars_json, Json.chars, toList_toString_int] at hmem
    split at hmem
    · exact absurd (isDigit_of_mem_toDigits hmem) (by decide)
    · rcases List.mem_cons.mp hmem with hminus | hdigit
      · cases hminus
      · exact absurd (isDigit_of_mem_toDigits hdigit) (by decide)
  | truth b => cases b <;> simp [Expr.chars_json, Json.chars] at hmem

end Scalars

/-! ## Literals of several scalars -/

theorem nodup_textLiterals {ks : List String} (h : ks.Nodup) : (ks.map textLiteral).Nodup := by
  refine List.pairwise_map.mpr (h.imp ?_)
  intro s t hne heq
  have hs := readScalar?_of_spells (.text s)
  have ht := readScalar?_of_spells (.text t)
  rw [Expr.render] at hs ht
  rw [heq, ht] at hs
  cases hs
  exact hne rfl

/-- Scalars have literals, which are read back as what they count as. -/
theorem exists_literals {vs : List Value} (h : ∀ v ∈ vs, ∃ a, v.scalar? = some a) :
    ∃ literals : List String, vs.mapM literal = .ok literals ∧
      literals.map readScalar? = vs.map Value.scalar? := by
  have heach : ∀ v ∈ vs, ∃ t, literal v = .ok (id t) ∧ readScalar? t = v.scalar? ∧ True := by
    intro v hv
    obtain ⟨a, ha⟩ := h v hv
    obtain ⟨e, he, hspells⟩ := literalExpr_of_scalar ha
    exact ⟨e.render, literal_of_literalExpr he, by rw [readScalar?_of_spells hspells, ha], trivial⟩
  obtain ⟨literals, hliterals, hback, -⟩ := mapM_of_forall id readScalar? (fun _ => True) heach
  rw [List.map_id] at hliterals
  exact ⟨literals, hliterals, hback⟩

/-- Scalars that are told apart have literals of their own. -/
theorem nodup_literals {vs : List Value} {literals : List String}
    (h : ∀ v ∈ vs, ∃ a, v.scalar? = some a) (hapart : vs.Pairwise Value.Apart)
    (hback : literals.map readScalar? = vs.map Value.scalar?) : literals.Nodup := by
  have hscalars : (literals.map readScalar?).Nodup := by
    rw [hback]
    refine List.pairwise_map.mpr (hapart.imp_of_mem ?_)
    intro v w hv hw hvw heq
    obtain ⟨a, ha⟩ := h v hv
    obtain ⟨b, hb⟩ := h w hw
    have hne := (hvw (Value.ne_null_of_scalar ha) (Value.ne_null_of_scalar hb)).1
    rw [Value.same_of_scalar ha hb] at hne
    rw [ha, hb] at heq
    exact of_decide_eq_false hne (Option.some.inj heq)
  exact List.Pairwise.of_map readScalar? (fun _ _ hne heq => hne (congrArg readScalar? heq)) hscalars

/-! ## Alternatives -/

/-- The alternatives of the type of values: the name of the type of keys where there is no scalar
kind, `never` where no case has a value. -/
def valueUnion (name : String) (backing : Option BackingKind) (literals : List String) :
    List String :=
  match backing with
  | none => [name ++ "Key"]
  | some _ => if literals.isEmpty then ["never"] else literals

/-- Some alternatives, with those of a type in place of its name. -/
def expandName (name : String) (body alternatives : List String) : List String :=
  alternatives.flatMap fun t => if t = name then body else [t]

theorem mem_expandName {name t : String} {body alternatives : List String}
    (h : name ∈ alternatives) (ht : t ∈ body) : t ∈ expandName name body alternatives :=
  List.mem_flatMap.mpr ⟨name, h, by rwa [if_pos rfl]⟩

theorem mem_expandName_of_ne {name t : String} {body alternatives : List String}
    (h : t ∈ alternatives) (ht : t ≠ name) : t ∈ expandName name body alternatives :=
  List.mem_flatMap.mpr ⟨t, h, by rw [if_neg ht]; exact List.mem_singleton_self t⟩

/-- What the type of choices stands for: its alternatives, with those of the types of keys and of
values in place of their names. -/
def choiceUnion (name : String) (entry : Entry) (literals : List String) : List String :=
  expandName (name ++ "Key") (keyAlternatives entry.cases)
    (expandName (name ++ "Value") (valueUnion name entry.backing literals)
      (choiceTypes name entry))

theorem append_key_ne_append_value (name : String) : name ++ "Key" ≠ name ++ "Value" := by
  intro heq
  have hlast := congrArg (fun s => s.toList.getLast?) heq
  simp at hlast

section Entries

variable {c : ClassDef} {r : LabelResolver} {locale : Value} {entry : Entry}

theorem mem_presentValues {cases : List Case} {v : Value} :
    v ∈ presentValues cases ↔ v ≠ .null ∧ ∃ x ∈ cases, x.value = v := by
  rw [presentValues, List.mem_filter, List.mem_map, and_comm]
  cases v <;> simp

/-- The values of an entry that describes a class have literals of their own. -/
theorem exists_valueLiterals (h : c.Describes r locale entry) :
    ∃ literals, (presentValues entry.cases).mapM literal = .ok literals ∧ literals.Nodup := by
  have hscalar : ∀ v ∈ presentValues entry.cases, ∃ a, v.scalar? = some a := by
    intro v hv
    obtain ⟨hnull, x, hx, rfl⟩ := mem_presentValues.mp hv
    exact (h.scalar_or_null x hx).resolve_left hnull
  have hapart : (presentValues entry.cases).Pairwise Value.Apart := h.apart.filter _
  obtain ⟨literals, hliterals, hback⟩ := exists_literals hscalar
  exact ⟨literals, hliterals, nodup_literals hscalar hapart hback⟩

/-- The type of values lists the literals of the values, none of which is left out. -/
theorem valueBody_eq (name : String) {literals : List String}
    (hliterals : (presentValues entry.cases).mapM literal = .ok literals)
    (hnodup : literals.Nodup) :
    valueBody name entry = .ok (.union (valueUnion name entry.backing literals)) := by
  have halternatives : valueAlternatives entry.cases = .ok literals := by
    rw [valueAlternatives, hliterals]
    exact congrArg Except.ok (Assoc.eraseDups_of_nodup hnodup)
  rw [valueBody, halternatives]
  cases entry.backing <;> rfl

/-- The literal of a choice is among what the type of choices stands for. -/
theorem mem_choiceUnion (name : String) (h : c.Describes r locale entry) {literals : List String}
    (hliterals : (presentValues entry.cases).mapM literal = .ok literals) :
    ∀ o ∈ entry.choices, ∃ t, literal o.value = .ok t ∧ t ∈ choiceUnion name entry literals := by
  intro o ho
  rw [h.choices] at ho
  obtain ⟨x, hx, rfl⟩ := List.mem_map.mp ho
  rcases h.scalar_or_null x hx with hnull | ⟨a, ha⟩
  · -- a choice without value carries its key, and the type of keys is among the alternatives
    have hvalue := Case.choice_of_null hnull r locale
    have hhas : hasNullValue entry.cases = true := by
      rw [hasNullValue, List.any_eq_true]
      exact ⟨x, hx, by rw [hnull]⟩
    refine ⟨textLiteral x.key, by rw [hvalue]; rfl, mem_expandName ?_ (List.mem_map_of_mem hx)⟩
    rw [choiceTypes, hhas]
    cases hk : entry.backing with
    | none => exact mem_expandName (by simp) (by simp [valueUnion])
    | some k => exact mem_expandName_of_ne (by simp) (append_key_ne_append_value name)
  · have hne : x.value ≠ .null := Value.ne_null_of_scalar ha
    have hvalue := Case.choice_of_ne_null hne r locale
    obtain ⟨e, he, hspells⟩ := literalExpr_of_scalar ha
    have hliteral := literal_of_literalExpr he
    have hmem : e.render ∈ literals :=
      (mem_mapM_ok_iff hliterals _).mpr ⟨x.value, mem_presentValues.mpr ⟨hne, x, hx, rfl⟩, hliteral⟩
    refine ⟨e.render, by rw [hvalue]; exact hliteral,
      mem_expandName_of_ne (mem_expandName ?_ ?_) (hspells.ne_alias name)⟩
    · rw [choiceTypes]
      split <;> simp
    · cases hk : entry.backing with
      | none => exact absurd (h.unbacked hk x hx) hne
      | some k =>
        have hsome : literals.isEmpty = false := by simpa using List.ne_nil_of_mem hmem
        simpa [valueUnion, hsome] using hmem

end Entries

/-! ## Modules -/

section Modules

variable {name : String} {entry : Entry} {options : Options} {items : List Item}

/-- The types of a module are among its items, however the module builds its object. -/
theorem exists_typeItems (h : moduleItems name entry options = .ok items) :
    ∃ types, typeItems name entry options.exportTypes = .ok types ∧ types ⊆ items := by
  obtain ⟨_, -, h⟩ := exists_of_bind_ok h
  obtain ⟨types, htypes, h⟩ := exists_of_bind_ok h
  obtain ⟨body, hitems⟩ : ∃ body, headItems options ++ types ++ body ++ [.defaultExport name] =
      items := by
    split at h <;> obtain ⟨body, -, h⟩ := exists_of_bind_ok h <;> exact ⟨body, Except.ok.inj h⟩
  exact ⟨types, htypes, fun i hi => hitems ▸ by simp [hi]⟩

/-- A row of the list of choices begins with the literal of what the choice stands for. -/
theorem head?_of_choiceProperties (o : Choice) : Ensures (choiceProperties o) fun row =>
    row.head?.map Property.render = (literal o.value).toOption.map ("value: " ++ ·) := by
  refine .bind fun e he => .pure ?_
  rw [literal_of_literalExpr he]
  rfl

/-- The list of choices is among the items of a module that builds its object itself. -/
theorem exists_choiceRows
    (h : moduleItems name entry { options with strategy := .inline } = .ok items) :
    ∃ rows, .choices "OPTIONS" ("readonly " ++ name ++ "Option[]") rows ∈ items ∧
      rows.map (fun row => row.head?.map Property.render) =
        entry.choices.map fun o => (literal o.value).toOption.map ("value: " ++ ·) := by
  obtain ⟨types, entries, collections, object, -, -, hcollections, -, rfl⟩ :=
    parts_of_moduleItems h
  obtain ⟨rows, hrows, hcollections⟩ := exists_of_bind_ok hcollections
  cases hcollections
  exact ⟨rows, by simp, Ensures.mapM (fun o _ => head?_of_choiceProperties o) rows hrows⟩

end Modules

/-- **What types list.** Of a class that passes the tests, the type of keys lists the literals of the
keys and the type of values those of the values that are not null, in order and none twice; where
there are none it is `never`, and the type of keys where there is no scalar kind. The literal of
every choice, as a module that builds its object itself writes it, is among what the type of choices
stands for. -/
theorem types_list_cases {entry : Entry} (h : entry.IsOfClass) (name : String)
    (options : Options) :
    (entry.cases.map fun x => textLiteral x.key).Nodup ∧
    ∃ literals, (presentValues entry.cases).mapM literal = .ok literals ∧ literals.Nodup ∧
      ∀ source, generate name entry options = .ok source → ∃ items choice,
        moduleItems name entry options = .ok items ∧ source = render items ∧
        .typeAlias options.exportTypes (name ++ "Key")
          (.union (entry.cases.map fun x => textLiteral x.key)) ∈ items ∧
        .typeAlias options.exportTypes (name ++ "Value")
          (.union (valueUnion name entry.backing literals)) ∈ items ∧
        .typeAlias options.exportTypes (name ++ "Option")
          (.record [⟨"value", false, choice⟩, ⟨"label", false, ["string"]⟩]) ∈ items ∧
        (∀ o ∈ entry.choices, ∃ t, literal o.value = .ok t ∧
          t ∈ expandName (name ++ "Key") (entry.cases.map fun x => textLiteral x.key)
            (expandName (name ++ "Value") (valueUnion name entry.backing literals) choice)) ∧
        (options.strategy = .inline → ∃ rows,
          .choices "OPTIONS" ("readonly " ++ name ++ "Option[]") rows ∈ items ∧
          rows.map (fun row => row.head?.map Property.render) =
            entry.choices.map fun o => (literal o.value).toOption.map ("value: " ++ ·)) := by
  obtain ⟨known, d, c, ms, candidate, files, r, locale, q, hc, hvalid, hentry⟩ := h
  have hdescribes := ClassDef.describes_of_entry hc hvalid hentry
  obtain ⟨literals, hliterals, hnodup⟩ := exists_valueLiterals hdescribes
  have hkeys : (entry.cases.map fun x => textLiteral x.key).Nodup := by
    have hdistinct := nodup_textLiterals hdescribes.distinct
    rwa [List.map_map] at hdistinct
  refine ⟨hkeys, literals, hliterals, hnodup, ?_⟩
  intro source hsource
  obtain ⟨items, hitems, hsource⟩ := exists_of_bind_ok hsource
  cases hsource
  obtain ⟨types, htypes, hsub⟩ := exists_typeItems hitems
  obtain ⟨value, hvalue, htypes⟩ := exists_of_bind_ok htypes
  obtain ⟨data, -, htypes⟩ := exists_of_bind_ok htypes
  obtain ⟨fields, -, htypes⟩ := exists_of_bind_ok htypes
  rw [valueBody_eq name hliterals hnodup] at hvalue
  cases hvalue
  cases htypes
  refine ⟨items, choiceTypes name entry, hitems, rfl, hsub (by simp [keyAlternatives]),
    hsub (by simp), hsub (by simp), mem_choiceUnion name hdescribes hliterals, ?_⟩
  intro hinline
  have hsame : { options with strategy := .inline } = options := by rw [← hinline]
  exact exists_choiceRows (hsame ▸ hitems)

/-- The types of `Suit`, whose second case has no value. -/
theorem types_list_suit : ∃ items choice, moduleItems "Suit" suitEntry {} = .ok items ∧
    .typeAlias false "SuitKey" (.union ["'Hearts'", "'Nothing'"]) ∈ items ∧
    .typeAlias false "SuitValue" (.union ["'H'"]) ∈ items ∧
    .typeAlias false "SuitOption"
      (.record [⟨"value", false, choice⟩, ⟨"label", false, ["string"]⟩]) ∈ items ∧
    ∀ o ∈ suitEntry.choices, ∃ t, literal o.value = .ok t ∧
      t ∈ expandName "SuitKey" ["'Hearts'", "'Nothing'"] (expandName "SuitValue" ["'H'"] choice) := by
  obtain ⟨source, hsource⟩ : ∃ source, generate "Suit" suitEntry {} = .ok source := ⟨_, rfl⟩
  have hvalues : (presentValues suitEntry.cases).mapM literal = .ok ["'H'"] := rfl
  obtain ⟨-, literals, hliterals, -, htypes⟩ := types_list_cases suitEntry_isOfClass "Suit" {}
  obtain ⟨items, choice, hitems, -, hkey, hvalue, hchoice, hmem, -⟩ := htypes source hsource
  obtain rfl : literals = ["'H'"] := Except.ok.inj (hliterals.symm.trans hvalues)
  exact ⟨items, choice, hitems, hkey, hvalue, hchoice, hmem⟩

end EnumExport.Script
