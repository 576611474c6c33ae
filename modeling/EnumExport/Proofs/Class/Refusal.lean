import EnumExport.Proofs.Class.Found
import EnumExport.Proofs.Class.Generation
import EnumExport.Registry.Basic

/-!
# What the tests of a class leave open

A class that passes the tests may still not be exported. `ClassDef.Refused` lists what can stand in
the way, and there is nothing else:

* while its entry is made, a label cannot be translated or the class fails to describe itself:
  `entryOf_fails`, provided that the language files can be loaded;
* while its module is generated, a name of a member is not free, or something said of a member has no
  JSON form: `error_of_entryOf`, provided that metadata is named by texts.
-/

namespace EnumExport

/-- Why a class that passes the tests may not be exported. -/
inductive ClassDef.Refused (c : ClassDef) (r : LabelResolver) (locale : Value) : Prop
  /-- a member has a name that is not free -/
  | misspelled (m : Member) (hm : m ∈ c.members) (h : isFreeKey m.name = false)
  /-- metadata or the result of a method has no JSON form -/
  | unwritten (m : Member) (hm : m ∈ c.members) (v : Value) (hv : v ∈ c.dataOf m)
      (u : Json.Unwritable) (h : Json.ofValue v = .error u)
  /-- a parameter of a label is not named by a text -/
  | parameter (m : Member) (hm : m ∈ c.members) (key : String) (params : List (Value × Value))
      (hlabel : (c.notesFor m).label = some (.translated key params)) (q : Value × Value)
      (hq : q ∈ params) (h : q.1.isText = false)
  /-- the locale that a label is looked up for is no text -/
  | locale (m : Member) (hm : m ∈ c.members)
    (hlabel : ∀ text, (c.notesFor m).label ≠ some (.fixed text))
    (h : (r.localeOr locale).isText = false)
  /-- without the mark, it describes itself and fails -/
  | description (hmark : c.isMarked = false) (message : String)
      (h : c.ownDescription = some (.failing message))

/-! ## Labels -/

/-- The language files that labels are taken from can be loaded: those of the locales to export, and
those of the locale that is asked for. -/
structure LabelResolver.CanLoad (r : LabelResolver) (files : FileTree) (requested : Value) : Prop where
  /-- those of the locales to export -/
  locales : ∀ l ∈ r.locales, ∃ c, r.translator.catalog files (.text l) = .ok c
  /-- those of the locale that is asked for, when it is one -/
  requested : (r.localeOr requested).isText = true →
    ∃ c, r.translator.catalog files (r.localeOr requested) = .ok c

section Labels

open Wording

theorem exists_of_params?_none {params : List (Value × Value)} (h : params? params = none) :
    ∃ q ∈ params, q.1.isText = false := by
  induction params with
  | nil => cases h
  | cons q rest ih =>
    cases hq : q.1.asText? with
    | none => exact ⟨q, by simp, by rw [Value.isText, hq]; rfl⟩
    | some s =>
      have hrest : params? rest = none := by
        cases hps : params? rest with
        | none => rfl
        | some ps =>
          rw [params?] at h hps
          rw [List.mapM_cons, hq, hps] at h
          cases h
      obtain ⟨q', hq', htext⟩ := ih hrest
      exact ⟨q', by simp [hq'], htext⟩

/-- A key of a catalog is not translated only where a parameter is not named by a text. -/
theorem Wording.Catalog.translate_fails (c : Catalog) (key : String)
    (params : List (Value × Value)) :
    FailsWith (c.translate key params) fun _ => ∃ q ∈ params, q.1.isText = false := by
  rw [Catalog.translate]
  split
  · exact .ok _
  · split
    · exact .ok _
    · split
      · exact .ok _
      · next hnone => exact fun _ _ => exists_of_params?_none hnone

theorem Wording.Translator.translate_fails {t : Translator} {files : FileTree} {l : Value}
    (hload : ∃ c, t.catalog files l = .ok c) (key : String) (params : List (Value × Value)) :
    FailsWith (t.translate files key params l) fun _ => ∃ q ∈ params, q.1.isText = false := by
  obtain ⟨c, hc⟩ := hload
  have htranslate := c.translate_fails key params
  unfold Translator.translate
  rw [hc]
  refine .bind (.ok c) fun c' hc' => ?_
  cases hc'
  split
  · exact .ok _
  · next e he => exact fun _ _ => htranslate e he

namespace LabelResolver

variable {r : LabelResolver} {files : FileTree} {requested : Value}

theorem translate_fails (h : r.CanLoad files requested) (key : String)
    (params : List (Value × Value)) :
    FailsWith (r.translator.translate files key params (r.localeOr requested)) fun _ =>
      (∃ q ∈ params, q.1.isText = false) ∨ (r.localeOr requested).isText = false := by
  cases htext : (r.localeOr requested).isText with
  | false => exact fun _ _ => .inr rfl
  | true => exact (Translator.translate_fails (h.requested htext) key params).mono fun _ => Or.inl

theorem unhashable?_of_isText {v : Value} (h : v.isText = true) : v.unhashable? = none := by
  obtain ⟨s, hs⟩ := Option.isSome_iff_exists.mp h
  exact Value.unhashable?_of_scalar (a := .text s) (by rw [Value.scalar?, hs])

/-- Where language files can be loaded, a label is not resolved only because of a parameter that is
not named by a text, or because it is looked up for a locale that is none. -/
theorem resolve_fails (h : r.CanLoad files requested) (case : String) (notes : CaseNotes)
    (owner : String) : FailsWith (r.resolve files case notes owner requested) fun _ =>
      (∃ key params, notes.label = some (.translated key params) ∧
        ∃ q ∈ params, q.1.isText = false) ∨
      ((∀ text, notes.label ≠ some (.fixed text)) ∧ (r.localeOr requested).isText = false) := by
  unfold resolve
  split
  · next key params hlabel =>
    have hlooked : ∀ text, notes.label ≠ some (.fixed text) := by
      intro text hfixed
      cases hlabel.symm.trans hfixed
    split
    · refine .bind ((translate_fails h key params).mono fun _ he => ?_) fun _ _ => .ok _
      exact he.imp (fun hq => ⟨key, params, hlabel, hq⟩) fun hlocale => ⟨hlooked, hlocale⟩
    · have htexts : FailsWith (r.localizedTexts files key params) fun _ =>
          ∃ q ∈ params, q.1.isText = false :=
        .mapM fun l hl =>
          .bind (Translator.translate_fails (h.locales l hl) key params) fun _ _ => .ok _
      refine .bind (htexts.mono fun _ hq => .inl ⟨key, params, hlabel, hq⟩) fun _ _ => ?_
      split
      · next kind hkind =>
        refine fun _ _ => .inr ⟨hlooked, ?_⟩
        cases htext : (r.localeOr requested).isText with
        | false => rfl
        | true =>
          rw [unhashable?_of_isText htext] at hkind
          cases hkind
      · exact .ok _
  · exact .ok _
  · next hnone =>
    have hlooked : ∀ text, notes.label ≠ some (.fixed text) := by
      intro text hfixed
      cases hnone.symm.trans hfixed
    refine .bind ((translate_fails h _ []).mono fun _ he => ?_) fun _ _ => .ok _
    exact .inr ⟨hlooked, he.resolve_left (by simp)⟩

/-- Labels are always resolved where no texts are to be found. -/
theorem resolve_default_fails (case : String) (notes : CaseNotes) (owner : String) :
    FailsWith (({} : LabelResolver).resolve files case notes owner requested) fun _ => False := by
  unfold resolve
  split
  · refine .bind ?_ fun _ _ => .ok _
    rw [Translator.translate_of_none]
    exact .ok _
  · exact .ok _
  · refine .bind ?_ fun _ _ => .ok _
    rw [Translator.translate_of_none]
    exact .ok _

end LabelResolver

end Labels

/-! ## Entries -/

section Entries

variable {c : ClassDef} {files : FileTree} {r : LabelResolver} {locale : Value}

theorem ClassDef.casesFrom_fails {members : List Member} {P : EntryFault → Prop}
    (h : ∀ m ∈ members, ∀ fault,
      r.resolve files m.name (c.notesFor m) c.name locale = .error fault → P (.label fault)) :
    FailsWith (c.casesFrom files r locale members).2 P := by
  rw [casesFrom_eq]
  refine .mapM fun m hm e he => ?_
  rw [rowOf] at he
  split at he
  · next fault hfault =>
    cases he
    exact h m hm fault hfault
  · cases he

/-- The entry of an enumeration is not made only because some label is not resolved. -/
theorem ClassDef.entry_fails {P : EntryFault → Prop} (henum : c.isEnum = true)
    (h : ∀ m ∈ c.members, ∀ fault,
      r.resolve files m.name (c.notesFor m) c.name locale = .error fault → P (.label fault))
    (qualifiedName : Option String) : FailsWith (c.entry files r locale qualifiedName).2 P := by
  intro e he
  unfold ClassDef.entry at he
  rw [henum] at he
  cases hcases : (c.casesFrom files r locale c.members).2 with
  | error e' =>
    simp only [Bool.not_true, Bool.false_eq_true, if_false, hcases, Except.map] at he
    cases he
    exact casesFrom_fails h e hcases
  | ok cs =>
    simp only [Bool.not_true, Bool.false_eq_true, if_false, hcases, Except.map] at he
    cases he

/-- The full name in an entry is the one that is given, or that of the class. -/
theorem ClassDef.qualifiedName_of_entry {qualifiedName : Option String} {entry : Entry}
    (hentry : (c.entry files r locale qualifiedName).2 = .ok entry) :
    some entry.qualifiedName = qualifiedName ∨ entry.qualifiedName = c.fullName := by
  unfold ClassDef.entry at hentry
  split at hentry
  · cases hentry
  · cases hcases : (c.casesFrom files r locale c.members).2 with
    | error e =>
      simp only [hcases, Except.map] at hentry
      cases hentry
    | ok cs =>
      simp only [hcases, Except.map] at hentry
      obtain rfl := Except.ok.inj hentry
      cases qualifiedName with
      | none => exact .inr rfl
      | some q =>
        dsimp only
        split
        · exact .inr rfl
        · exact .inl rfl

end Entries

/-! ## Entries of a registry -/

namespace Registry

variable {r : Registry} {c : ClassDef} {candidate : Candidate} {locale : Value} {name : String}

/-- A class that passes the tests has no entry only for one of the reasons above. -/
theorem entryOf_fails (hvalid : r.modules.validate candidate = .ok c)
    (hload : r.resolver.CanLoad r.files locale) :
    FailsWith (r.entryOf locale name c).2 fun _ => c.Refused r.resolver locale := by
  obtain ⟨henum, -, -⟩ := Modules.validate_ok hvalid
  obtain ⟨-, hdescribes⟩ := Modules.found_of_validate hvalid
  rw [entryOf]
  split
  · refine ClassDef.entry_fails henum (fun m hm fault hfault => ?_) _
    rcases LabelResolver.resolve_fails hload _ _ _ fault hfault with
      ⟨key, params, hlabel, q, hq, h⟩ | ⟨hlooked, h⟩
    · exact .parameter m hm key params hlabel q hq h
    · exact .locale m hm hlooked h
  · next hmark =>
    rw [ClassDef.describe, if_neg hmark]
    split
    · refine ClassDef.entry_fails henum (fun m _ fault hfault => ?_) _
      exact (LabelResolver.resolve_default_fails _ _ _ fault hfault).elim
    · next message hmessage =>
      exact fun _ _ => .description (by simpa using hmark) message hmessage
    · next hnone => simp [ClassDef.describesItself, hmark, hnone] at hdescribes

/-- The entry of a class in a registry is one that the class has for some resolver, under the name of
the candidate or that of the class. -/
theorem entry_of_entryOf {entry : Entry} (h : (r.entryOf locale name c).2 = .ok entry) :
    (∃ resolver qualifiedName, (c.entry r.files resolver locale qualifiedName).2 = .ok entry) ∧
      (entry.qualifiedName = name ∨ entry.qualifiedName = c.fullName) := by
  rw [entryOf] at h
  split at h
  · refine ⟨⟨_, _, h⟩, ?_⟩
    exact (ClassDef.qualifiedName_of_entry h).imp_left fun heq => Option.some.inj heq
  · next hmark =>
    rw [ClassDef.describe, if_neg hmark] at h
    split at h
    · refine ⟨⟨_, _, h⟩, .inr ?_⟩
      exact (ClassDef.qualifiedName_of_entry h).resolve_left fun heq => nomatch heq
    · cases h
    · cases h

/-- The module of a class that passes the tests and has an entry is not generated only for one of the
reasons above, none of which is about a name of a property. -/
theorem error_of_entryOf {known : List ClassDef} {d : ClassDecl} {entry : Entry}
    (hc : ClassDef.ofDeclOver known d = .ok c) (hvalid : r.modules.validate candidate = .ok c)
    (hnamed : c.IsNamed) (hentry : (r.entryOf locale name c).2 = .ok entry) (key : String)
    (options : Script.Options) :
    FailsWith (Script.generate key entry options) fun e =>
      c.Refused r.resolver locale ∧ ∀ kind, e ≠ .nameless kind := by
  obtain ⟨⟨resolver, qualifiedName, hentry⟩, -⟩ := entry_of_entryOf hentry
  intro e he
  rcases ClassDef.error_of_generate hc hvalid hnamed hentry key options e he with
    ⟨m, hm, hkey, hfree⟩ | ⟨m, hm, v, hv, u, hu, rfl⟩
  · refine ⟨.misspelled m hm hfree, ?_⟩
    rintro kind rfl
    cases hkey
  · exact ⟨.unwritten m hm v hv u hu, fun kind h => nomatch h⟩

end Registry

end EnumExport
