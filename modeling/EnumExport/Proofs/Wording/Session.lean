import EnumExport.Wording.Translator

/-!
# Translators at work

While a translator is at work, keys are translated and the disk changes, in any order. The catalog
of a locale is loaded by the first call for it at which it can be, and stays. So all that matters
for a locale is what the disk holds at the calls for it, `statesAt`:

* a call puts the catalog of its own locale into the session, unless one is there or it cannot be
  loaded, and does nothing else: `get?_loaded_translate`;
* so what is loaded for a locale is the first catalog that could be, `loaded_run`, by induction on
  what happens;
* a session with the catalog of some files answers what a fresh one does on these,
  `translate_of_loaded_from`, and one without a catalog what a fresh one does on the disk as it is,
  `translate_of_not_loaded`.
-/

namespace EnumExport.Wording

/-- What happens while a translator is at work. -/
inductive Event
  /-- a key is translated for a locale -/
  | translate (key : String) (params : List (Value × Value)) (locale : String)
  /-- the disk changes, in any way, and holds this from now on -/
  | change (files : FileTree)

/-- What the disk holds at the calls for a locale, from the first to the last. -/
def statesAt (locale : String) : FileTree → List Event → List FileTree
  | _, [] => []
  | files, .translate _ _ l :: rest =>
    if l = locale then files :: statesAt locale files rest else statesAt locale files rest
  | _, .change files :: rest => statesAt locale files rest

namespace Translator

/-- The catalog of a locale, if it can be loaded. -/
def catalog? (t : Translator) (locale : String) (files : FileTree) : Option Catalog :=
  (t.catalog files (.text locale)).toOption

/-- What the disk held at the first call for a locale at which its catalog could be loaded. -/
def seen? (t : Translator) (locale : String) (start : FileTree) (events : List Event) :
    Option FileTree :=
  (statesAt locale start events).find? fun files => (t.catalog? locale files).isSome

variable {t : Translator} {locale : String} {files : FileTree} {c : Catalog}

theorem catalog?_eq_some_iff :
    t.catalog? locale files = some c ↔ t.catalog files (.text locale) = .ok c := by
  rw [catalog?]
  cases t.catalog files (.text locale) with
  | error e => simp [Except.toOption]
  | ok d => simp [Except.toOption]

theorem catalog?_eq_none_iff :
    t.catalog? locale files = none ↔ ∃ e, t.catalog files (.text locale) = .error e := by
  rw [catalog?]
  cases t.catalog files (.text locale) with
  | error e => simp [Except.toOption]
  | ok d => simp [Except.toOption]

theorem loads_of_seen? {start : FileTree} {events : List Event}
    (h : t.seen? locale start events = some files) : (t.catalog? locale files).isSome := by
  have hloads := List.find?_some h
  exact hloads

/-- The first catalog that can be loaded is the one of the first state at which one can be. -/
theorem findSome?_catalog? (t : Translator) (locale : String) (states : List FileTree) :
    states.findSome? (t.catalog? locale) =
      (states.find? fun files => (t.catalog? locale files).isSome).bind (t.catalog? locale) := by
  induction states with
  | nil => rfl
  | cons files rest ih =>
    rw [List.findSome?_cons, List.find?_cons]
    cases h : t.catalog? locale files with
    | none => simpa using ih
    | some c => simp [h]

end Translator

namespace Session

variable {s s' : Session} {t : Translator} {locale : String}

/-- A translator that has loaded nothing yet. -/
def fresh (t : Translator) (files : FileTree) : Session := { translator := t, files }

/-- The session after something has happened. -/
def step (s : Session) : Event → Session
  | .translate key params locale => (s.translate key params locale).2
  | .change files => { s with files }

/-- The session after all of the events, in order. -/
def run (s : Session) (events : List Event) : Session := events.foldl step s

/-! ## What a call does to a session -/

theorem translate_of_catalog_error {e : Fault} (h : s.catalog locale = .error e) (key : String)
    (params : List (Value × Value)) : s.translate key params locale = (.error e, s) := by
  rw [translate, h]

theorem translate_of_catalog_ok {c : Catalog} (h : s.catalog locale = .ok (c, s')) (key : String)
    (params : List (Value × Value)) :
    s.translate key params locale = ((c.translate key params).mapError .key, s') := by
  rw [translate, h]
  dsimp only
  cases c.translate key params <;> rfl

theorem catalog_of_loaded {c : Catalog} (h : Assoc.get? locale s.loaded = some c) :
    s.catalog locale = .ok (c, s) := by
  rw [catalog, h]

theorem catalog_of_not_loaded (h : Assoc.get? locale s.loaded = none) :
    s.catalog locale = (s.translator.catalog s.files (.text locale)).map fun c =>
      (c, { s with loaded := s.loaded ++ [(locale, c)] }) := by
  rw [catalog, h]
  dsimp only
  cases s.translator.catalog s.files (.text locale) <;> rfl

/-- What a call leaves behind: the session as it was, or with the catalog that was missing. -/
theorem translate_cases (s : Session) (key : String) (params : List (Value × Value))
    (locale : String) :
    ((s.translate key params locale).2 = s ∧ ((Assoc.get? locale s.loaded).isSome ∨
        s.translator.catalog? locale s.files = none)) ∨
      ∃ c, Assoc.get? locale s.loaded = none ∧ s.translator.catalog? locale s.files = some c ∧
        (s.translate key params locale).2 = { s with loaded := s.loaded ++ [(locale, c)] } := by
  cases h : Assoc.get? locale s.loaded with
  | some c =>
    left
    rw [translate_of_catalog_ok (catalog_of_loaded h)]
    exact ⟨rfl, .inl rfl⟩
  | none =>
    have hcatalog := catalog_of_not_loaded h
    cases hload : s.translator.catalog s.files (.text locale) with
    | error e =>
      left
      rw [hload] at hcatalog
      rw [translate_of_catalog_error hcatalog]
      exact ⟨rfl, .inr (Translator.catalog?_eq_none_iff.mpr ⟨e, hload⟩)⟩
    | ok c =>
      right
      rw [hload] at hcatalog
      rw [translate_of_catalog_ok hcatalog]
      exact ⟨c, rfl, Translator.catalog?_eq_some_iff.mpr hload, rfl⟩

/-- A call leaves the translator and the disk as they are. -/
theorem frame_translate (s : Session) (key : String) (params : List (Value × Value))
    (locale : String) : (s.translate key params locale).2.translator = s.translator ∧
      (s.translate key params locale).2.files = s.files := by
  obtain ⟨hsame, -⟩ | ⟨c, -, -, hadded⟩ := s.translate_cases key params locale
  · rw [hsame]
    exact ⟨rfl, rfl⟩
  · rw [hadded]
    exact ⟨rfl, rfl⟩

/-- A call loads the catalog of its own locale where none is there and it can be loaded. -/
theorem get?_loaded_translate (s : Session) (key : String) (params : List (Value × Value))
    (l locale : String) : Assoc.get? locale (s.translate key params l).2.loaded =
      (Assoc.get? locale s.loaded).or
        (if l = locale then s.translator.catalog? locale s.files else none) := by
  obtain ⟨hsame, hreason⟩ | ⟨c, hnone, hload, hadded⟩ := s.translate_cases key params l
  · rw [hsame]
    split
    · next hl =>
      subst hl
      rcases hreason with hloaded | hfails
      · rw [Option.or_of_isSome hloaded]
      · rw [hfails, Option.or_none]
    · rw [Option.or_none]
  · rw [hadded, Assoc.get?_append]
    congr 1
    split
    · next hl =>
      subst hl
      simp [Assoc.get?, hload]
    · next hl => simp [Assoc.get?, hl]

/-! ## What a session has loaded -/

theorem translator_run (s : Session) (events : List Event) :
    (s.run events).translator = s.translator := by
  induction events generalizing s with
  | nil => rfl
  | cons e rest ih =>
    refine (ih (s.step e)).trans ?_
    cases e with
    | translate key params locale => exact (s.frame_translate key params locale).1
    | change files => rfl

/-- The first catalog of a locale that can be loaded is loaded for good. -/
theorem loaded_run (s : Session) (locale : String) (events : List Event) :
    Assoc.get? locale (s.run events).loaded = (Assoc.get? locale s.loaded).or
      ((statesAt locale s.files events).findSome? (s.translator.catalog? locale)) := by
  induction events generalizing s with
  | nil => rw [statesAt, List.findSome?_nil, Option.or_none]; rfl
  | cons e rest ih =>
    refine (ih (s.step e)).trans ?_
    cases e with
    | change files => rfl
    | translate key params l =>
      obtain ⟨htranslator, hfiles⟩ := s.frame_translate key params l
      rw [step, get?_loaded_translate, htranslator, hfiles, Option.or_assoc, statesAt]
      split
      · rw [List.findSome?_cons]
        cases s.translator.catalog? locale s.files <;> rfl
      · rw [Option.none_or]

/-- The calls among further events find what the disk holds by then. -/
theorem statesAt_append (s : Session) (locale : String) (events more : List Event) :
    statesAt locale s.files (events ++ more) =
      statesAt locale s.files events ++ statesAt locale (s.run events).files more := by
  induction events generalizing s with
  | nil => rfl
  | cons e rest ih =>
    have hrest := ih (s.step e)
    cases e with
    | change files => exact hrest
    | translate key params l =>
      rw [step, (s.frame_translate key params l).2] at hrest
      rw [List.cons_append, statesAt, statesAt, hrest]
      split <;> rfl

/-! ## What is answered -/

theorem translate_of_loaded {c : Catalog} (h : Assoc.get? locale s.loaded = some c) (key : String)
    (params : List (Value × Value)) :
    (s.translate key params locale).1 = (c.translate key params).mapError .key := by
  rw [translate_of_catalog_ok (catalog_of_loaded h)]

/-- Where nothing is loaded, the answer is that of a translator that keeps nothing. -/
theorem translate_of_not_loaded (h : Assoc.get? locale s.loaded = none) (key : String)
    (params : List (Value × Value)) : (s.translate key params locale).1 =
      s.translator.translate s.files key params (.text locale) := by
  have hcatalog := catalog_of_not_loaded h
  rw [Translator.translate]
  cases hload : s.translator.catalog s.files (.text locale) with
  | error e =>
    rw [hload] at hcatalog
    rw [translate_of_catalog_error hcatalog]
    rfl
  | ok c =>
    rw [hload] at hcatalog
    rw [translate_of_catalog_ok hcatalog]
    cases hline : c.translate key params <;> simp [bind, Except.bind, hline] <;> rfl

theorem translate_fresh (t : Translator) (files : FileTree) (key : String)
    (params : List (Value × Value)) (locale : String) :
    ((fresh t files).translate key params locale).1 =
      t.translate files key params (.text locale) :=
  translate_of_not_loaded rfl key params

/-- A session that has the catalog of some files answers what a fresh one does on these. -/
theorem translate_of_loaded_from {files : FileTree}
    (h : Assoc.get? locale s.loaded = t.catalog? locale files)
    (hloads : (t.catalog? locale files).isSome) (key : String) (params : List (Value × Value)) :
    (s.translate key params locale).1 = ((fresh t files).translate key params locale).1 := by
  obtain ⟨c, hc⟩ := Option.isSome_iff_exists.mp hloads
  have hload := Translator.catalog?_eq_some_iff.mp hc
  have hfresh : (fresh t files).catalog locale =
      .ok (c, { fresh t files with loaded := [(locale, c)] }) := by
    refine (catalog_of_not_loaded rfl).trans ?_
    rw [fresh, hload]
    rfl
  rw [translate_of_loaded (h.trans hc), translate_of_catalog_ok hfresh]

/-- A load that fails does so on what the disk holds now. -/
theorem not_loaded_of_catalog_error {fault : Fault} (h : s.catalog locale = .error fault) :
    Assoc.get? locale s.loaded = none ∧
      s.translator.catalog s.files (.text locale) = .error fault := by
  cases hloaded : Assoc.get? locale s.loaded with
  | some c =>
    rw [catalog_of_loaded hloaded] at h
    cases h
  | none =>
    refine ⟨rfl, ?_⟩
    rw [catalog_of_not_loaded hloaded] at h
    cases hload : s.translator.catalog s.files (.text locale) with
    | error e =>
      rw [hload] at h
      cases h
      rfl
    | ok c =>
      rw [hload] at h
      cases h

/-! ## Runs from the start -/

/-- The session of a translator after all of the events, from the first one on. -/
def after (t : Translator) (start : FileTree) (events : List Event) : Session :=
  (fresh t start).run events

section Run

variable (t : Translator) (start : FileTree) (events : List Event) (locale : String)

theorem seen?_append (more : List Event) : t.seen? locale start (events ++ more) =
    (t.seen? locale start events).or (t.seen? locale (after t start events).files more) := by
  rw [Translator.seen?, Translator.seen?, Translator.seen?, ← List.find?_append]
  exact congrArg _ ((fresh t start).statesAt_append locale events more)

/-- What is loaded for a locale is its catalog on the state that it sees. -/
theorem get?_loaded_after : Assoc.get? locale (after t start events).loaded =
    (t.seen? locale start events).bind (t.catalog? locale) := by
  rw [after, loaded_run, Translator.seen?, ← Translator.findSome?_catalog?]
  rfl

/-- A call answers what a fresh translator does on the state that its locale sees, which is the
present one if it has not seen any. -/
theorem translate_after (key : String) (params : List (Value × Value)) :
    ((after t start events).translate key params locale).1 =
      ((fresh t ((t.seen? locale start events).getD (after t start events).files)).translate
        key params locale).1 := by
  have hloaded := get?_loaded_after t start events locale
  cases hseen : t.seen? locale start events with
  | none =>
    rw [hseen] at hloaded
    rw [translate_of_not_loaded hloaded, after, translator_run, translate_fresh]
    rfl
  | some files =>
    rw [hseen] at hloaded
    exact translate_of_loaded_from hloaded (Translator.loads_of_seen? hseen) key params

/-- What a locale has seen stays. -/
theorem translate_of_seen {files : FileTree} (h : t.seen? locale start events = some files)
    (more : List Event) (key : String) (params : List (Value × Value)) :
    ((after t start (events ++ more)).translate key params locale).1 =
      ((fresh t files).translate key params locale).1 := by
  rw [translate_after, seen?_append, h]
  rfl

/-- After a load that has failed, the next call for the locale loads what the disk holds then. -/
theorem translate_of_fault {fault : Fault}
    (h : (after t start events).catalog locale = .error fault) (more : List Event)
    (hmore : statesAt locale (after t start events).files more = []) (key : String)
    (params : List (Value × Value)) :
    ((after t start (events ++ more)).translate key params locale).1 =
      ((fresh t (after t start (events ++ more)).files).translate key params locale).1 := by
  have hseen : t.seen? locale start events = none := by
    cases hseen : t.seen? locale start events with
    | none => rfl
    | some files =>
      have hloads := Translator.loads_of_seen? hseen
      have hnone := get?_loaded_after t start events locale
      rw [(not_loaded_of_catalog_error h).1, hseen, Option.bind_some] at hnone
      rw [← hnone] at hloads
      cases hloads
  rw [translate_after, seen?_append, hseen, Translator.seen?, hmore]
  rfl

end Run

/-- **Catalogs are kept.** After any calls and any changes of the disk, a call answers what a fresh
translator does on the disk as it was at the first call for the locale at which the catalog could be
loaded. Nothing that comes later changes the answers for the locale. A call for which the catalog
cannot be loaded fails with the fault of that, leaves the session as it was, and the next call for
the locale starts anew on what the disk holds by then. And what is loaded for a locale is settled by
what the disk holds at the calls for it, whatever it holds at other times and whatever is called for
other locales. -/
theorem translate_of_run (t : Translator) (start : FileTree) (events : List Event)
    (locale : String) :
    (∀ key params, ((after t start events).translate key params locale).1 =
        ((fresh t ((t.seen? locale start events).getD (after t start events).files)).translate
          key params locale).1) ∧
      (∀ files, t.seen? locale start events = some files → ∀ more key params,
        ((after t start (events ++ more)).translate key params locale).1 =
          ((fresh t files).translate key params locale).1) ∧
      (∀ fault, (after t start events).catalog locale = .error fault →
        t.catalog (after t start events).files (.text locale) = .error fault ∧
        (∀ key params, (after t start events).translate key params locale =
          (.error fault, after t start events)) ∧
        ∀ more, statesAt locale (after t start events).files more = [] → ∀ key params,
          ((after t start (events ++ more)).translate key params locale).1 =
            ((fresh t (after t start (events ++ more)).files).translate key params locale).1) ∧
      ∀ start' events', statesAt locale start' events' = statesAt locale start events →
        Assoc.get? locale (after t start' events').loaded =
          Assoc.get? locale (after t start events).loaded := by
  refine ⟨translate_after t start events locale,
    fun files hseen => translate_of_seen t start events locale hseen, ?_, ?_⟩
  · intro fault hfault
    refine ⟨?_, translate_of_catalog_error hfault,
      fun more => translate_of_fault t start events locale hfault more⟩
    have hload := (not_loaded_of_catalog_error hfault).2
    rwa [after, translator_run] at hload
  · intro start' events' hstates
    rw [get?_loaded_after, get?_loaded_after, Translator.seen?, hstates, Translator.seen?]

/-! ## A file that goes and comes back -/

/-- A translator with a folder. -/
def greeter : Translator := { source := .folder { parts := ["lang"] } }

/-- The folder without any files. -/
def bareFolder : FileTree := { nodes := [(["lang"], .folder)] }

/-- The folder with a file that is no text. -/
def garbledFolder : FileTree :=
  { nodes := [(["lang"], .folder), (["lang", "en.yaml"], .file [255])] }

theorem translate_greeter :
    ((fresh greeter bareFolder).translate "hello" [] "en").1 = .ok "hello" := by
  have hload : greeter.catalog bareFolder (.text "en") = .ok [] := rfl
  rw [translate_fresh, Translator.translate, hload]
  rfl

/-- As long as the file is no text, calls fail; once it has gone they do not, even if it comes
back. -/
theorem translate_of_run_greeter :
    (after greeter garbledFolder [.translate "hello" [] "en"]).translate "hello" [] "en" =
        (.error (.load (.file .notText)),
          after greeter garbledFolder [.translate "hello" [] "en"]) ∧
      ((after greeter garbledFolder [.translate "hello" [] "en", .change bareFolder]).translate
        "hello" [] "en").1 = .ok "hello" ∧
      ((after greeter garbledFolder [.translate "hello" [] "en", .change bareFolder,
        .translate "hello" [] "en", .change garbledFolder]).translate "hello" [] "en").1 =
          .ok "hello" := by
  obtain ⟨-, -, hfails, -⟩ :=
    translate_of_run greeter garbledFolder [.translate "hello" [] "en"] "en"
  obtain ⟨-, hkeeps, -⟩ := translate_of_run greeter garbledFolder
    [.translate "hello" [] "en", .change bareFolder, .translate "hello" [] "en"] "en"
  obtain ⟨-, hfault, hretry⟩ := hfails (.load (.file .notText)) rfl
  refine ⟨hfault "hello" [], ?_, ?_⟩
  · exact (hretry [.change bareFolder] rfl "hello" []).trans translate_greeter
  · exact (hkeeps bareFolder rfl [.change garbledFolder] "hello" []).trans translate_greeter

end Session

end EnumExport.Wording
