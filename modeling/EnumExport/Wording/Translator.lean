import EnumExport.Wording.Folder

/-!
# Translators

A translator turns a key into a text for a locale. One has no texts and echoes every key, one has
its catalogs at hand, and one reads them from a folder.
-/

namespace EnumExport.Wording

/-- Where localized texts come from. -/
inductive Source
  /-- from nowhere -/
  | none
  /-- from catalogs, a map from locale to catalog -/
  | catalogs (all : Value)
  /-- from the files of a folder -/
  | folder (dir : Path)
  deriving Repr

/-- A translator. -/
structure Translator where
  /-- where its texts come from -/
  source : Source := .none
  /-- the locale it stands on -/
  locale : String := "en"
  deriving Repr

/-- Why a key cannot be localized. -/
inductive Fault
  /-- a catalog cannot be loaded -/
  | load (fault : Unloadable)
  /-- the key cannot be translated -/
  | key (fault : Untranslatable)
  deriving DecidableEq, Repr

/-- The catalog of a locale among several. -/
def catalogAmong (all : Value) (locale : Value) : Except Fault Catalog :=
  match all.pairs?, locale.unhashable? with
  | none, _ => .error (.key (.notMap all.kindName))
  | some _, some kind => .error (.key (.changeableLocale kind))
  | some ps, none =>
    match (Assoc.get? locale ps).getD (.map []) with
    | .map c | .readOnly c => .ok c
    | v => .error (.key (.notMap v.kindName))

/-- The catalog of a locale in a folder. Only a text can name the files. -/
def catalogIn (files : FileTree) (dir : Path) (locale : Value) : Except Fault Catalog :=
  match locale.asText?, locale.unhashable? with
  | some name, _ =>
    match loadCatalog files dir name with
    | .ok c => .ok c
    | .error e => .error (.load e)
  | none, some kind => .error (.key (.changeableLocale kind))
  | none, none =>
    match flatPairs files dir locale.display with
    | .ok _ => .error (.key (.namelessLocale locale.kindName))
    | .error e => .error (.load e)

/-- The catalog of a locale. -/
def Translator.catalog (t : Translator) (files : FileTree) (locale : Value) :
    Except Fault Catalog :=
  match t.source with
  | .none => .ok []
  | .catalogs all => catalogAmong all locale
  | .folder dir => catalogIn files dir locale

/-- The text of a key for a locale. -/
def Translator.translate (t : Translator) (files : FileTree) (key : String)
    (params : List (Value × Value)) (locale : Value) : Except Fault String := do
  let c ← t.catalog files locale
  match c.translate key params with
  | .ok s => return s
  | .error e => throw (.key e)

/-- A translator without texts echoes every key. -/
theorem Translator.translate_of_none (locale : String) (files : FileTree) (key : String)
    (params : List (Value × Value)) (l : Value) :
    ({ source := .none, locale } : Translator).translate files key params l = .ok key := by
  have h : Catalog.find? [] key = none := by
    have hs : follow? (.map []) (Text.split '.' key) = none := by
      obtain ⟨part, parts, hparts⟩ := List.exists_cons_of_ne_nil (Text.split_ne_nil key)
      simp [hparts, follow?, Value.pairs?, Value.field?, Assoc.get?]
    simp [Catalog.find?, Value.field?, Assoc.get?, hs]
  simp [Translator.translate, Translator.catalog, Catalog.translate_of_find?_none h, bind,
    Except.bind]
  rfl

/-! ## Keeping what was loaded -/

/-- A translator at work on a disk that changes: a catalog that was loaded stays as it was. -/
structure Session where
  /-- the translator -/
  translator : Translator
  /-- what the disk holds now -/
  files : FileTree
  /-- the catalogs loaded so far, by locale -/
  loaded : List (String × Catalog) := []

namespace Session

/-- The catalog of a locale, and the session that has it. -/
def catalog (s : Session) (locale : String) : Except Fault (Catalog × Session) :=
  match Assoc.get? locale s.loaded with
  | some c => .ok (c, s)
  | none => do
    let c ← s.translator.catalog s.files (.text locale)
    return (c, { s with loaded := s.loaded ++ [(locale, c)] })

/-- The text of a key for a locale, and the session afterwards. -/
def translate (s : Session) (key : String) (params : List (Value × Value)) (locale : String) :
    Except Fault String × Session :=
  match s.catalog locale with
  | .error e => (.error e, s)
  | .ok (c, s) =>
    match c.translate key params with
    | .ok line => (.ok line, s)
    | .error e => (.error (.key e), s)

end Session

end EnumExport.Wording
