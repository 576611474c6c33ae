import EnumExport.Label.Annotation
import EnumExport.Manifest.Basic
import EnumExport.Wording.Translator

/-!
# Resolving labels

From what a case declares to the label that is exported. A fixed label stands as it is. A translated
one is looked up for each locale that is to be exported, or for the one that is asked for when
there are none. A case without a label is looked up under its enumeration's name, and else shown by
its key.
-/

namespace EnumExport

open Wording

/-- How labels are resolved. -/
structure LabelResolver where
  /-- where localized texts come from -/
  translator : Translator := {}
  /-- the part of a key before the enumeration's name -/
  namespaceKey : String := "enums"
  /-- the locales to export -/
  locales : List String := []
  deriving Repr

namespace LabelResolver

/-- The locale that is asked for, or the one the translator stands on where none is. What counts as
false does not ask for any. -/
def localeOr (r : LabelResolver) (requested : Value) : Value :=
  if requested.truthy then requested else .text r.translator.locale

/-- The key under which a case without a label is looked up. -/
def caseKey (r : LabelResolver) (owner case : String) : String :=
  r.namespaceKey ++ "." ++ owner ++ "." ++ case

/-- The texts of a translated label for the locales to export. -/
def localizedTexts (r : LabelResolver) (files : FileTree) (key : String)
    (params : List (Value × Value)) : Except Fault (List (String × String)) :=
  r.locales.mapM fun l => do return (l, ← r.translator.translate files key params (.text l))

/-- The label of a case. -/
def resolve (r : LabelResolver) (files : FileTree) (case : String) (notes : CaseNotes)
    (owner : String) (requested : Value) : Except Fault Label :=
  match notes.label with
  | some (.translated key params) =>
    if r.locales.isEmpty then do
      return .text (← r.translator.translate files key params (r.localeOr requested))
    else do
      let texts ← r.localizedTexts files key params
      match (r.localeOr requested).unhashable? with
      | some kind => throw (.key (.changeableLocale kind))
      | none => return .localized (Assoc.ofList texts)
  | some (.fixed text) => .ok (.text text)
  | none => do
    let key := r.caseKey owner case
    let line ← r.translator.translate files key [] (r.localeOr requested)
    return .text (if line = key then case else line)

/-- The one text of a label in a choice list. -/
def flatten (r : LabelResolver) (label : Label) (requested : Value) : String :=
  label.flatten (r.localeOr requested)

end LabelResolver

end EnumExport
