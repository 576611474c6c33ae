import EnumExport.Project.Export
import EnumExport.Project.Check
import EnumExport.Proofs.Class.Imports
import EnumExport.Proofs.Registry.Build

/-!
# Projects of one class

A project with one module and one class, which is its only candidate. Its name leads to the class,
`resolve_single`, so the tests of the project are those of the class, `validate_single`, and where it
has an entry, that is all of the manifest, `build_single`.
-/

namespace EnumExport.Project

/-- The project of a class. -/
def single (c : ClassDef) : Project where
  dir := { parts := ["home"] }
  settings := { enums := ["app." ++ c.qualifiedName], discovery := { enabled := false } }
  modules := [{ name := "app", classes := [c] }]

variable {c : ClassDef} {t : FileTree}

theorem importFault?_single (c : ClassDef) : (single c).modules.importFault? "app" = none := by
  have hfronts : Modules.fronts (Text.split '.' "app") = ["app"] := by decide +kernel
  have hrelative : "app".startsWith "." = false := by decide +kernel
  simp [Modules.importFault?, hfronts, hrelative, Modules.ownFault?, Modules.has, single]

/-- The name of the candidate leads to the class. -/
theorem resolve_single (h : '.' ∉ c.qualifiedName.toList) :
    (single c).modules.resolve ("app." ++ c.qualifiedName) = .ok (some (.class c)) := by
  have hname : Modules.below "app" [c.qualifiedName] = "app." ++ c.qualifiedName := by
    rw [Modules.below, String.intercalate_cons_cons, String.intercalate_singleton]
    rfl
  have hreaches : Modules.Reaches (single c).modules "app" [c.qualifiedName] (.class c) :=
    .start h rfl (by simp [Modules.attribute?, Assoc.get?])
  rw [← hname]
  apply Modules.resolve_of_reaches (importFault?_single c) hreaches
  intro j hpos hj
  exact absurd hj (Nat.not_lt.mpr hpos)

/-- The tests of the candidate are those of the class. -/
theorem validate_single (h : '.' ∉ c.qualifiedName.toList) :
    (single c).modules.validate (.named ("app." ++ c.qualifiedName)) =
      Modules.checkClass ("app." ++ c.qualifiedName) c := by
  rw [Modules.validate, Modules.found, resolve_single h]
  rfl

theorem candidates_single (c : ClassDef) (t : FileTree) :
    ((single c).registry t).candidates = [.named ("app." ++ c.qualifiedName)] := by
  have hnone : ((single c).registry t).discoveredInOrder = [] := List.mergeSort_nil
  rw [Registry.candidates, hnone]
  rfl

section Checked

variable (h : '.' ∉ c.qualifiedName.toList)
  (hcheck : Modules.checkClass ("app." ++ c.qualifiedName) c = .ok c)
include h hcheck

/-- A class that passes the tests is what the report tells. -/
theorem report_single : ((single c).validate t).report =
    { valid := [("app." ++ c.qualifiedName, c)], errors := [] } :=
  Registry.validate_of_single (candidates_single c t) ((validate_single h).trans hcheck)

/-- A class that has an entry, too, is what the manifest holds. -/
theorem build_single {entry : Entry} {locale : Value}
    (hentry : (((single c).registry t).entryOf locale ("app." ++ c.qualifiedName) c).2 =
      .ok entry) :
    (((single c).registry t).build locale).manifest = [(c.name, entry)] ∧
      (((single c).registry t).build locale).errors = [] :=
  Registry.build_of_single (candidates_single c t) ((validate_single h).trans hcheck) hentry

end Checked

end EnumExport.Project
