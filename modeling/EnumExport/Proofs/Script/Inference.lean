import EnumExport.Proofs.Notation.Json
import EnumExport.Script.TypeExpr

/-!
# Types that values are given

A value is given a type from a sample of it: of a list only the first item is looked at, and of that,
where it is a list again, only its first item. This is about which values are of the type that is
found in that way.

* `TypeExpr.Admits` says which values are of a type.
* `Json.IsLike` says which values look the same as a sample, as far as samples are looked at. The
  type of a sample admits just these: `admits_infer`.
* So every value is of its own type that is no list, or a list all of whose items look the same as
  the first one: `admits_infer_iff`. A list of mixed items is not: `mixed_list_not_admitted`.
-/

namespace EnumExport

namespace Script.TypeExpr

/-- Whether a type admits a value. -/
inductive Admits : TypeExpr → Json → Prop
  /-- the type of null -/
  | null : Admits .null .null
  /-- truth values -/
  | boolean (b : Bool) : Admits .boolean (.bool b)
  /-- whole numbers are numbers -/
  | whole (i : Int) : Admits .number (.int i)
  /-- doubles are numbers -/
  | double (x : Binary64) : Admits .number (.float x)
  /-- texts -/
  | string (s : String) : Admits .string (.text s)
  /-- anything -/
  | unknown (v : Json) : Admits .unknown v
  /-- every map is a record with any contents -/
  | anyRecord (fields : List (String × Json)) : Admits .anyRecord (.object fields)
  /-- every map is a record with unknown contents -/
  | unknownRecord (fields : List (String × Json)) : Admits .unknownRecord (.object fields)
  /-- a list without items is one, too -/
  | noItems : Admits .unknownRecord (.array [])
  /-- lists of items of one type -/
  | array {t : TypeExpr} {xs : List Json} (h : ∀ x ∈ xs, Admits t x) : Admits (.array t) (.array xs)

end Script.TypeExpr

namespace Json

/-- Whether a value looks the same as a sample. Of a list that is the sample, only the first item is
looked at. -/
inductive IsLike : Json → Json → Prop
  /-- null -/
  | null : IsLike .null .null
  /-- truth values, whichever -/
  | bool (a b : Bool) : IsLike (.bool a) (.bool b)
  /-- whole numbers, whichever -/
  | whole (i j : Int) : IsLike (.int i) (.int j)
  /-- a double among whole numbers -/
  | wholeDouble (i : Int) (x : Binary64) : IsLike (.int i) (.float x)
  /-- a whole number among doubles -/
  | doubleWhole (x : Binary64) (i : Int) : IsLike (.float x) (.int i)
  /-- doubles, whichever -/
  | double (x y : Binary64) : IsLike (.float x) (.float y)
  /-- texts, whichever -/
  | text (s t : String) : IsLike (.text s) (.text t)
  /-- maps, whatever is in them -/
  | object (fields others : List (String × Json)) : IsLike (.object fields) (.object others)
  /-- an empty list among maps, where the sample is empty -/
  | objectEmpty : IsLike (.object []) (.array [])
  /-- a map among empty lists -/
  | emptyObject (fields : List (String × Json)) : IsLike (.array []) (.object fields)
  /-- empty lists -/
  | empty : IsLike (.array []) (.array [])
  /-- lists whose items look the same as the first of the sample -/
  | array {x : Json} {xs ys : List Json} (h : ∀ y ∈ ys, IsLike x y) :
    IsLike (.array (x :: xs)) (.array ys)

/-- Whether all items of a list look the same as the first one. What is no list has no items. -/
def IsUniform : Json → Prop
  | .array (x :: xs) => ∀ y ∈ x :: xs, IsLike x y
  | _ => True

end Json

namespace Script

open Json

/-! ## The type of a sample -/

/-- The type of a sample admits what looks the same. -/
theorem admits_of_isLike {x y : Json} (h : x.IsLike y) : (infer x.toValue).Admits y := by
  induction h with
  | null => exact .null
  | bool a b => exact .boolean b
  | whole i j => exact .whole j
  | wholeDouble i x => exact .double x
  | doubleWhole x i => exact .whole i
  | double x y => exact .double y
  | text s t => exact .string t
  | object fields others =>
    cases fields with
    | nil => exact .unknownRecord others
    | cons p fields => exact .anyRecord others
  | objectEmpty => exact .noItems
  | emptyObject fields => exact .unknownRecord fields
  | empty => exact .noItems
  | array h ih => exact .array ih

/-- What the type of a sample admits looks the same. The recursion goes from a list to its first item,
as the type does. -/
theorem isLike_of_admits : ∀ {x y : Json}, (infer x.toValue).Admits y → x.IsLike y
  | .null, _, .null => .null
  | .bool a, _, .boolean b => .bool a b
  | .int i, _, .whole j => .whole i j
  | .int i, _, .double x => .wholeDouble i x
  | .float x, _, .whole i => .doubleWhole x i
  | .float x, _, .double y => .double x y
  | .text s, _, .string t => .text s t
  | .object [], _, .unknownRecord others => .object [] others
  | .object [], _, .noItems => .objectEmpty
  | .object (p :: fields), _, .anyRecord others => .object (p :: fields) others
  | .array [], _, .unknownRecord fields => .emptyObject fields
  | .array [], _, .noItems => .empty
  | .array (_ :: _), _, .array h => .array fun y hy => isLike_of_admits (h y hy)

theorem admits_infer (x y : Json) : (infer x.toValue).Admits y ↔ x.IsLike y :=
  ⟨isLike_of_admits, admits_of_isLike⟩

/-! ## The type of a value itself -/

/-- A value looks the same as itself unless it is a list of mixed items. -/
theorem isLike_self_iff (v : Json) : v.IsLike v ↔ v.IsUniform := by
  cases v with
  | null => exact iff_of_true .null trivial
  | bool b => exact iff_of_true (.bool b b) trivial
  | int i => exact iff_of_true (.whole i i) trivial
  | float x => exact iff_of_true (.double x x) trivial
  | text s => exact iff_of_true (.text s s) trivial
  | object fields => exact iff_of_true (.object fields fields) trivial
  | array xs =>
    cases xs with
    | nil => exact iff_of_true .empty trivial
    | cons x xs =>
      constructor
      · intro h
        cases h with
        | array h => exact h
      · intro h
        exact .array h

/-- **Types and their values.** A value is of the type that it is given, unless it is a list with an
item that does not look the same as the first one: null, truth values, numbers, texts, maps and empty
lists always are, and a list is just when its items all look like the first. -/
theorem admits_infer_iff (v : Json) : (infer v.toValue).Admits v ↔ v.IsUniform :=
  (admits_infer v v).trans (isLike_self_iff v)

/-- A list of a number, null and a truth value is given the type of lists of numbers, and is not of
it. -/
theorem mixed_list_not_admitted :
    ¬ (infer (Json.array [.int 60, .null, .bool true]).toValue).Admits
      (.array [.int 60, .null, .bool true]) := by
  intro h
  cases isLike_of_admits h with
  | array h => cases h .null (by simp)

end Script

end EnumExport
