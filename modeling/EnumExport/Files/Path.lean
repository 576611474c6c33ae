import EnumExport.Text.Split

/-!
# Paths

A path is the row of names that lead from the root, or from wherever one stands, to a file or
folder. The name `..` leads back to the folder above; it is kept as it is, since where it leads
depends on the folders before it.
-/

namespace EnumExport

/-- A path. -/
structure Path where
  /-- the names along the way -/
  parts : List String
  /-- whether the way begins at the root -/
  rooted : Bool := true
  deriving DecidableEq, Repr, Inhabited

namespace Path

/-- The names in a text: single dots and empty names do not count. -/
def names (s : String) : List String :=
  (Text.split '/' s).filter fun p => p ≠ "" && p ≠ "."

/-- Whether a text spells a path from the root. -/
def isRooted (s : String) : Bool := s.toList.head? == some '/'

/-- The path that a text spells as seen from a folder. -/
def join (base : Path) (s : String) : Path :=
  if isRooted s then { parts := names s } else { base with parts := base.parts ++ names s }

/-- The path that a text spells. -/
def ofText (s : String) : Path := { parts := names s, rooted := isRooted s }

/-- The path of an item in a folder. -/
def child (base : Path) (name : String) : Path :=
  { base with parts := base.parts ++ [name] }

/-- The path of the folder around; the root stays. -/
def parent (p : Path) : Path := { p with parts := p.parts.dropLast }

/-- The last name; the root has none. -/
def name (p : Path) : String := p.parts.getLast?.getD ""

/-- The text of a row of names. -/
def partsText (parts : List String) : String :=
  if parts.isEmpty then "." else "/".intercalate parts

/-- The text of the path. -/
def text (p : Path) : String :=
  if p.rooted then "/" ++ "/".intercalate p.parts else partsText p.parts

/-- The names behind a front. -/
def dropFront? : List String → List String → Option (List String)
  | [], ps => some ps
  | _ :: _, [] => none
  | b :: bs, p :: ps => if b = p then dropFront? bs ps else none

/-- The names that lead from a folder to the path, when it goes through the folder. -/
def under? (base p : Path) : Option (List String) :=
  if base.rooted = p.rooted then dropFront? base.parts p.parts else none

/-- The text of the path as seen from a folder, when it goes through the folder. -/
def textUnder (base p : Path) : String :=
  match under? base p with
  | some parts => partsText parts
  | none => p.text

/-- The names that lead from a folder to another path, when one goes back to where both part. -/
def namesBetween : List String → List String → List String
  | b :: bs, p :: ps =>
    if b = p then namesBetween bs ps else List.replicate (bs.length + 1) ".." ++ p :: ps
  | bs, ps => List.replicate bs.length ".." ++ ps

/-- The text of the path as seen from a folder anywhere. -/
def textFrom (base p : Path) : String := partsText (namesBetween base.parts p.parts)

/-- A name without the part behind its last point, and that part with the point. A point at either
end does not count. -/
def splitName (name : String) : String × String :=
  let back := name.toList.reverse
  let ending := back.takeWhile (· ≠ '.')
  let front := (back.drop (ending.length + 1)).reverse
  if ending.isEmpty || front.isEmpty then (name, "")
  else (String.ofList front, String.ofList ('.' :: ending.reverse))

/-- The last name without its ending. -/
def stem (p : Path) : String := (splitName p.name).1

/-- The ending of the last name. -/
def ending (p : Path) : String := (splitName p.name).2

/-- The names with each `..` taking back the name before it. -/
def normalNames : List String → List String → List String
  | seen, [] => seen
  | seen, p :: ps => normalNames (if p = ".." then seen.dropLast else seen ++ [p]) ps

/-- The path without `..`. -/
def normal (p : Path) : Path := { p with parts := normalNames [] p.parts }

/-- Whether the names come in order: name by name, a shorter path before a longer one. -/
def namesLe : List String → List String → Bool
  | [], _ => true
  | _ :: _, [] => false
  | a :: as, b :: bs => if a < b then true else if a = b then namesLe as bs else false

/-- Whether one path comes before another. -/
def le (p q : Path) : Bool := namesLe p.parts q.parts

theorem dropFront?_append (base rest : List String) :
    dropFront? base (base ++ rest) = some rest := by
  induction base with
  | nil => rfl
  | cons b bs ih => simp [dropFront?, ih]

/-- An item of a folder is seen from the folder by its name. -/
theorem under?_child (base : Path) (name : String) : under? base (base.child name) = some [name] :=
  (if_pos rfl).trans (dropFront?_append base.parts [name])

end Path

end EnumExport
