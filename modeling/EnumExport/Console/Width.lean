import EnumExport.Console.WidthTable
import EnumExport.Text.Ranges

/-!
# Widths

How many columns a text takes. Most characters take one, some two and some none.
-/

namespace EnumExport.Console

/-- The number of columns that a character takes. -/
def charWidth (c : Char) : Nat :=
  let n := c.toNat
  if 32 ≤ n && n < 127 then 1
  else if Text.inRanges noColumnRanges n then 0
  else if Text.inRanges twoColumnRanges n then 2
  else 1

/-- The number of columns that characters take. -/
def width (cs : List Char) : Nat := cs.foldr (fun c n => charWidth c + n) 0

/-- Characters cut off to fit some columns. Where half a character would be left, a space stands in
for it. -/
def cut (columns : Nat) : List Char → List Char
  | [] => []
  | c :: cs =>
    if charWidth c ≤ columns then c :: cut (columns - charWidth c) cs
    else List.replicate columns ' '

/-- Characters with spaces behind them to fill some columns. -/
def fill (columns : Nat) (cs : List Char) : List Char :=
  cs ++ List.replicate (columns - width cs) ' '

/-- What is cut off to fit does fit. -/
theorem width_cut (columns : Nat) (cs : List Char) : width (cut columns cs) ≤ columns := by
  have spaces (n : Nat) : width (List.replicate n ' ') = n := by
    induction n with
    | zero => rfl
    | succ n ih =>
      simp only [width, List.replicate_succ, List.foldr_cons] at ih ⊢
      rw [ih]
      have : charWidth ' ' = 1 := by decide
      omega
  induction cs generalizing columns with
  | nil => simp [cut, width]
  | cons c cs ih =>
    unfold cut
    split
    · rename_i h
      have := ih (columns - charWidth c)
      simp only [width, List.foldr_cons] at this ⊢
      omega
    · exact Nat.le_of_eq (spaces columns)

end EnumExport.Console
