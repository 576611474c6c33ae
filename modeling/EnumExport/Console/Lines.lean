import EnumExport.Console.Width
import EnumExport.Text.Split
import EnumExport.Text.Blank

/-!
# Lines

How a text is laid out in lines of a limited width. Lines break before words; a word that is too
long for any line is folded, or left to be cut off.
-/

namespace EnumExport.Console

/-- Whether a character only moves the cursor or rings; it is not shown. -/
def isControl (c : Char) : Bool :=
  c == '\x07' || c == '\x08' || c == '\x0b' || c == '\x0c' || c == '\r'

/-- A line with its tabs replaced by spaces, up to the next multiple of eight columns. -/
def spreadTabs (column : Nat) : List Char → List Char
  | [] => []
  | '\t' :: rest =>
    let n := 8 - column % 8
    List.replicate n ' ' ++ spreadTabs (column + n) rest
  | c :: rest => c :: spreadTabs (column + charWidth c) rest

/-- What follows a word: the blanks behind it and the characters left. -/
def wordEnd (cs : List Char) : List Char × List Char :=
  let word := cs.takeWhile fun c => !Text.isBlank c
  let rest := cs.drop word.length
  let blanks := rest.takeWhile Text.isBlank
  (word ++ blanks, rest.drop blanks.length)

theorem wordEnd_length (c : Char) (rest : List Char) :
    (wordEnd (c :: rest)).2.length < (c :: rest).length := by
  cases h : Text.isBlank c
  · simp only [wordEnd, h, List.takeWhile_cons, Bool.not_false, if_true, List.length_drop,
      List.length_cons]
    omega
  · simp only [wordEnd, h, List.takeWhile_cons, Bool.not_true, Bool.false_eq_true, if_false,
      if_true, List.length_nil, List.drop_zero, List.length_drop, List.length_cons]
    omega

/-- The words from here on, each with the blanks behind it. -/
def wordsFrom : List Char → List (List Char)
  | [] => []
  | c :: rest => (wordEnd (c :: rest)).1 :: wordsFrom (wordEnd (c :: rest)).2
  termination_by cs => cs.length
  decreasing_by exact wordEnd_length c rest

/-- The words of a line, each with the blanks behind it, and the first also with those before it.
Blanks alone are no word. -/
def words (cs : List Char) : List (List Char) :=
  let before := cs.takeWhile Text.isBlank
  match wordsFrom (cs.drop before.length) with
  | [] => []
  | w :: ws => (before ++ w) :: ws

/-- Characters without the blanks at their end. -/
def dropBlankEnd (cs : List Char) : List Char :=
  (cs.reverse.dropWhile Text.isBlank).reverse

/-- A word folded into pieces of a limited width; `piece` is the one begun, last character
first. -/
def fold (limit column : Nat) (piece : List Char) : List Char → List (List Char)
  | [] => [piece.reverse]
  | c :: rest =>
    if column + charWidth c > limit then piece.reverse :: fold limit (charWidth c) [c] rest
    else fold limit (column + charWidth c) (c :: piece) rest

/-- A line under construction: the lines before it, last first, its characters and its width. -/
structure LineBreaker where
  /-- the lines before, last first -/
  done : List (List Char) := []
  /-- the characters of the line -/
  line : List Char := []
  /-- the columns that it counts as having -/
  column : Nat := 0
  deriving Repr

namespace LineBreaker

/-- Ends the line, unless nothing stands before the break. -/
def breakLine (b : LineBreaker) : LineBreaker :=
  if b.done.isEmpty && b.line.isEmpty then b else { b with done := b.line :: b.done, line := [] }

/-- Adds the pieces of a folded word, each on a line of its own. -/
def addPieces (b : LineBreaker) : List (List Char) → LineBreaker
  | [] => b
  | piece :: rest =>
    let b := b.breakLine
    addPieces { b with line := piece, column := width piece } rest

/-- Adds a word. -/
def addWord (limit : Nat) (folds : Bool) (b : LineBreaker) (word : List Char) : LineBreaker :=
  let size := width (dropBlankEnd word)
  if size + b.column ≤ limit then { b with line := b.line ++ word, column := b.column + width word }
  else if size > limit then
    if folds then b.addPieces (fold limit 0 [] word)
    else
      let b := b.breakLine
      { b with line := word, column := width word }
  else if b.column > 0 then
    let b := b.breakLine
    { b with line := b.line ++ word, column := width word }
  else { b with line := b.line ++ word }

end LineBreaker

/-- A line broken into lines of a limited width. -/
def breakLines (limit : Nat) (folds : Bool) (cs : List Char) : List (List Char) :=
  match words cs with
  | [] => [cs]
  | ws =>
    let b := ws.foldl (LineBreaker.addWord limit folds) {}
    (b.line :: b.done).reverse

/-- Blanks at the end of a line that go beyond its width taken away. -/
def trimEnd (limit : Nat) (cs : List Char) : List Char :=
  let blanks := cs.length - (dropBlankEnd cs).length
  cs.take (cs.length - min blanks (cs.length - limit))

/-- The lines of a text without tags, in a limited width. -/
def layOut (limit : Nat) (folds : Bool) (cs : List Char) : List (List Char) :=
  (Text.splitChars '\n' (cs.filter fun c => !isControl c)).flatMap fun line =>
    (breakLines limit folds (spreadTabs 0 line)).map (trimEnd limit)

end EnumExport.Console
