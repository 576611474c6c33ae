import EnumExport.Console.Lines

/-!
# Tables

A table with a row of heads in heavy lines and its rows below in light ones. Each column is as wide
as its widest line, with a space on either side. Where that is too wide for the console, the wider
columns give way first.
-/

namespace EnumExport.Console

/-- A cell: a text without tags. -/
abbrev Cell := List Char

/-- Whether a character ends a line when a cell is measured. -/
def endsLine (c : Char) : Bool :=
  c == '\n' || c == '\x1c' || c == '\x1d' || c == '\x1e' || c == '\x85' || c == '\u2028' ||
    c == '\u2029'

/-- The width of the widest line of characters; `column` is how far the first of them has come. -/
def widestLine (column : Nat) : List Char → Nat
  | [] => column
  | c :: rest =>
    if endsLine c then max column (widestLine 0 rest) else widestLine (column + charWidth c) rest

/-- The width that a cell asks for, with the spaces around it. -/
def cellWidth (cell : Cell) : Nat := widestLine 0 (cell.filter fun c => !isControl c) + 2

/-- The width that a column asks for. -/
def columnWidth (cells : List Cell) : Nat := (cells.map cellWidth).foldl max 0

/-- A quotient rounded to the nearest number, a half to the even one. -/
def roundQuotient (n d : Nat) : Nat :=
  let q := n / d
  let r := n % d
  if 2 * r < d || (2 * r = d && q % 2 = 0) then q else q + 1

/-- Takes some columns away from the widths that are marked, by the same amount and by no more than
a limit each. -/
def takeAway (excess shares limit : Nat) : List (Nat × Bool) → List Nat
  | [] => []
  | (w, false) :: ws => w :: takeAway excess shares limit ws
  | (w, true) :: ws =>
    let n := min limit (roundQuotient excess shares)
    (w - n) :: takeAway (excess - n) (shares - 1) limit ws

/-- Widths reduced to a limit, the largest first; in a number of steps at most. -/
def reduceWidths (limit : Nat) : Nat → List Nat → List Nat
  | 0, ws => ws
  | steps + 1, ws =>
    let excess := ws.foldl (· + ·) 0 - limit
    let largest := ws.foldl max 0
    let second := (ws.filter (· ≠ largest)).foldl max 0
    if excess = 0 || largest = second then ws
    else
      let marked := ws.map fun w => (w, w == largest)
      let shares := (marked.filter Prod.snd).length
      reduceWidths limit steps (takeAway excess shares (min excess (largest - second)) marked)

/-- The widths of the columns of a table. -/
def columnWidths (limit : Nat) (columns : List (List Cell)) : List Nat :=
  reduceWidths (limit - (columns.length + 1)) (2 * columns.length) (columns.map columnWidth)

/-- A line cut off to fit its column; a sign stands in for the rest. -/
def clipped (columns : Nat) (line : List Char) : List Char :=
  if width line ≤ columns then line else cut (columns - 1) line ++ ['…']

/-- The lines of a cell in a column, filled up to the column's width. -/
def cellLines (columns : Nat) (cell : Cell) : List (List Char) :=
  (layOut (columns - 2) false cell).map fun line =>
    ' ' :: fill (columns - 2) (clipped (columns - 2) line) ++ [' ']

/-- A line of a table from the pieces of its columns. -/
def tableLine (left between right : Char) (pieces : List (List Char)) : List Char :=
  left :: [between].intercalate pieces ++ [right]

/-- A line that separates rows. -/
def ruler (left line between right : Char) (widths : List Nat) : List Char :=
  tableLine left between right (widths.map fun w => List.replicate w line)

/-- The lines of a row of cells. -/
def rowLines (bar : Char) (widths : List Nat) (cells : List Cell) : List (List Char) :=
  let columns := (widths.zip cells).map fun (w, cell) => (w, cellLines w cell)
  let height := (columns.map fun c => c.2.length).foldl max 0
  (List.range height).map fun n =>
    tableLine bar bar bar (columns.map fun (w, lines) => lines.getD n (List.replicate w ' '))

/-- The lines of a table. -/
def tableLines (limit : Nat) (heads : List Cell) (rows : List (List Cell)) : List (List Char) :=
  let columns := (List.range heads.length).map fun n =>
    (heads :: rows).map fun row => row.getD n []
  let widths := columnWidths limit columns
  [ruler '┏' '━' '┳' '┓' widths] ++ rowLines '┃' widths heads ++
    [ruler '┡' '━' '╇' '┩' widths] ++ rows.flatMap (rowLines '│' widths) ++
    [ruler '└' '─' '┴' '┘' widths]

end EnumExport.Console
