/-!
# Reading positions

What is left of a text, and where in it one stands. A line ends at a line feed, a carriage return
(with the line feed that follows it), a next-line character or a Unicode line or paragraph
separator.
-/

namespace EnumExport.Yaml

/-- What is left to read, and the position. -/
structure Cursor where
  /-- the characters that are left -/
  rest : List Char
  /-- the number of characters before -/
  index : Nat := 0
  /-- the number of lines before -/
  line : Nat := 0
  /-- the number of characters before on this line -/
  column : Nat := 0
  deriving Repr

/-- Whether a character ends a line. -/
def isBreak (c : Char) : Bool :=
  c == '\n' || c == '\r' || c == '\x85' || c == '\u2028' || c == '\u2029'

/-- Whether there is no character, or one that ends a line. -/
def isBreakOrEnd : Option Char → Bool
  | none => true
  | some c => isBreak c

/-- Whether there is no character, or a space or one that ends a line. -/
def isSpaceOrEnd : Option Char → Bool
  | none => true
  | some c => isBreak c || c == ' '

/-- Whether there is no character, or a blank or one that ends a line. -/
def isBlankOrEnd : Option Char → Bool
  | none => true
  | some c => isBreak c || c == ' ' || c == '\t'

namespace Cursor

/-- The next character. -/
def peek (c : Cursor) : Option Char := c.rest.head?

/-- The character `n` places further on. -/
def peekAt (c : Cursor) (n : Nat) : Option Char := c.rest[n]?

/-- The next `n` characters, as far as there are any. -/
def front (c : Cursor) (n : Nat) : List Char := c.rest.take n

/-- The position behind the next character. -/
def next (c : Cursor) : Cursor :=
  match c.rest with
  | [] => c
  | x :: rest =>
    let ends := isBreak x && !(x == '\r' && rest.head? == some '\n')
    if ends then { rest, index := c.index + 1, line := c.line + 1, column := 0 }
    else { rest, index := c.index + 1, line := c.line
           column := if x == '\ufeff' then c.column else c.column + 1 }

/-- The position `n` characters further on. -/
def skip (c : Cursor) : Nat → Cursor
  | 0 => c
  | n + 1 => c.next.skip n

/-- The characters for which a test holds up to the first for which it does not, and the position
behind them. -/
def span (p : Char → Bool) (c : Cursor) : List Char × Cursor :=
  let cs := c.rest.takeWhile p
  (cs, c.skip cs.length)

/-- The position behind the characters for which a test holds. -/
def skipWhile (p : Char → Bool) (c : Cursor) : Cursor := (c.span p).2

/-- A line break as it counts in a scalar: every plain one is a line feed. Nothing where there is
none. -/
def lineBreak (c : Cursor) : List Char × Cursor :=
  match c.rest with
  | '\r' :: '\n' :: _ => (['\n'], c.skip 2)
  | x :: _ =>
    if x == '\r' || x == '\n' || x == '\x85' then (['\n'], c.next)
    else if x == '\u2028' || x == '\u2029' then ([x], c.next)
    else ([], c)
  | [] => ([], c)

/-- Whether a document marker of three such characters stands here. -/
def isMarker (c : Cursor) (x : Char) : Bool :=
  c.front 3 == [x, x, x] && isBlankOrEnd (c.peekAt 3)

/-- Whether a document marker of either kind stands here. -/
def isAnyMarker (c : Cursor) : Bool := c.isMarker '-' || c.isMarker '.'

end Cursor

end EnumExport.Yaml
