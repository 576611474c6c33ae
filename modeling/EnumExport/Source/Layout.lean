import EnumExport.Source.Token

/-!
# Lines and blocks

A source text as a row of tokens, in which the ends of lines and the starts and ends of blocks are
tokens of their own. Blank lines and comments leave none. Inside brackets the end of a line does
not count, nor does it behind a backslash. What lies open (brackets, and formatted texts with their
expressions) is kept on a stack, for what comes next is read as the innermost of it asks.
-/

namespace EnumExport.Source

/-- Something that lies open. -/
inductive Frame
  /-- a bracket, with the mark that closes it -/
  | bracket (closing : String)
  /-- a formatted text -/
  | text (q : Quoting)
  /-- an expression in a formatted text -/
  | field (q : Quoting)
  /-- the format of such an expression -/
  | format (q : Quoting)
  deriving DecidableEq, Repr

/-- How far a line is indented: counted with tabs that lead to the next multiple of eight, and with
every character counting one. Both counts must agree on which of two lines is the deeper one. -/
structure Indentation where
  /-- the count with wide tabs -/
  wide : Nat := 0
  /-- the count with narrow tabs -/
  narrow : Nat := 0
  deriving DecidableEq, Repr

/-- The state of reading a source text. -/
structure Lexer where
  /-- what is left -/
  rest : List Char
  /-- the line -/
  line : Nat := 1
  /-- what lies open, innermost first -/
  frames : List Frame := []
  /-- the indentations of the open blocks, innermost first -/
  blocks : List Indentation := []
  /-- whether a line begins here -/
  isLineStart : Bool := true
  /-- the tokens so far, last first -/
  tokens : List Token := []
  deriving Repr

namespace Lexer

/-- The deepest number of blocks in each other. -/
def maxBlocks : Nat := 100

/-- Adds a token. -/
def emit (l : Lexer) (x : Lexeme) : Lexer := { l with tokens := ⟨x, l.line⟩ :: l.tokens }

/-- Whether the line so far has tokens. -/
def isLineOpen (l : Lexer) : Bool :=
  match l.tokens with
  | [] => false
  | t :: _ => t.lexeme != .lineEnd

/-- Ends the line. -/
def endLine (l : Lexer) : Lexer := if l.isLineOpen then l.emit .lineEnd else l

/-- Measures how far a line is indented: the measure, the number of line ends passed, and what is
left. A form feed begins anew; behind a backslash the line goes on without changing the measure. -/
def measure (i : Indentation) (fixed : Bool) (n : Nat) : List Char → Indentation × Nat × List Char
  | ' ' :: rest =>
    measure (if fixed then i else ⟨i.wide + 1, i.narrow + 1⟩) fixed n rest
  | '\t' :: rest =>
    measure (if fixed then i else ⟨(i.wide / 8 + 1) * 8, i.narrow + 1⟩) fixed n rest
  | '\x0c' :: rest => measure (if fixed then i else {}) fixed n rest
  | '\\' :: '\n' :: rest => measure i true (n + 1) rest
  | rest => (i, n, rest)

/-- Closes the blocks that are indented deeper. -/
def closeBlocks (l : Lexer) (i : Indentation) : List Indentation → Lexer
  | [] => { l with blocks := [] }
  | b :: bs =>
    if i.wide < b.wide then (l.emit .dedent).closeBlocks i bs else { l with blocks := b :: bs }

/-- Opens or closes blocks as the indentation of a line asks; nothing where it fits no block. -/
def settle (l : Lexer) (i : Indentation) : Option Lexer :=
  let current := l.blocks.head?.getD {}
  if i.wide = current.wide then if i.narrow = current.narrow then some l else none
  else if current.wide < i.wide then
    if current.narrow < i.narrow && l.blocks.length < maxBlocks then
      some { l.emit .indent with blocks := i :: l.blocks }
    else none
  else
    let l := l.closeBlocks i l.blocks
    if l.blocks.head?.getD {} = i then some l else none

/-- Begins a line. -/
def startLine (l : Lexer) : Option Lexer :=
  let (i, n, rest) := measure {} false 0 l.rest
  let l := { l with rest, line := l.line + n, isLineStart := false }
  match rest with
  | [] | '\n' :: _ | '#' :: _ => some l
  | _ => l.settle i

/-- Ends the text. -/
def finish (l : Lexer) : Option (List Token) :=
  if l.frames.isEmpty then
    let l := l.endLine
    some ((List.replicate l.blocks.length (⟨.dedent, l.line⟩ : Token) ++ l.tokens).reverse)
  else none

/-- Reads a piece of a formatted text or of a format. -/
def nextPiece (l : Lexer) (q : Quoting) (isFormat : Bool) (outer : List Frame) : Option Lexer := do
  let (stop, lines, rest) ← skipPiece q isFormat .plain l.rest
  let l := { l with rest, line := l.line + lines }
  match stop with
  | .quote => if isFormat then none else return { l.emit .textEnd with frames := outer }
  | .opening => return { l.emit (.mark "\x7b") with frames := .field q :: l.frames }
  | .closing => return { l.emit (.mark "\x7d") with frames := outer }

/-- Reads a word, or the text that it begins. -/
def nextWord (l : Lexer) : Option Lexer :=
  let cs := l.rest.takeWhile isWordPart
  let rest := l.rest.dropWhile isWordPart
  let word := String.ofList cs
  let lower := word.toLower
  let raw := lower.toList.contains 'r'
  match opening? raw rest with
  | some (q, rest') =>
    if formattedPrefixes.contains lower then
      some { l.emit .textStart with rest := rest', frames := .text q :: l.frames }
    else if textPrefixes.contains lower then
      (skipQuoted q rest').map fun (n, left) =>
        { l.emit .quoted with rest := left, line := l.line + n }
    else if Text.isIdentifierChars cs then some { l.emit (.word word) with rest } else none
  | none => if Text.isIdentifierChars cs then some { l.emit (.word word) with rest } else none

/-- The frames once a mark is read; nothing for a bracket that does not close what lies open. -/
def framesAfter (mark : String) (frames : List Frame) : Option (List Frame) :=
  match mark, frames with
  | "(", fs => some (.bracket ")" :: fs)
  | "[", fs => some (.bracket "]" :: fs)
  | "\x7b", fs => some (.bracket "\x7d" :: fs)
  | "\x7d", .field _ :: fs => some fs
  | ":", .field q :: fs => some (.format q :: fs)
  | m, .bracket c :: fs =>
    if m = c then some fs
    else if m = ")" || m = "]" || m = "\x7d" then none else some (.bracket c :: fs)
  | m, fs => if m = ")" || m = "]" || m = "\x7d" then none else some fs

/-- The mark here, and what is left. In an expression of a formatted text a colon stands alone, and
an exclamation mark is a mark. -/
def markAt? (l : Lexer) : Option (String × List Char) :=
  match l.frames, l.rest with
  | .field _ :: _, ':' :: rest => some (":", rest)
  | .field _ :: _, '!' :: '=' :: rest => some ("!=", rest)
  | .field _ :: _, '!' :: rest => some ("!", rest)
  | _, cs => mark? cs

/-- Reads a mark. -/
def nextMark (l : Lexer) : Option Lexer := do
  let (m, rest) ← l.markAt?
  return { l.emit (.mark m) with rest, frames := ← framesAfter m l.frames }

/-- Reads a token that begins with a character. -/
def nextToken (l : Lexer) (c : Char) : Option Lexer :=
  let beginsNumber := c.isDigit || (c == '.' && (l.rest[1]?.map Char.isDigit).getD false)
  if isWordStart c then l.nextWord
  else if beginsNumber then
    (number? l.rest).map fun (imaginary, rest) => { l.emit (.number imaginary) with rest }
  else match opening? false l.rest with
  | some (q, rest) =>
    (skipQuoted q rest).map fun (n, left) =>
      { l.emit .quoted with rest := left, line := l.line + n }
  | none => l.nextMark

/-- Reads on to the end. -/
def run : Nat → Lexer → Option (List Token)
  | 0, _ => none
  | fuel + 1, l =>
    match l.frames with
    | .text q :: outer => (l.nextPiece q false outer).bind (run fuel)
    | .format q :: outer => (l.nextPiece q true outer).bind (run fuel)
    | _ =>
      if l.isLineStart then l.startLine.bind (run fuel)
      else match l.rest with
      | [] => l.finish
      | '\n' :: rest =>
        let l := { l with rest }
        if l.frames.isEmpty then
          let l := l.endLine
          run fuel { l with line := l.line + 1, isLineStart := true }
        else run fuel { l with line := l.line + 1 }
      | '\\' :: '\n' :: rest =>
        if rest.isEmpty then none else run fuel { l with rest, line := l.line + 1 }
      | '#' :: rest => run fuel { l with rest := rest.dropWhile (· ≠ '\n') }
      | c :: rest =>
        if c = ' ' || c = '\t' || c = '\x0c' then run fuel { l with rest }
        else (l.nextToken c).bind (run fuel)

end Lexer

/-- The tokens of a source text; nothing where it is malformed. A byte order mark at the start does
not count. -/
def tokens? (s : String) : Option (List Token) :=
  let cs := match s.toList with
    | '\ufeff' :: rest => rest
    | cs => cs
  Lexer.run (2 * cs.length + 2) { rest := cs }

end EnumExport.Source
