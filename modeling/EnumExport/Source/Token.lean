import EnumExport.Text.Identifier

/-!
# Tokens of source text

The small parts of a Python module: words, numbers, quoted texts and marks. Each reader takes what
is left of the text and answers what is left behind the part that it read; nothing where the part
is malformed.

A formatted text is read in pieces, since it holds expressions between braces.
-/

namespace EnumExport.Source

/-- How a token reads. -/
inductive Lexeme
  /-- a name or a keyword -/
  | word (s : String)
  /-- a number, imaginary or real -/
  | number (imaginary : Bool)
  /-- a quoted text -/
  | quoted
  /-- an operator or a bracket -/
  | mark (s : String)
  /-- the start of a formatted text -/
  | textStart
  /-- its end -/
  | textEnd
  /-- the end of a line -/
  | lineEnd
  /-- the start of a block -/
  | indent
  /-- the end of a block -/
  | dedent
  deriving DecidableEq, Repr

/-- A token, with the line that it begins on. -/
structure Token where
  /-- how it reads -/
  lexeme : Lexeme
  /-- its line, from one on -/
  line : Nat
  deriving DecidableEq, Repr

/-! ## Words -/

/-- Whether a character may belong to a word; which others may follow is tested on the whole. -/
def isWordPart (c : Char) : Bool := c.isAlphanum || c == '_' || 128 ≤ c.toNat

/-- Whether a character may begin a word. -/
def isWordStart (c : Char) : Bool := isWordPart c && !c.isDigit

/-- The words that are no names. -/
def keywords : List String :=
  ["False", "None", "True", "and", "as", "assert", "async", "await", "break", "class", "continue",
    "def", "del", "elif", "else", "except", "finally", "for", "from", "global", "if", "import",
    "in", "is", "lambda", "nonlocal", "not", "or", "pass", "raise", "return", "try", "while",
    "with", "yield"]

/-- The words that a quoted text may begin with. -/
def textPrefixes : List String := ["r", "b", "u", "br", "rb"]

/-- The words that a formatted text begins with. -/
def formattedPrefixes : List String := ["f", "fr", "rf"]

/-! ## Numbers -/

/-- What is left behind digits; single underscores may stand between them. -/
def skipDigits (isDigit : Char → Bool) : List Char → Option (List Char)
  | [] => some []
  | '_' :: rest =>
    match rest with
    | c :: rest' => if isDigit c then skipDigits isDigit rest' else none
    | [] => none
  | c :: rest => if isDigit c then skipDigits isDigit rest else some (c :: rest)

/-- Whether a character is an octal digit. -/
def isOctal (c : Char) : Bool := '0' ≤ c && c ≤ '7'

/-- Whether a character is a binary digit. -/
def isBinary (c : Char) : Bool := c == '0' || c == '1'

/-- Whether a character is a hexadecimal digit. -/
def isHexadecimal (c : Char) : Bool :=
  c.isDigit || ('a' ≤ c && c ≤ 'f') || ('A' ≤ c && c ≤ 'F')

/-- What is left behind one digit and more of them. -/
def skipSomeDigits (isDigit : Char → Bool) (cs : List Char) : Option (List Char) :=
  match cs with
  | '_' :: _ => skipDigits isDigit cs
  | c :: _ => if isDigit c then skipDigits isDigit cs else none
  | [] => none

/-- What is left behind the part after a point. -/
def skipFraction (cs : List Char) : Option (List Char) :=
  match cs with
  | c :: _ => if c.isDigit then skipDigits Char.isDigit cs else some cs
  | [] => some []

/-- What is left behind an exponent, when there is one. -/
def skipExponent (cs : List Char) : Option (Option (List Char)) :=
  match cs with
  | e :: rest =>
    if e = 'e' || e = 'E' then
      let digits := match rest with
        | '+' :: r | '-' :: r => r
        | r => r
      match digits with
      | c :: _ => if c.isDigit then (skipDigits Char.isDigit digits).map some else some none
      | [] => some none
    else some none
  | [] => some none

/-- Reads a decimal number: whether it is imaginary, and what is left. A whole number other than
zero does not begin with zero. -/
def decimal? (cs : List Char) : Option (Bool × List Char) := do
  let whole ← match cs with
    | '.' :: _ => some cs
    | cs => skipDigits Char.isDigit cs
  let (hasPoint, rest) ← match whole with
    | '.' :: rest => (skipFraction rest).map fun r => (true, r)
    | rest => some (false, rest)
  let (hasExponent, rest) ← match ← skipExponent rest with
    | some r => some (true, r)
    | none => some (false, rest)
  let (imaginary, rest) := match rest with
    | 'j' :: r | 'J' :: r => (true, r)
    | r => (false, r)
  let digits := cs.take (cs.length - whole.length)
  if cs.head? = some '0' && digits.any (fun c => c != '0' && c != '_') &&
      !(hasPoint || hasExponent || imaginary) then none
  else return (imaginary, rest)

/-- Reads a number: whether it is imaginary, and what is left. -/
def number? (cs : List Char) : Option (Bool × List Char) :=
  let based (isDigit : Char → Bool) (rest : List Char) : Option (Bool × List Char) :=
    (skipSomeDigits isDigit rest).map fun r => (false, r)
  match cs with
  | '0' :: 'x' :: rest | '0' :: 'X' :: rest => based isHexadecimal rest
  | '0' :: 'o' :: rest | '0' :: 'O' :: rest => based isOctal rest
  | '0' :: 'b' :: rest | '0' :: 'B' :: rest => based isBinary rest
  | cs => decimal? cs

/-! ## Quoted texts -/

/-- How a text is quoted. -/
structure Quoting where
  /-- the quote -/
  mark : Char
  /-- whether it stands three times; the text may then have several lines -/
  triple : Bool
  /-- whether a backslash stands for itself -/
  raw : Bool
  deriving DecidableEq, Repr

/-- The quoting that begins here, and what is left. -/
def opening? (raw : Bool) : List Char → Option (Quoting × List Char)
  | c :: rest =>
    if c = '"' || c = '\'' then
      match rest with
      | a :: b :: rest' =>
        if a = c && b = c then some (⟨c, true, raw⟩, rest') else some (⟨c, false, raw⟩, rest)
      | _ => some (⟨c, false, raw⟩, rest)
    else none
  | [] => none

/-- What is left behind the closing quote, when it stands here. -/
def Quoting.closing? (q : Quoting) (cs : List Char) : Option (List Char) :=
  match cs with
  | a :: rest =>
    if a ≠ q.mark then none
    else if !q.triple then some rest
    else match rest with
      | b :: c :: rest' => if b = q.mark && c = q.mark then some rest' else none
      | _ => none
  | [] => none

/-- Reads on to the end of a quoted text: the number of lines passed, and what is left. What a
backslash stands before does not count. -/
def skipQuoted (q : Quoting) : List Char → Option (Nat × List Char)
  | [] => none
  | c :: rest =>
    match q.closing? (c :: rest) with
    | some left => some (0, left)
    | none =>
      if c = '\\' then
        match rest with
        | [] => none
        | d :: rest' =>
          (skipQuoted q rest').map fun (n, left) => (if d = '\n' then n + 1 else n, left)
      else if c = '\n' then
        if q.triple then (skipQuoted q rest).map fun (n, left) => (n + 1, left) else none
      else skipQuoted q rest

/-- What a piece of a formatted text ends at. -/
inductive PieceEnd
  /-- the closing quote -/
  | quote
  /-- the brace before an expression -/
  | opening
  /-- the brace behind an expression's format -/
  | closing
  deriving DecidableEq, Repr

/-- What the next character of a piece may be besides itself. -/
inductive PieceState
  /-- anything -/
  | plain
  /-- what stands behind a backslash -/
  | escaped
  /-- the brace that opens the name of a character -/
  | beforeName
  /-- a part of the name of a character -/
  | inName
  /-- the second of two braces that stand for one -/
  | doubled
  deriving DecidableEq, Repr

/-- Whether a character is a brace. -/
def isBrace (c : Char) : Bool := c == '\x7b' || c == '\x7d'

/-- Counts one more line. -/
def passLine {α : Type} : Option (α × Nat × List Char) → Option (α × Nat × List Char) :=
  Option.map fun (e, n, left) => (e, n + 1, left)

/-- Reads on to the end of a piece of a formatted text, or of an expression's format: what it ends
at, the number of lines passed, and what is left. In a text a brace that stands twice counts as
itself. -/
def skipPiece (q : Quoting) (isFormat : Bool) :
    PieceState → List Char → Option (PieceEnd × Nat × List Char)
  | _, [] => none
  | state, c :: rest =>
    if state = .doubled then skipPiece q isFormat .plain rest
    else if state = .escaped && !isBrace c then
      let r := skipPiece q isFormat (if c = 'N' && !q.raw then .beforeName else .plain) rest
      if c = '\n' then passLine r else r
    else match q.closing? (c :: rest) with
    | some left => some (.quote, 0, left)
    | none =>
      if c = '\n' then
        if q.triple then passLine (skipPiece q isFormat state rest) else none
      else if c = '\\' then skipPiece q isFormat .escaped rest
      else if c = '\x7b' then
        if state = .beforeName then skipPiece q isFormat .inName rest
        else if !isFormat && rest.head? = some '\x7b' then skipPiece q isFormat .doubled rest
        else some (.opening, 0, rest)
      else if c = '\x7d' then
        if state = .inName then skipPiece q isFormat .plain rest
        else if isFormat then some (.closing, 0, rest)
        else if rest.head? = some '\x7d' then skipPiece q isFormat .doubled rest
        else none
      else skipPiece q isFormat (if state = .inName then .inName else .plain) rest

/-! ## Marks -/

/-- The marks, the longer ones first. -/
def marks : List String :=
  ["**=", "//=", ">>=", "<<=", "...",
    "**", "//", ">>", "<<", "<=", ">=", "==", "!=", "->", "+=", "-=", "*=", "/=", "%=", "&=", "|=",
    "^=", "@=", ":=",
    "+", "-", "*", "/", "%", "@", "&", "|", "^", "~", "<", ">", "(", ")", "[", "]", "\x7b", "\x7d",
    ",", ":", ".", ";", "="]

/-- The longest mark here, and what is left. -/
def mark? (cs : List Char) : Option (String × List Char) :=
  (marks.find? fun m => m.toList.isPrefixOf cs).map fun m => (m, cs.drop m.length)

end EnumExport.Source
