import EnumExport.Yaml.Cursor

/-!
# Texts of scalars

How the text of a scalar is gathered from the page: plain over several lines, between single or
double quotes, and as a block whose lines are kept or folded. Every function answers the text and
the position behind it, or nothing where the text is malformed.
-/

namespace EnumExport.Yaml

/-- How a scalar is written. -/
inductive ScalarStyle
  /-- without quotes -/
  | plain
  /-- between quotes or as a block -/
  | quoted
  deriving DecidableEq, Repr

/-! ## Folding -/

/-- The line breaks and spaces between two parts of a scalar. In a plain scalar tabs end them. -/
def scanBreaks (allowed : Char → Bool) : Nat → Cursor → Option (List Char × Cursor)
  | 0, c => some ([], c)
  | fuel + 1, c =>
    if c.isAnyMarker && c.column = 0 then none
    else match c.peek with
      | some x =>
        if isBreak x then do
          let (b, c) := c.lineBreak
          let (bs, c) ← scanBreaks allowed fuel c
          return (b ++ bs, c)
        else if allowed x then scanBreaks allowed fuel c.next
        else some ([], c)
      | none => some ([], c)

/-- What a break and the further breaks behind it become: a single line feed becomes a space, of
several the first is dropped. -/
def foldBreaks (first further : List Char) : List Char :=
  (if first ≠ ['\n'] then first else if further.isEmpty then [' '] else []) ++ further

/-! ## Plain scalars -/

/-- Whether a plain scalar's word ends before this character, given the one behind it. -/
def endsWord (inFlow : Bool) (x : Char) (behind : Option Char) : Bool :=
  isBlankOrEnd (some x) ||
  (x == ':' && (isBlankOrEnd behind ||
    (inFlow && behind.any fun y => ",[]\x7b\x7d".toList.contains y))) ||
  (inFlow && ",?[]\x7b\x7d".toList.contains x)

/-- The length of the word at the front. -/
def wordLength (inFlow : Bool) : List Char → Nat
  | [] => 0
  | x :: rest => if endsWord inFlow x rest.head? then 0 else wordLength inFlow rest + 1

/-- What stands between two words of a plain scalar. -/
structure Gap where
  /-- what it becomes in the text -/
  text : List Char
  /-- whether there was a line break -/
  broken : Bool
  /-- the position behind -/
  after : Cursor

/-- The gap at a position: spaces within a line, or breaks with the indentation behind them. A
document marker leaves no text. -/
def scanGap (c : Cursor) : Gap :=
  let (spaces, c) := c.span (· == ' ')
  match c.peek with
  | some x =>
    if isBreak x then
      let (first, c) := c.lineBreak
      match scanBreaks (· == ' ') (c.rest.length + 1) c with
      | none => ⟨[], true, c⟩
      | some (further, after) => ⟨foldBreaks first further, true, after⟩
    else ⟨spaces, false, c⟩
  | none => ⟨spaces, false, c⟩

/-- The words of a plain scalar from a position on, `gap` being what stands before them. Answers the
text, whether the last gap held a line break, and the position behind. -/
def scanWords (inFlow : Bool) (indent : Int) (gap : List Char) (broken : Bool) :
    Nat → Cursor → List Char × Bool × Cursor
  | 0, c => ([], broken, c)
  | fuel + 1, c =>
    if c.peek == some '#' then ([], broken, c)
    else match wordLength inFlow c.rest with
      | 0 => ([], broken, c)
      | n + 1 =>
        let word := c.front (n + 1)
        let g := scanGap (c.skip (n + 1))
        if g.text.isEmpty || g.after.peek == some '#' ||
            (!inFlow && (g.after.column : Int) < indent) then
          (gap ++ word, g.broken, g.after)
        else
          let (more, b, after) := scanWords inFlow indent g.text g.broken fuel g.after
          (gap ++ word ++ more, b, after)

/-- Whether a plain scalar may begin here. -/
def beginsPlain (inFlow : Bool) (c : Cursor) : Bool :=
  match c.peek with
  | none => false
  | some x =>
    (!isBlankOrEnd (some x) && !"-?:,[]\x7b\x7d#&*!|>'\"%@\x60".toList.contains x) ||
    (!isBlankOrEnd (c.peekAt 1) && (x == '-' || (!inFlow && (x == '?' || x == ':'))))

/-! ## Quoted scalars -/

/-- The value of a row of hexadecimal digits. -/
def hexValue (cs : List Char) : Nat :=
  cs.foldl (fun n c =>
    16 * n + (if c.isDigit then c.toNat - 48 else c.toLower.toNat - 87)) 0

/-- Whether a character is a hexadecimal digit. -/
def isHex (c : Char) : Bool :=
  c.isDigit || ('a'.toNat ≤ c.toLower.toNat && c.toLower.toNat ≤ 'f'.toNat)

/-- What the simple escapes of a double-quoted scalar stand for. -/
def simpleEscape? : Char → Option Char
  | '0' => some '\x00'
  | 'a' => some '\x07'
  | 'b' => some '\x08'
  | 't' => some '\t'
  | '\t' => some '\t'
  | 'n' => some '\n'
  | 'v' => some '\x0b'
  | 'f' => some '\x0c'
  | 'r' => some '\r'
  | 'e' => some '\x1b'
  | ' ' => some ' '
  | '"' => some '"'
  | '\\' => some '\\'
  | '/' => some '/'
  | 'N' => some '\x85'
  | '_' => some '\xa0'
  | 'L' => some '\u2028'
  | 'P' => some '\u2029'
  | _ => none

/-- The number of digits of an escape by code. -/
def codeLength? : Char → Option Nat
  | 'x' => some 2
  | 'u' => some 4
  | 'U' => some 8
  | _ => none

/-- An escape of a double-quoted scalar, read behind its backslash. -/
def scanEscape (c : Cursor) : Option (List Char × Cursor) :=
  match c.peek with
  | none => none
  | some x =>
    match simpleEscape? x, codeLength? x with
    | some y, _ => some ([y], c.next)
    | none, some n =>
      let digits := c.next.front n
      if digits.length = n ∧ digits.all isHex ∧ (hexValue digits).isValidChar then
        some ([Char.ofNat (hexValue digits)], c.next.skip n)
      else none
    | none, none =>
      if isBreak x then
        let (_, c) := c.lineBreak
        scanBreaks (fun y => y == ' ' || y == '\t') (c.rest.length + 1) c
      else none

/-- The inside of a quoted scalar up to its closing quote. -/
def scanQuotedRest (double : Bool) : Nat → Cursor → Option (List Char × Cursor)
  | 0, _ => none
  | fuel + 1, c =>
    match c.peek with
    | none => none
    | some x =>
      let continueWith (cs : List Char) (c : Cursor) : Option (List Char × Cursor) := do
        let (more, after) ← scanQuotedRest double fuel c
        return (cs ++ more, after)
      if x == '\'' && !double then
        if c.peekAt 1 == some '\'' then continueWith ['\''] (c.skip 2)
        else some ([], c.next)
      else if x == '"' && double then some ([], c.next)
      else if x == '\\' && double then do
        let (cs, c) ← scanEscape c.next
        continueWith cs c
      else if x == ' ' || x == '\t' || isBreak x then
        let (blanks, c) := c.span fun y => y == ' ' || y == '\t'
        match c.peek with
        | none => none
        | some y =>
          if isBreak y then do
            let (first, c) := c.lineBreak
            let (further, c) ←
              scanBreaks (fun y => y == ' ' || y == '\t') (c.rest.length + 1) c
            continueWith (foldBreaks first further) c
          else continueWith blanks c
      else continueWith [x] c.next

/-- A quoted scalar, read from its opening quote. -/
def scanQuoted (double : Bool) (c : Cursor) : Option (List Char × Cursor) :=
  scanQuotedRest double (c.rest.length + 1) c.next

/-! ## Block scalars -/

/-- What becomes of the line breaks at the end of a block. -/
inductive Chomping
  /-- one is kept -/
  | clip
  /-- all are kept -/
  | keep
  /-- none is kept -/
  | strip
  deriving DecidableEq, Repr

/-- The indicators at the head of a block: what becomes of its last breaks, and by how much it is
indented. -/
def scanIndicators (c : Cursor) : Option (Chomping × Option Nat × Cursor) :=
  let chomp? : Option Char → Option Chomping
    | some '+' => some .keep
    | some '-' => some .strip
    | _ => none
  let digit? : Option Char → Option Nat
    | some x => if x.isDigit then some (x.toNat - 48) else none
    | none => none
  let finish (ch : Chomping) (n : Option Nat) (c : Cursor) :
      Option (Chomping × Option Nat × Cursor) :=
    if isSpaceOrEnd c.peek then some (ch, n, c) else none
  match chomp? c.peek, digit? c.peek with
  | some ch, _ =>
    match digit? c.next.peek with
    | some 0 => none
    | some n => finish ch (some n) (c.skip 2)
    | none => finish ch none c.next
  | none, some 0 => none
  | none, some n =>
    match chomp? c.next.peek with
    | some ch => finish ch (some n) (c.skip 2)
    | none => finish .clip (some n) c.next
  | none, none => finish .clip none c

/-- The rest of a line that may hold nothing but spaces and a comment, with its break. -/
def scanIgnoredLine (c : Cursor) : Option Cursor :=
  let c := c.skipWhile (· == ' ')
  let c := if c.peek == some '#' then c.skipWhile (fun x => !isBreak x) else c
  if isBreakOrEnd c.peek then some c.lineBreak.2 else none

/-- The breaks before the first line of a block whose indentation is not given, and the largest
indentation among them. -/
def scanLeadingBreaks (most : Nat) : Nat → Cursor → List Char × Nat × Cursor
  | 0, c => ([], most, c)
  | fuel + 1, c =>
    match c.peek with
    | some x =>
      if isBreak x then
        let (b, c) := c.lineBreak
        let (bs, most, c) := scanLeadingBreaks most fuel c
        (b ++ bs, most, c)
      else if x == ' ' then
        let c := c.next
        scanLeadingBreaks (max most c.column) fuel c
      else ([], most, c)
    | none => ([], most, c)

/-- The position behind the spaces of an indentation, and no further. -/
def skipIndent (indent : Nat) : Nat → Cursor → Cursor
  | 0, c => c
  | fuel + 1, c =>
    if c.column < indent ∧ c.peek = some ' ' then skipIndent indent fuel c.next else c

/-- The breaks of empty lines in a block of a known indentation. -/
def scanBlockBreaks (indent : Nat) : Nat → Cursor → List Char × Cursor
  | 0, c => ([], c)
  | fuel + 1, c =>
    let c := skipIndent indent c.rest.length c
    match c.peek with
    | some x =>
      if isBreak x then
        let (b, c) := c.lineBreak
        let (bs, c) := scanBlockBreaks indent fuel c
        (b ++ bs, c)
      else ([], c)
    | none => ([], c)

/-- The lines of a block. `pending` are the breaks before the next line. Answers the text, the
breaks behind it and the position behind them. -/
def scanBlockLines (folded : Bool) (indent : Nat) (pending : List Char) :
    Nat → Cursor → List Char × List Char × List Char × Cursor
  | 0, c => ([], [], pending, c)
  | fuel + 1, c =>
    if c.column = indent ∧ c.peek.isSome then
      let startsText := !(c.peek == some ' ' || c.peek == some '\t')
      let (line, c) := c.span fun x => !isBreak x
      let (brk, c) := c.lineBreak
      let (further, c) := scanBlockBreaks indent (c.rest.length + 1) c
      if c.column = indent ∧ c.peek.isSome then
        let nextText := !(c.peek == some ' ' || c.peek == some '\t')
        let joint :=
          if folded && brk == ['\n'] && startsText && nextText then
            if further.isEmpty then [' '] else []
          else brk
        let (more, last, tail, c) := scanBlockLines folded indent further fuel c
        (pending ++ line ++ joint ++ more, last, tail, c)
      else (pending ++ line, brk, further, c)
    else ([], [], pending, c)

/-- A block scalar, read from its indicator; `indent` is that of the block it stands in. -/
def scanBlock (folded : Bool) (indent : Int) (c : Cursor) : Option (List Char × Cursor) := do
  let (chomping, increment, c) ← scanIndicators c.next
  let c ← scanIgnoredLine c
  let least : Nat := if indent + 1 < 1 then 1 else (indent + 1).toNat
  let (leading, depth, c) := match increment with
    | none =>
      let (bs, most, c) := scanLeadingBreaks 0 (c.rest.length + 1) c
      (bs, max least most, c)
    | some n =>
      let depth := least + n - 1
      let (bs, c) := scanBlockBreaks depth (c.rest.length + 1) c
      (bs, depth, c)
  let (text, last, tail, c) := scanBlockLines folded depth leading (c.rest.length + 1) c
  let ending := match chomping with
    | .strip => []
    | .clip => last
    | .keep => last ++ tail
  return (text ++ ending, c)

end EnumExport.Yaml
