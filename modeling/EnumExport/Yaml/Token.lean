import EnumExport.Yaml.Text

/-!
# Tokens

A text is cut into tokens; the structure that indentation gives is made explicit by opening and
closing tokens. A colon turns what stands before it on the same line into a key, so the places
where such a key might begin are remembered until the line is over.
-/

namespace EnumExport.Yaml

/-- A token. -/
inductive Token
  /-- a version directive, with the major and minor number -/
  | version (major minor : Nat)
  /-- a tag directive: a handle and what it stands for -/
  | tagHandle (handle expansion : String)
  /-- another directive -/
  | directive
  /-- the marker at the start of a document -/
  | documentStart
  /-- the marker at the end of a document -/
  | documentEnd
  /-- the start of a sequence by indentation -/
  | blockSequence
  /-- the start of a mapping by indentation -/
  | blockMapping
  /-- the end of either -/
  | blockEnd
  /-- an opening square bracket -/
  | flowSequence
  /-- a closing square bracket -/
  | flowSequenceEnd
  /-- an opening brace -/
  | flowMapping
  /-- a closing brace -/
  | flowMappingEnd
  /-- the dash of a sequence's entry -/
  | blockEntry
  /-- a comma -/
  | flowEntry
  /-- the start of a key -/
  | key
  /-- the start of a value -/
  | value
  /-- the name of an alias -/
  | alias (name : String)
  /-- the name of an anchor -/
  | anchor (name : String)
  /-- a tag: its handle, if it has one, and the rest -/
  | tag (handle : Option String) (suffix : String)
  /-- a scalar -/
  | scalar (style : ScalarStyle) (text : String)
  deriving DecidableEq, Repr

/-- A place where a key might begin. -/
structure KeyPlace where
  /-- the number of tokens before it -/
  tokens : Nat
  /-- whether nothing else may stand there -/
  required : Bool
  /-- the index of its first character -/
  index : Nat
  /-- its line -/
  line : Nat
  /-- its column -/
  column : Nat
  deriving Repr

/-- The state of cutting a text into tokens. -/
structure Lexer where
  /-- the position -/
  cursor : Cursor
  /-- the tokens so far, last first -/
  tokens : List Token := []
  /-- the number of tokens so far -/
  count : Nat := 0
  /-- the indentation of the block one is in; -1 outside of all -/
  indent : Int := -1
  /-- the indentations of the blocks around it -/
  outer : List Int := []
  /-- for each bracket one is in, innermost first, the place where a key might begin -/
  flow : List (Option KeyPlace) := []
  /-- outside of brackets, the place where a key might begin -/
  place : Option KeyPlace := none
  /-- whether a key may begin here -/
  keyAllowed : Bool := true

namespace Lexer

/-- Whether one is inside of brackets. -/
def inFlow (l : Lexer) : Bool := !l.flow.isEmpty

/-- The lexer with one more token. -/
def emit (l : Lexer) (t : Token) : Lexer :=
  { l with tokens := t :: l.tokens, count := l.count + 1 }

/-- The lexer with a token put behind the first `n`. -/
def emitAt (l : Lexer) (n : Nat) (t : Token) : Lexer :=
  let k := l.count - n
  { l with tokens := l.tokens.take k ++ t :: l.tokens.drop k, count := l.count + 1 }

/-- The lexer with the position moved. -/
def move (l : Lexer) (c : Cursor) : Lexer := { l with cursor := c }

/-- The place where a key of the innermost bracket might begin. -/
def current (l : Lexer) : Option KeyPlace :=
  match l.flow with
  | [] => l.place
  | p :: _ => p

/-- The lexer with another place for a key of the innermost bracket. -/
def setCurrent (l : Lexer) (p : Option KeyPlace) : Lexer :=
  match l.flow with
  | [] => { l with place := p }
  | _ :: rest => { l with flow := p :: rest }

/-- Forgets the place for a key; nothing where one had to begin there. -/
def dropPlace (l : Lexer) : Option Lexer :=
  match l.current with
  | some p => if p.required then none else some (l.setCurrent none)
  | none => some l

/-- Remembers that a key might begin here. -/
def notePlace (l : Lexer) : Option Lexer :=
  if l.keyAllowed then do
    let l ← l.dropPlace
    return l.setCurrent (some
      { tokens := l.count, required := !l.inFlow && l.indent == (l.cursor.column : Int)
        index := l.cursor.index, line := l.cursor.line, column := l.cursor.column })
  else some l

/-- Whether a place is too far behind for a key. -/
def isStale (l : Lexer) (p : KeyPlace) : Bool :=
  p.line != l.cursor.line || decide (1024 < l.cursor.index - p.index)

/-- A place unless it is stale; nothing where a key had to begin there. -/
def fresh? (l : Lexer) : Option KeyPlace → Option (Option KeyPlace)
  | none => some none
  | some p => if l.isStale p then (if p.required then none else some none) else some (some p)

/-- Forgets the places that are too far behind. -/
def dropStale (l : Lexer) : Option Lexer := do
  let place ← l.fresh? l.place
  let flow ← l.flow.mapM l.fresh?
  return { l with place, flow }

/-- Closes the blocks that are indented further than a column. -/
def unwind (column : Int) : Nat → Lexer → Lexer
  | 0, l => l
  | fuel + 1, l =>
    if l.inFlow || l.indent ≤ column then l
    else
      let l := l.emit .blockEnd
      match l.outer with
      | [] => { l with indent := -1 }
      | i :: rest => unwind column fuel { l with indent := i, outer := rest }

/-- Closes the blocks that are indented further than a column. -/
def unwindTo (l : Lexer) (column : Int) : Lexer := unwind column (l.outer.length + 1) l

/-- Opens a block at a column that is indented further than the current one, by a token put behind
the first `n`. -/
def openAt (l : Lexer) (n column : Nat) (t : Token) : Lexer :=
  if l.indent < (column : Int) then
    ({ l with outer := l.indent :: l.outer, indent := column }).emitAt n t
  else l

/-- Skips spaces, comments and line breaks. Behind a line break a key may begin. -/
def skipBlank : Nat → Lexer → Lexer
  | 0, l => l
  | fuel + 1, l =>
    let c := l.cursor.skipWhile (· == ' ')
    let c := if c.peek == some '#' then c.skipWhile (fun x => !isBreak x) else c
    match c.peek with
    | some x =>
      if isBreak x then
        skipBlank fuel { l with cursor := c.lineBreak.2, keyAllowed := l.keyAllowed || !l.inFlow }
      else l.move c
    | none => l.move c

/-! ## Directives, anchors and tags -/

/-- Whether a character may stand in the name of a directive or an anchor. -/
def isWordChar (c : Char) : Bool := c.isAlphanum || c == '-' || c == '_'

/-- Whether a character may stand in a tag. -/
def isUriChar (c : Char) : Bool :=
  c.isAlphanum || "-;/?:@&=+$,_.!~*'()[]%".toList.contains c

/-- The bytes of the escapes of a tag undone. -/
def unescape : List Char → Option (List UInt8)
  | [] => some []
  | '%' :: a :: b :: rest =>
    if isHex a && isHex b then
      (unescape rest).map (UInt8.ofNat (hexValue [a, b]) :: ·)
    else none
  | '%' :: _ => none
  | c :: rest => (unescape rest).map ((String.singleton c).toUTF8.toList ++ ·)

/-- A part of a tag, with its escapes undone. -/
def scanUri (c : Cursor) : Option (String × Cursor) := do
  let (cs, c) := c.span isUriChar
  if cs.isEmpty then none
  let s ← String.fromUTF8? (ByteArray.mk (← unescape cs).toArray)
  return (s, c)

/-- The handle of a tag: one exclamation mark, or a word between two. -/
def scanHandle (c : Cursor) : Option (String × Cursor) :=
  if c.peek ≠ some '!' then none
  else
    let c := c.next
    if c.peek = some ' ' then some ("!", c)
    else
      let (word, c) := c.span isWordChar
      if c.peek = some '!' then some (String.ofList ('!' :: word ++ ['!']), c.next) else none

/-- A row of digits. -/
def scanNumber (c : Cursor) : Option (Nat × Cursor) :=
  let (ds, c) := c.span Char.isDigit
  if ds.isEmpty then none
  else some (ds.foldl (fun n d => 10 * n + (d.toNat - 48)) 0, c)

/-- The version of a directive. -/
def scanVersion (c : Cursor) : Option (Token × Cursor) := do
  let (major, c) ← scanNumber (c.skipWhile (· == ' '))
  if c.peek ≠ some '.' then none
  let (minor, c) ← scanNumber c.next
  if isSpaceOrEnd c.peek then return (.version major minor, c) else none

/-- The handle of a tag directive and what it stands for. -/
def scanTagHandle (c : Cursor) : Option (Token × Cursor) := do
  let (handle, c) ← scanHandle (c.skipWhile (· == ' '))
  if c.peek ≠ some ' ' then none
  let (expansion, c) ← scanUri (c.skipWhile (· == ' '))
  if isSpaceOrEnd c.peek then return (.tagHandle handle expansion, c) else none

/-- A directive, read from its percent sign. -/
def scanDirective (c : Cursor) : Option (Token × Cursor) := do
  let (name, c) := c.next.span isWordChar
  if name.isEmpty || !isSpaceOrEnd c.peek then none
  let (t, c) ←
    if name = "YAML".toList then scanVersion c
    else if name = "TAG".toList then scanTagHandle c
    else some (.directive, c.skipWhile fun x => !isBreak x)
  return (t, ← scanIgnoredLine c)

/-- The name behind an ampersand or asterisk. -/
def scanName (c : Cursor) : Option (String × Cursor) :=
  let (cs, c) := c.next.span isWordChar
  let ends := match c.peek with
    | none => true
    | some x => isBlankOrEnd (some x) || "?:,]\x7d%@\x60".toList.contains x
  if cs.isEmpty || !ends then none else some (String.ofList cs, c)

/-- Whether an exclamation mark stands before the next space. -/
def hasHandle : List Char → Bool
  | [] => false
  | c :: rest => if c == '!' then true else if isSpaceOrEnd (some c) then false else hasHandle rest

/-- A tag, read from its exclamation mark. -/
def scanTag (c : Cursor) : Option (Token × Cursor) := do
  let (t, c) ←
    if c.peekAt 1 = some '<' then do
      let (s, c) ← scanUri (c.skip 2)
      if c.peek = some '>' then pure (Token.tag none s, c.next) else none
    else if isBlankOrEnd (c.peekAt 1) then pure (Token.tag none "!", c.next)
    else do
      let (handle, c) ← if hasHandle c.rest.tail then scanHandle c else some ("!", c.next)
      let (s, c) ← scanUri c
      pure (Token.tag (some handle) s, c)
  if isSpaceOrEnd c.peek then return (t, c) else none

/-! ## One token -/

/-- A marker or directive, which ends all blocks. -/
def ending (l : Lexer) : Option Lexer := do
  let l ← (l.unwindTo (-1)).dropPlace
  return { l with keyAllowed := false }

/-- The tokens of a dash. -/
def fetchEntry (l : Lexer) : Option Lexer := do
  if !l.inFlow && !l.keyAllowed then none
  let l := if l.inFlow then l else l.openAt l.count l.cursor.column .blockSequence
  let l ← ({ l with keyAllowed := true }).dropPlace
  return (l.move l.cursor.next).emit .blockEntry

/-- The tokens of a question mark. -/
def fetchKey (l : Lexer) : Option Lexer := do
  if !l.inFlow && !l.keyAllowed then none
  let l := if l.inFlow then l else l.openAt l.count l.cursor.column .blockMapping
  let l ← ({ l with keyAllowed := !l.inFlow }).dropPlace
  return (l.move l.cursor.next).emit .key

/-- The tokens of a colon. -/
def fetchValue (l : Lexer) : Option Lexer := do
  match l.current with
  | some p =>
    let l := (l.setCurrent none).emitAt p.tokens .key
    let l := if l.inFlow then l else l.openAt p.tokens p.column .blockMapping
    return ({ l with keyAllowed := false }.move l.cursor.next).emit .value
  | none =>
    if !l.inFlow && !l.keyAllowed then none
    let l := if l.inFlow then l else l.openAt l.count l.cursor.column .blockMapping
    let l ← ({ l with keyAllowed := !l.inFlow }).dropPlace
    return (l.move l.cursor.next).emit .value

/-- The token of an opening bracket. -/
def fetchOpening (l : Lexer) (t : Token) : Option Lexer := do
  let l ← l.notePlace
  return ({ l with flow := none :: l.flow, keyAllowed := true }.move l.cursor.next).emit t

/-- The token of a closing bracket. -/
def fetchClosing (l : Lexer) (t : Token) : Option Lexer := do
  let l ← l.dropPlace
  match l.flow with
  | [] => none
  | _ :: rest => return ({ l with flow := rest, keyAllowed := false }.move l.cursor.next).emit t

/-- The token of something that may be a key. -/
def fetchNode (l : Lexer) (scan : Cursor → Option (Token × Cursor)) : Option Lexer := do
  let l ← l.notePlace
  let (t, c) ← scan l.cursor
  return ({ l with keyAllowed := false }.move c).emit t

/-- The token of a plain scalar. -/
def fetchPlain (l : Lexer) : Option Lexer := do
  let l ← l.notePlace
  let (text, broken, c) :=
    scanWords l.inFlow (l.indent + 1) [] false (l.cursor.rest.length + 1) l.cursor
  return ({ l with keyAllowed := broken }.move c).emit (.scalar .plain (String.ofList text))

/-- The token of a block scalar. -/
def fetchBlock (l : Lexer) (folded : Bool) : Option Lexer := do
  let l ← ({ l with keyAllowed := true }).dropPlace
  let (text, c) ← scanBlock folded l.indent l.cursor
  return (l.move c).emit (.scalar .quoted (String.ofList text))

/-- A quoted scalar as a token. -/
def quotedToken (double : Bool) (c : Cursor) : Option (Token × Cursor) := do
  let (text, c) ← scanQuoted double c
  return (.scalar .quoted (String.ofList text), c)

/-- The tokens at the next character. -/
def fetchAt (l : Lexer) (x : Char) : Option Lexer :=
  let c := l.cursor
  if c.column = 0 ∧ x = '%' then do
    let l ← l.ending
    let (t, c) ← scanDirective l.cursor
    return (l.move c).emit t
  else if c.column = 0 ∧ c.isMarker '-' then do
    let l ← l.ending
    return (l.move (c.skip 3)).emit .documentStart
  else if c.column = 0 ∧ c.isMarker '.' then do
    let l ← l.ending
    return (l.move (c.skip 3)).emit .documentEnd
  else match x with
    | '[' => l.fetchOpening .flowSequence
    | '\x7b' => l.fetchOpening .flowMapping
    | ']' => l.fetchClosing .flowSequenceEnd
    | '\x7d' => l.fetchClosing .flowMappingEnd
    | ',' => do
      let l ← ({ l with keyAllowed := true }).dropPlace
      return (l.move c.next).emit .flowEntry
    | '*' => l.fetchNode fun c => (scanName c).map fun (n, c) => (.alias n, c)
    | '&' => l.fetchNode fun c => (scanName c).map fun (n, c) => (.anchor n, c)
    | '!' => l.fetchNode scanTag
    | '\'' => l.fetchNode (quotedToken false)
    | '"' => l.fetchNode (quotedToken true)
    | x =>
      if x == '-' && isBlankOrEnd (c.peekAt 1) then l.fetchEntry
      else if x == '?' && (l.inFlow || isBlankOrEnd (c.peekAt 1)) then l.fetchKey
      else if x == ':' && (l.inFlow || isBlankOrEnd (c.peekAt 1)) then l.fetchValue
      else if x == '|' && !l.inFlow then l.fetchBlock false
      else if x == '>' && !l.inFlow then l.fetchBlock true
      else if beginsPlain l.inFlow c then l.fetchPlain
      else none

/-- Reads on to the end. -/
def run : Nat → Lexer → Option (List Token)
  | 0, _ => none
  | fuel + 1, l => do
    let l ← (skipBlank (l.cursor.rest.length + 1) l).dropStale
    let l := l.unwindTo l.cursor.column
    match l.cursor.peek with
    | none => do
      let l ← (l.unwindTo (-1)).dropPlace
      return l.tokens.reverse
    | some x => run fuel (← l.fetchAt x)

end Lexer

/-- Whether a character may stand in a text. -/
def isAllowed (c : Char) : Bool :=
  let n := c.toNat
  c == '\t' || c == '\n' || c == '\r' || n == 0x85 || (0x20 ≤ n && n ≤ 0x7e) ||
    (0xa0 ≤ n && n ≤ 0xd7ff) || (0xe000 ≤ n && n ≤ 0xfffd) || 0x10000 ≤ n

/-- The tokens of a text; nothing where it is malformed. -/
def tokens? (s : String) : Option (List Token) :=
  let cs := s.toList
  if cs.all isAllowed then
    let c : Cursor := ⟨cs, 0, 0, 0⟩
    let c := if c.peek = some '\ufeff' then c.next else c
    Lexer.run (cs.length + 2) { cursor := c }
  else none

end EnumExport.Yaml
