import EnumExport.Source.Expression

/-!
# Patterns

The grammar of the patterns that a value may be matched with. Nothing of a pattern is kept: it only
matters that there is one. As with expressions the rules are given level by level.
-/

namespace EnumExport.Source

namespace Pattern

open Rule

/-- Reads a name that a pattern may give to what it matches. -/
def capture : Rule Unit := do
  let n ← name
  require (n ≠ "_")
  match ← peek with
  | some (.mark ".") | some (.mark "(") | some (.mark "=") => fail
  | _ => return ()

/-- Reads a number with its sign, and answers whether it is imaginary. -/
def signed : Rule Bool := do
  let _ ← sawMark "-"
  match ← peek with
  | some (.number b) =>
    lexeme (.number b)
    return b
  | _ => fail

/-- Reads a number: a signed one, or the sum of a real and an imaginary one. -/
def number : Rule Unit := do
  let imaginary ← signed
  match ← peek with
  | some (.mark "+") | some (.mark "-") =>
    Grammar.oneOf ["+", "-"]
    require !imaginary
    lexeme (.number true)
  | _ => return ()

/-- Reads a value that is written out. -/
def literal (g : Grammar) : Rule Unit := do
  match ← peek with
  | some (.word w) =>
    require (Grammar.constants.contains w)
    word w
  | some .quoted | some .textStart => g.texts
  | _ => number

/-- Reads a dotted name, and answers whether it has several parts. -/
def dotted : Rule Bool := return (← separated "." name).length > 1

/-- Reads the parts of a class pattern up to the closing parenthesis; those with a name come
last. -/
def parts (pattern : Rule Unit) : Rule Unit := do
  if ← sawMark ")" then return ()
  let (named, _) ← listed do
    match ← peek, ← peekSecond with
    | some (.word _), some (.mark "=") =>
      let _ ← name
      mark "="
      pattern
      return true
    | _, _ =>
      pattern
      return false
  require ((named.dropWhile (!·)).all id)
  mark ")"

/-- Reads an item of a row pattern, and answers whether it stands for several. -/
def item (pattern : Rule Unit) : Rule Bool := do
  if ← sawMark "*" then
    if !(← sawWord "_") then capture
    return true
  pattern
  return false

/-- Reads the items of a row pattern, and answers whether they can only be a row. -/
def row (pattern : Rule Unit) : Rule Bool := do
  let (items, comma) ← listed (item pattern)
  match items, comma with
  | [isSeveral], false =>
    require !isSeveral
    return false
  | _, _ => return true

/-- Reads the key of a pair. -/
def key (g : Grammar) : Rule Unit :=
  literal g <|> do require (← dotted)

/-- Reads an item of a mapping pattern, and answers whether it stands for all others. -/
def pair (g : Grammar) (pattern : Rule Unit) : Rule Bool := do
  if ← sawMark "**" then
    capture
    return true
  key g
  mark ":"
  pattern
  return false

/-- Reads what stands between the braces of a mapping pattern; what stands for all others comes
last. -/
def pairs (g : Grammar) (pattern : Rule Unit) : Rule Unit := do
  match ← optional (listed (pair g pattern)) with
  | none => return ()
  | some (rest, _) => require (rest.dropLast.all (!·))

/-- Reads a name: a capture, the wildcard, a value or a class with its parts. -/
def named (pattern : Rule Unit) : Rule Unit := do
  let _ ← dotted
  if ← sawMark "(" then parts pattern
  else if ← isMark "=" then fail

/-- Reads a pattern without alternatives; `pattern` reads those in brackets. -/
def closed (g : Grammar) (pattern : Rule Unit) : Rule Unit := do
  match ← peek with
  | some (.mark "(") =>
    mark "("
    if !(← isMark ")") then
      let _ ← row pattern
    mark ")"
  | some (.mark "[") =>
    mark "["
    if !(← isMark "]") then
      let _ ← listed (item pattern)
    mark "]"
  | some (.mark "\x7b") =>
    mark "\x7b"
    pairs g pattern
    mark "\x7d"
  | some (.word w) =>
    if Grammar.constants.contains w then literal g else named pattern
  | _ => literal g

/-- Reads a pattern with alternatives and a name for what it matches. -/
def whole (g : Grammar) (pattern : Rule Unit) : Rule Unit := do
  let _ ← separated "|" (closed g pattern)
  if ← sawWord "as" then capture

/-- Reads a pattern, with as many levels as the row is long. -/
def nested (g : Grammar) : List Token → Rule Unit
  | [] => fail
  | _ :: ts => whole g (nested g ts)

/-- Reads a pattern or a row of them. -/
def top (g : Grammar) : Rule Unit := do
  let _ ← row fun ts => nested g ts ts

end Pattern

end EnumExport.Source
