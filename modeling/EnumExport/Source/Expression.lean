import EnumExport.Source.Rule

/-!
# Expressions

What an expression is is kept only as far as it matters: a name, an attribute or an item of
another expression, a row, or anything else. That is enough to tell what may be assigned to or
deleted, and which dotted name an expression spells.

The grammar is given level by level: `Grammar` holds the rules that read an expression inside
brackets or behind a keyword, and `Grammar.next` those that may use them. Every use stands behind a
token, so the row of tokens itself bounds the number of levels.
-/

namespace EnumExport.Source

/-- An expression. -/
inductive Expr
  /-- a name -/
  | name (s : String)
  /-- an attribute of an expression -/
  | attribute (of : Expr) (name : String)
  /-- an item of an expression -/
  | item (of : Expr)
  /-- a row in brackets or without them -/
  | row (items : List Expr)
  /-- an expression in parentheses -/
  | group (inner : Expr)
  /-- the items of an expression -/
  | starred (inner : Expr)
  /-- anything else -/
  | other
  deriving Repr, Inhabited

namespace Expr

/-- The dotted name that an expression spells. Of an attribute of something without a name, only the
attribute counts. -/
def dottedName : Expr → String
  | .name s => s
  | .attribute of n =>
    let front := of.dottedName
    if front = "" then n else front ++ "." ++ n
  | .group inner => inner.dottedName
  | _ => ""

/-- Whether an expression is an attribute or an item of another. -/
def isPart : Expr → Bool
  | .attribute _ _ | .item _ => true
  | _ => false

/-- Whether an expression stands for the items of another. -/
def isStarred : Expr → Bool
  | .starred _ => true
  | _ => false

/-- Whether an expression names one place. -/
def isSinglePlace : Expr → Bool
  | .name _ | .attribute _ _ | .item _ => true
  | .group inner => inner.isSinglePlace
  | _ => false

mutual

/-- Whether an expression names places that can be assigned to. -/
def isTarget : Expr → Bool
  | .name _ | .attribute _ _ | .item _ => true
  | .row items => areTargets items
  | .group inner => inner.isTarget
  | .starred inner => inner.isTarget
  | .other => false

/-- Whether all expressions name places that can be assigned to. -/
def areTargets : List Expr → Bool
  | [] => true
  | e :: es => e.isTarget && areTargets es

end

mutual

/-- Whether an expression names places that can be deleted. -/
def isDeletable : Expr → Bool
  | .name _ | .attribute _ _ | .item _ => true
  | .row items => areDeletable items
  | .group inner => inner.isDeletable
  | .starred _ | .other => false

/-- Whether all expressions name places that can be deleted. -/
def areDeletable : List Expr → Bool
  | [] => true
  | e :: es => e.isDeletable && areDeletable es

end

end Expr

/-- An argument of a call or of a class. -/
inductive Argument
  /-- a value -/
  | plain (e : Expr)
  /-- the items of a value -/
  | starred (e : Expr)
  /-- a value for a name -/
  | named (name : String) (e : Expr)
  /-- the values of a mapping -/
  | unpacked (e : Expr)
  deriving Repr

namespace Argument

/-- The expression of an argument without a name. -/
def positional? : Argument → Option Expr
  | .plain e | .starred e => some e
  | _ => none

/-- Whether arguments come in an order that is allowed: plain ones before named ones, and starred
ones before unpacked ones. -/
def inOrder (seenNamed seenUnpacked : Bool) : List Argument → Bool
  | [] => true
  | .plain _ :: rest => !seenNamed && !seenUnpacked && inOrder seenNamed seenUnpacked rest
  | .starred _ :: rest => !seenUnpacked && inOrder seenNamed seenUnpacked rest
  | .named _ _ :: rest => inOrder true seenUnpacked rest
  | .unpacked _ :: rest => inOrder seenNamed true rest

end Argument

/-- A parameter of a function. -/
inductive Param
  /-- a name, with or without a default -/
  | plain (hasDefault : Bool)
  /-- the mark behind the parameters that have no name for the caller -/
  | slash
  /-- the mark before the parameters that need their name -/
  | star
  /-- the parameter for further values -/
  | rest
  /-- the parameter for further named values -/
  | namedRest
  deriving DecidableEq, Repr

namespace Param

/-- Whether parameters behind a star come in an order that is allowed. -/
def namedInOrder : List Param → Bool
  | [] => true
  | .plain _ :: ps => namedInOrder ps
  | .namedRest :: ps => ps.isEmpty
  | _ => false

/-- Whether parameters come in an order that is allowed: none without a default behind one with it,
one slash behind the first, and one star at most. -/
def inOrder (seenAny seenDefault seenSlash : Bool) : List Param → Bool
  | [] => true
  | .plain d :: ps => (d || !seenDefault) && inOrder true (seenDefault || d) seenSlash ps
  | .slash :: ps => seenAny && !seenSlash && inOrder seenAny seenDefault true ps
  | .star :: ps => (match ps with
    | .plain _ :: _ => true
    | _ => false) && namedInOrder ps
  | .rest :: ps => namedInOrder ps
  | .namedRest :: ps => ps.isEmpty

end Param

/-- The rules for the expressions on one level. -/
structure Grammar where
  /-- reads operands with the operators that calculate -/
  sum : Rule Expr
  /-- reads a condition -/
  condition : Rule Expr
  /-- reads an expression -/
  expression : Rule Expr

namespace Grammar

open Rule

/-- The operators that calculate. -/
def operators : List String :=
  ["|", "^", "&", "<<", ">>", "+", "-", "*", "/", "//", "%", "@", "**"]

/-- The operators that stand before their operand. -/
def signs : List String := ["+", "-", "~"]

/-- The marks that compare. -/
def comparisons : List String := ["==", "!=", "<", "<=", ">", ">="]

/-- Reads one of some marks. -/
def oneOf (ms : List String) : Rule Unit
  | ⟨.mark m, _⟩ :: ts => if ms.contains m then some ((), ts) else none
  | _ => none

variable (g : Grammar)

/-- Reads an expression that may be given a name. -/
def named : Rule Expr := do
  match ← peek, ← peekSecond with
  | some (.word _), some (.mark ":=") => do
    let _ ← name
    mark ":="
    let _ ← g.expression
    return .other
  | _, _ => g.expression

/-- Reads an expression, or the items of one. -/
def item : Rule Expr := do
  if ← sawMark "*" then return .starred (← g.sum) else g.expression

/-- Reads an expression that may be given a name, or the items of one. -/
def namedItem : Rule Expr := do
  if ← sawMark "*" then return .starred (← g.sum) else g.named

/-- The expression of what a list of items holds. -/
def ofItems : List Expr × Bool → Expr
  | ([e], false) => e
  | (es, _) => .row es

/-- Reads a row of expressions without brackets, or a single one. -/
def items : Rule Expr := return ofItems (← listed g.item)

/-- Reads what can be assigned to. -/
def targets : Rule Expr := do
  let e := ofItems (← listed do
    if ← sawMark "*" then return .starred (← g.sum) else g.sum)
  require e.isTarget
  return e

/-- Reads a yield. -/
def yielded : Rule Expr := do
  word "yield"
  if ← sawWord "from" then
    let _ ← g.expression
  else
    let _ ← optional g.items
  return .other

/-- Reads a yield or a row. -/
def yieldedOrItems : Rule Expr := do
  if ← isWord "yield" then g.yielded else g.items

/-- Whether a loop inside an expression comes next. -/
def isLoop : Rule Bool := return (← isWord "for") || (← isWord "async")

/-- Reads one loop inside an expression. -/
def loop : Rule Unit := do
  let _ ← sawWord "async"
  word "for"
  let _ ← g.targets
  word "in"
  let _ ← g.condition
  let _ ← many do
    word "if"
    g.condition

/-- Reads the loops inside an expression. -/
def loops : Rule Unit := do let _ ← atLeastOne g.loop

/-- Reads an argument. -/
def argument : Rule Argument := do
  if ← sawMark "*" then return .starred (← g.expression)
  if ← sawMark "**" then return .unpacked (← g.expression)
  match ← peek, ← peekSecond with
  | some (.word _), some (.mark "=") => do
    let n ← name
    mark "="
    return .named n (← g.expression)
  | _, _ => return .plain (← g.named)

/-- Reads the arguments behind the first one up to the closing parenthesis. -/
def argumentsAfter (first : Argument) : Rule (List Argument) := do
  let others ← many do
    mark ","
    g.argument
  let _ ← sawMark ","
  require (Argument.inOrder false false (first :: others))
  mark ")"
  return first :: others

/-- Reads arguments up to the closing parenthesis. -/
def arguments : Rule (List Argument) := do
  if ← sawMark ")" then return []
  g.argumentsAfter (← g.argument)

/-- Reads the arguments of a call up to the closing parenthesis; a loop is an argument on its
own. -/
def callArguments : Rule Unit := do
  if ← sawMark ")" then return ()
  let first ← g.argument
  match first, ← isLoop with
  | .plain _, true =>
    g.loops
    mark ")"
  | _, _ =>
    let _ ← g.argumentsAfter first

/-- Reads what is left of a slice behind its first colon. -/
def sliceRest : Rule Unit := do
  let _ ← optional g.expression
  if ← sawMark ":" then
    let _ ← optional g.expression

/-- Reads what stands between square brackets behind an expression. -/
def slice : Rule Unit := do
  if ← sawMark ":" then g.sliceRest
  else if ← sawMark "*" then
    let _ ← g.expression
  else
    match ← peekSecond with
    | some (.mark ":=") =>
      let _ ← g.named
    | _ =>
      let _ ← g.expression
      if ← sawMark ":" then g.sliceRest

/-- Reads an expression in a formatted text, with its format, behind the opening brace; `format`
reads the expressions in the format. -/
def fieldWith (format : Rule Unit) : Rule Unit := do
  mark "\x7b"
  let _ ← g.yieldedOrItems
  let _ ← sawMark "="
  if ← sawMark "!" then
    let c ← name
    require (c == "r" || c == "s" || c == "a")
  if ← sawMark ":" then format
  mark "\x7d"

/-- Reads the expressions in a formatted text, with formats as deep as the row is long. -/
def fields : List Token → Rule Unit
  | [] => fail
  | _ :: fuel => do let _ ← many (g.fieldWith (fields fuel))

/-- Reads one quoted or formatted text. -/
def text : Rule Unit := do
  if ← saw .quoted then return ()
  lexeme .textStart
  fun ts => g.fields ts ts
  lexeme .textEnd

/-- Reads texts side by side. -/
def texts : Rule Unit := do let _ ← atLeastOne g.text

/-- Reads the items behind the first one and a comma. -/
def itemsAfter (first : Expr) : Rule Expr := do
  match ← optional (listed g.namedItem) with
  | none => return .row [first]
  | some (es, _) => return .row (first :: es)

/-- Reads what begins with an opening parenthesis, behind it. -/
def inParentheses : Rule Expr := do
  if ← sawMark ")" then return .row []
  if ← isWord "yield" then
    let e ← g.yielded
    mark ")"
    return .group e
  let first ← g.namedItem
  if ← sawMark "," then
    let e ← g.itemsAfter first
    mark ")"
    return e
  require !first.isStarred
  if ← isLoop then
    g.loops
    mark ")"
    return .other
  mark ")"
  return .group first

/-- Reads what begins with an opening square bracket, behind it. -/
def inBrackets : Rule Expr := do
  if ← sawMark "]" then return .row []
  let first ← g.namedItem
  if ← sawMark "," then
    let e ← g.itemsAfter first
    mark "]"
    return e
  if ← isLoop then
    require !first.isStarred
    g.loops
    mark "]"
    return .other
  mark "]"
  return .row [first]

/-- Reads a key with its value, or the pairs of a mapping. -/
def keyed : Rule Unit := do
  if ← sawMark "**" then
    let _ ← g.sum
  else
    let _ ← g.expression
    mark ":"
    let _ ← g.expression

/-- Reads further items of a kind, each behind a comma. -/
def further {α : Type} (r : Rule α) : Rule Unit := do
  let _ ← many do
    mark ","
    r
  let _ ← sawMark ","

/-- Reads what stands between braces. -/
def braced : Rule Unit := do
  match ← peek, ← peekSecond with
  | some (.mark "**"), _ =>
    g.keyed
    further g.keyed
  | some (.mark "*"), _ | _, some (.mark ":=") =>
    let first ← g.namedItem
    if !first.isStarred && (← isLoop) then g.loops else further g.namedItem
  | _, _ =>
    let _ ← g.expression
    if ← sawMark ":" then
      let _ ← g.expression
      if ← isLoop then g.loops else further g.keyed
    else if ← isLoop then g.loops
    else further g.namedItem

/-- Reads what begins with an opening brace, behind it. -/
def inBraces : Rule Expr := do
  if !(← isMark "\x7d") then g.braced
  mark "\x7d"
  return .other

/-- The keywords that are values. -/
def constants : List String := ["True", "False", "None"]

/-- Reads the smallest expressions. -/
def atom : Rule Expr := do
  match ← peek with
  | some (.word w) =>
    if constants.contains w then
      word w
      return .other
    else return .name (← name)
  | some (.number b) => do
    lexeme (.number b)
    return .other
  | some .quoted | some .textStart => do
    g.texts
    return .other
  | some (.mark "(") => do
    mark "("
    g.inParentheses
  | some (.mark "[") => do
    mark "["
    g.inBrackets
  | some (.mark "\x7b") => do
    mark "\x7b"
    g.inBraces
  | some (.mark "...") => do
    mark "..."
    return .other
  | _ => fail

/-- Reads what may follow an expression that it takes a part of or calls. -/
def suffix : Rule (Expr → Expr) := do
  match ← peek with
  | some (.mark ".") => do
    mark "."
    let n ← name
    return (.attribute · n)
  | some (.mark "(") => do
    mark "("
    g.callArguments
    return fun _ => .other
  | some (.mark "[") => do
    mark "["
    let _ ← listed g.slice
    mark "]"
    return .item
  | _ => fail

/-- Reads an atom with all its suffixes. -/
def primary : Rule Expr := do
  let e ← g.atom
  return (← many g.suffix).foldl (fun e f => f e) e

/-- Reads a primary with the signs before it. -/
def operand : Rule Expr := do
  let before ← many (oneOf signs)
  let waits ← sawWord "await"
  let e ← g.primary
  return if before.isEmpty && !waits then e else .other

/-- Reads operands with the operators that calculate. -/
def nextSum : Rule Expr := do
  let e ← g.operand
  let others ← many do
    oneOf operators
    g.operand
  return if others.isEmpty then e else .other

/-- Reads an operator that compares. -/
def comparison : Rule Unit := do
  if ← sawWord "in" then return ()
  if ← sawWord "not" then word "in"
  else if ← sawWord "is" then
    let _ ← sawWord "not"
  else oneOf comparisons

/-- Reads a comparison, with the negations before it. -/
def negation : Rule Expr := do
  let before ← many (word "not")
  let e ← g.nextSum
  let others ← many do
    comparison
    g.nextSum
  return if before.isEmpty && others.isEmpty then e else .other

/-- Reads a condition. -/
def nextCondition : Rule Expr := do
  let e ← g.negation
  let others ← many do
    if !(← sawWord "and") then word "or"
    g.negation
  return if others.isEmpty then e else .other

/-- Reads one parameter; `annotated` tells whether parameters have annotations. -/
def param (annotated : Bool) : Rule Param := do
  let typed : Rule Unit := do
    if annotated then
      if ← sawMark ":" then
        let _ ← g.expression
  if ← sawMark "/" then return .slash
  if ← sawMark "**" then
    let _ ← name
    typed
    return .namedRest
  if ← sawMark "*" then
    if (← optional name).isNone then return .star
    if annotated then
      if ← sawMark ":" then
        let _ ← g.item
    return .rest
  let _ ← name
  typed
  if ← sawMark "=" then
    let _ ← g.expression
    return .plain true
  return .plain false

/-- Reads parameters. -/
def params (annotated : Bool) : Rule Unit := do
  match ← optional (listed (g.param annotated)) with
  | none => return ()
  | some (ps, _) => require (Param.inOrder false false false ps)

/-- Reads an expression. -/
def nextExpression : Rule Expr := do
  if ← sawWord "lambda" then
    g.params false
    mark ":"
    let _ ← g.expression
    return .other
  let e ← g.nextCondition
  let choice ← optional do
    word "if"
    let _ ← g.nextCondition
    word "else"
    g.expression
  return if choice.isNone then e else .other

/-- The rules of the next level. -/
def next : Grammar :=
  { sum := g.nextSum, condition := g.nextCondition, expression := g.nextExpression }

end Grammar

/-- The rules with as many levels as a row is long. -/
def grammar : List Token → Grammar
  | [] => { sum := Rule.fail, condition := Rule.fail, expression := Rule.fail }
  | _ :: ts => (grammar ts).next

end EnumExport.Source
