import EnumExport.Source.Pattern
import EnumExport.Source.Layout

/-!
# Statements

A module is a row of statements. Kept are the classes and functions, and of the rest the
assignments and the blocks, since classes may stand in any of them.
-/

namespace EnumExport.Source

/-- A statement without a block. -/
inductive Simple
  /-- gives values to targets -/
  | assignment
  /-- tells the type of a target, and perhaps gives it a value -/
  | typed (hasValue : Bool)
  /-- any other -/
  | other
  deriving DecidableEq, Repr

mutual

/-- A statement. -/
inductive Statement
  /-- simple statements on one line -/
  | simple (parts : List Simple)
  /-- a function -/
  | function (body : Block)
  /-- a class: its line, its name and the dotted names of its bases -/
  | classDecl (line : Nat) (name : String) (bases : List String) (body : Block)
  /-- any other statement with blocks -/
  | compound (blocks : List Block)
  deriving Repr

/-- The body of a statement. -/
inductive Block
  /-- simple statements on the line of the statement -/
  | inline (parts : List Simple)
  /-- statements on lines of their own -/
  | indented (statements : List Statement)
  deriving Repr

end

/-- What the rules for statements build on. -/
structure Level where
  /-- the rules for expressions -/
  expressions : Grammar
  /-- reads the body of a statement -/
  block : Rule Block

namespace Level

open Rule

/-! ## Simple statements -/

/-- The marks that change a target by an operation. -/
def changes : List String :=
  ["+=", "-=", "*=", "@=", "/=", "%=", "&=", "|=", "^=", "<<=", ">>=", "**=", "//="]

/-- Reads the type parameters of a class, a function or a type. -/
def typeParams (g : Grammar) : Rule Unit := do
  if ← sawMark "[" then
    let _ ← listed do
      let isStarred ← sawMark "*"
      let isMapping ← sawMark "**"
      let _ ← name
      if !isStarred && !isMapping then
        if ← sawMark ":" then
          let _ ← g.expression
      if ← sawMark "=" then
        if isStarred then
          let _ ← g.item
        else
          let _ ← g.expression
    mark "]"

/-- Reads the values behind the first mark of an assignment, where further targets may stand before
the last value; once for every element of the first row at most. -/
def values (g : Grammar) : List Token → Rule Unit
  | [] => fail
  | _ :: fuel => do
    if ← isWord "yield" then
      let _ ← g.yielded
    else
      let e ← g.items
      if ← sawMark "=" then
        require e.isTarget
        values g fuel

/-- Reads a statement that begins with an expression. -/
def expressionStatement (g : Grammar) : Rule Simple := do
  let e ← g.items
  match ← peek with
  | some (.mark ":") =>
    require (match e with
      | .name _ => true
      | e => e.isPart)
    mark ":"
    let _ ← g.expression
    if ← sawMark "=" then
      let _ ← g.yieldedOrItems
      return .typed true
    return .typed false
  | some (.mark "=") =>
    require e.isTarget
    mark "="
    fun ts => values g ts ts
    return .assignment
  | some (.mark m) =>
    if changes.contains m then
      require e.isSinglePlace
      mark m
      let _ ← g.yieldedOrItems
    return .other
  | _ => return .other

/-- Reads a statement that names a type. -/
def typeAlias (g : Grammar) : Rule Simple := do
  word "type"
  let _ ← name
  typeParams g
  mark "="
  let _ ← g.expression
  return .other

/-- Reads a name, perhaps with another name for it. -/
def renamed {α : Type} (r : Rule α) : Rule Unit := do
  let _ ← r
  if ← sawWord "as" then
    let _ ← name

/-- Reads a dotted name. -/
def dottedName : Rule Unit := do let _ ← separated "." name

/-- Reads what is imported from a module. -/
def imported : Rule Unit := do
  if ← sawMark "*" then return ()
  if ← sawMark "(" then
    let _ ← listed (renamed name)
    mark ")"
  else
    let _ ← separated "," (renamed name)

/-- Reads the points before the name of a module, and answers whether there are any. -/
def points : Rule Bool := do
  let ps ← many (Grammar.oneOf [".", "..."])
  return !ps.isEmpty

/-- Reads the rest of a simple statement behind its keyword. -/
def afterKeyword (g : Grammar) : String → Rule Unit
  | "pass" | "break" | "continue" => return ()
  | "return" => do let _ ← optional g.items
  | "raise" => do
    if (← optional g.expression).isSome then
      if ← sawWord "from" then
        let _ ← g.expression
  | "global" | "nonlocal" => do let _ ← separated "," name
  | "del" => do
    let e := Grammar.ofItems (← listed g.sum)
    require e.isDeletable
  | "assert" => do
    let _ ← g.expression
    if ← sawMark "," then
      let _ ← g.expression
  | "import" => do let _ ← separated "," (renamed dottedName)
  | "from" => do
    let relative ← points
    let hasName := (← optional dottedName).isSome
    require (relative || hasName)
    word "import"
    imported
  | _ => fail

/-- The keywords that begin a simple statement. -/
def simpleKeywords : List String :=
  ["pass", "break", "continue", "return", "raise", "global", "nonlocal", "del", "assert", "import",
    "from"]

/-- Reads a simple statement. -/
def simple (g : Grammar) : Rule Simple := do
  match ← peek, ← peekSecond with
  | some (.word "yield"), _ =>
    let _ ← g.yielded
    return .other
  | some (.word "type"), some (.word _) => typeAlias g <|> expressionStatement g
  | some (.word w), _ =>
    if simpleKeywords.contains w then
      word w
      afterKeyword g w
      return .other
    else expressionStatement g
  | _, _ => expressionStatement g

/-- Reads a line of simple statements. -/
def simples (g : Grammar) : Rule (List Simple) := do
  let parts ← separated ";" (simple g)
  let _ ← sawMark ";"
  lexeme .lineEnd
  return parts

/-! ## Statements with blocks -/

variable (l : Level)

/-- Reads a block behind its colon. -/
def body : Rule Block := do
  mark ":"
  l.block

/-- Reads the block behind `else`, if there is one. -/
def otherwise : Rule (List Block) := do
  if ← sawWord "else" then return [← l.body]
  return []

/-- Reads the blocks of a condition, behind its keyword. -/
def conditional : Rule (List Block) := do
  let _ ← l.expressions.named
  let first ← l.body
  let more ← many do
    word "elif"
    let _ ← l.expressions.named
    l.body
  return first :: more ++ (← l.otherwise)

/-- Reads the blocks of a loop that has a condition. -/
def whileLoop : Rule (List Block) := do
  let _ ← l.expressions.named
  let first ← l.body
  return first :: (← l.otherwise)

/-- Reads the blocks of a loop over items. -/
def forLoop : Rule (List Block) := do
  let _ ← l.expressions.targets
  word "in"
  let _ ← l.expressions.items
  let first ← l.body
  return first :: (← l.otherwise)

/-- Reads a resource, perhaps with a target for it. -/
def resource : Rule Unit := do
  let _ ← l.expressions.expression
  if ← sawWord "as" then
    let isStarred ← sawMark "*"
    let e ← l.expressions.sum
    require (if isStarred then (Expr.starred e).isTarget else e.isTarget)

/-- Reads the resources of a block, in parentheses or without them, up to the colon. -/
def resources : Rule Unit :=
  (do
    mark "("
    let _ ← listed l.resource
    mark ")"
    require (← isMark ":")) <|>
  (do
    let _ ← separated "," l.resource
    require (← isMark ":"))

/-- Reads the block of resources. -/
def withBlock : Rule (List Block) := do
  l.resources
  return [← l.body]

/-- Reads the block of one kind of error; `grouped` tells whether errors come in groups. -/
def handler (grouped : Bool) : Rule Block := do
  word "except"
  if grouped then mark "*"
  if grouped || !(← isMark ":") then
    let _ ← l.expressions.expression
    if ← sawWord "as" then
      let _ ← name
  l.body

/-- Reads the block behind `finally`, if there is one. -/
def finallyBlock : Rule (List Block) := do
  if ← sawWord "finally" then return [← l.body]
  return []

/-- Reads the blocks of an attempt. -/
def attempt : Rule (List Block) := do
  let first ← l.body
  if ← isWord "finally" then return first :: (← l.finallyBlock)
  let grouped := (← peekSecond) == some (.mark "*")
  let handlers ← atLeastOne (l.handler grouped)
  let other ← l.otherwise
  return first :: handlers ++ other ++ (← l.finallyBlock)

/-- Reads one case of a match. -/
def matchCase : Rule Block := do
  word "case"
  Pattern.top l.expressions
  if ← sawWord "if" then
    let _ ← l.expressions.named
  l.body

/-- Reads the blocks of a match. -/
def matching : Rule Statement := do
  word "match"
  let first ← l.expressions.namedItem
  if ← sawMark "," then
    let _ ← optional (listed l.expressions.namedItem)
  else require !first.isStarred
  mark ":"
  lexeme .lineEnd
  lexeme .indent
  let cases ← atLeastOne l.matchCase
  lexeme .dedent
  return .compound cases

/-- Reads a function behind its keyword. -/
def functionDecl : Rule Statement := do
  let _ ← name
  typeParams l.expressions
  mark "("
  l.expressions.params true
  mark ")"
  if ← sawMark "->" then
    let _ ← l.expressions.expression
  return .function (← l.body)

/-- The dotted names of the bases that arguments tell: those before the first with a name. -/
def basesOf (arguments : List Argument) : List String :=
  ((arguments.map Argument.positional?).takeWhile Option.isSome).filterMap fun e =>
    let n := (e.map Expr.dottedName).getD ""
    if n = "" then none else some n

/-- Reads a class behind its keyword, which stands on a line. -/
def classAt (line : Nat) : Rule Statement := do
  let n ← name
  typeParams l.expressions
  let arguments ← if ← sawMark "(" then l.expressions.arguments else pure []
  return .classDecl line n (basesOf arguments) (← l.body)

/-- Reads a decorated class or function, behind its decorators. -/
def declaration : Rule Statement := do
  let n ← Rule.line
  if ← sawWord "class" then l.classAt n
  else
    let _ ← sawWord "async"
    word "def"
    l.functionDecl

/-- Reads a decorator. -/
def decorator : Rule Unit := do
  mark "@"
  let _ ← l.expressions.named
  lexeme .lineEnd

/-- Reads a statement with blocks that may wait, behind `async`. -/
def asynchronous : Rule Statement := do
  if ← sawWord "def" then l.functionDecl
  else if ← sawWord "with" then return .compound (← l.withBlock)
  else
    word "for"
    return .compound (← l.forLoop)

/-- Reads a line of simple statements as a statement. -/
def simpleLine : Rule Statement := return .simple (← simples l.expressions)

/-- Reads a statement. -/
def statement : Rule Statement := do
  let n ← Rule.line
  match ← peek with
  | some (.mark "@") =>
    let _ ← many l.decorator
    l.declaration
  | some (.word "class") =>
    word "class"
    l.classAt n
  | some (.word "def") =>
    word "def"
    l.functionDecl
  | some (.word "async") =>
    word "async"
    l.asynchronous
  | some (.word "if") =>
    word "if"
    return .compound (← l.conditional)
  | some (.word "while") =>
    word "while"
    return .compound (← l.whileLoop)
  | some (.word "for") =>
    word "for"
    return .compound (← l.forLoop)
  | some (.word "with") =>
    word "with"
    return .compound (← l.withBlock)
  | some (.word "try") =>
    word "try"
    return .compound (← l.attempt)
  | some (.word "match") => l.matching <|> l.simpleLine
  | _ => l.simpleLine

/-- Reads a block. -/
def nextBlock : Rule Block := do
  if ← saw .lineEnd then
    lexeme .indent
    let statements ← atLeastOne l.statement
    lexeme .dedent
    return .indented statements
  else return .inline (← simples l.expressions)

end Level

/-- The rules for statements, with as many levels of blocks as a row is long. -/
def level (g : Grammar) : List Token → Level
  | [] => { expressions := g, block := Rule.fail }
  | _ :: ts => { expressions := g, block := (level g ts).nextBlock }

/-- The statements of a source text; nothing where it is malformed. -/
def module? (s : String) : Option (List Statement) := do
  let ts ← tokens? s
  let l := level (grammar ts) ts
  match ← (Rule.many l.statement).run ts with
  | (statements, []) => some statements
  | (_, _ :: _) => none

end EnumExport.Source
