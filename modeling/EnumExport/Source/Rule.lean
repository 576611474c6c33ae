import EnumExport.Source.Token

/-!
# Rules

A rule of the grammar reads tokens from the front of a row and answers what it read and the tokens
that are left, or nothing. Rules are put together by sequence, by `<|>` (the second is tried on the
same tokens where the first reads nothing) and by repetition.
-/

namespace EnumExport.Source

/-- A rule that reads an `α`. -/
abbrev Rule (α : Type) := StateT (List Token) Option α

namespace Rule

/-- Reads nothing at all. -/
def fail {α : Type} : Rule α := fun _ => none

/-- The next lexeme. -/
def peek : Rule (Option Lexeme) := fun ts => some (ts.head?.map Token.lexeme, ts)

/-- The lexeme behind the next one. -/
def peekSecond : Rule (Option Lexeme) := fun ts => some ((ts.drop 1).head?.map Token.lexeme, ts)

/-- The line of the next token. -/
def line : Rule Nat := fun ts => some ((ts.head?.map Token.line).getD 0, ts)

/-- Reads a lexeme. -/
def lexeme (x : Lexeme) : Rule Unit
  | t :: ts => if t.lexeme = x then some ((), ts) else none
  | [] => none

/-- Reads a mark. -/
def mark (m : String) : Rule Unit := lexeme (.mark m)

/-- Reads a keyword. -/
def word (w : String) : Rule Unit := lexeme (.word w)

/-- Reads a lexeme if it is there, and answers whether it was. -/
def saw (x : Lexeme) : Rule Bool
  | t :: ts => if t.lexeme = x then some (true, ts) else some (false, t :: ts)
  | [] => some (false, [])

/-- Reads a mark if it is there. -/
def sawMark (m : String) : Rule Bool := saw (.mark m)

/-- Reads a keyword if it is there. -/
def sawWord (w : String) : Rule Bool := saw (.word w)

/-- Whether a mark comes next. -/
def isMark (m : String) : Rule Bool := return (← peek) == some (.mark m)

/-- Whether a keyword comes next. -/
def isWord (w : String) : Rule Bool := return (← peek) == some (.word w)

/-- Reads a name: a word that is no keyword. -/
def name : Rule String
  | ⟨.word w, _⟩ :: ts => if keywords.contains w then none else some (w, ts)
  | _ => none

/-- What a rule reads time after time, at most once for every element of the first row. -/
def repeated {α : Type} (r : Rule α) : List Token → Rule (List α)
  | [] => pure []
  | _ :: fuel => fun ts =>
    match r ts with
    | some (x, rest) => (repeated r fuel rest).map fun (xs, left) => (x :: xs, left)
    | none => some ([], ts)

/-- What a rule reads time after time. -/
def many {α : Type} (r : Rule α) : Rule (List α) := fun ts => repeated r ts ts

/-- What a rule reads time after time, at least once. -/
def atLeastOne {α : Type} (r : Rule α) : Rule (List α) := return (← r) :: (← many r)

/-- Items with a mark between them. -/
def separated {α : Type} (m : String) (r : Rule α) : Rule (List α) :=
  return (← r) :: (← many do mark m; r)

/-- Items with commas between them, and whether a comma stands behind the last one. -/
def listed {α : Type} (r : Rule α) : Rule (List α × Bool) :=
  return (← separated "," r, ← sawMark ",")

/-- Succeeds where a condition holds. -/
def require (p : Bool) : Rule Unit := if p then pure () else fail

end Rule

end EnumExport.Source
