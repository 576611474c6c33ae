/-!
# Wildcard patterns

In a pattern `*` stands for any text, `?` for any character, and a set in square brackets for one
of its characters, or with an exclamation mark for any other. All else stands for itself, and so
does a square bracket that is never closed.
-/

namespace EnumExport.Text

/-- A part of a pattern. -/
inductive GlobPart
  /-- any text -/
  | any
  /-- any character -/
  | one
  /-- this character -/
  | char (c : Char)
  /-- a character in one of the ranges, or in none of them -/
  | set (negated : Bool) (ranges : List (Char × Char))
  deriving DecidableEq, Repr

/-- The ranges that the inside of a set spells; a range that ends before it begins is left out. -/
def globRanges : List Char → List (Char × Char)
  | [] => []
  | [a] => [(a, a)]
  | [a, b] => [(a, a), (b, b)]
  | a :: b :: c :: rest =>
    if b = '-' then
      if a ≤ c then (a, c) :: globRanges rest else globRanges rest
    else (a, a) :: globRanges (b :: c :: rest)

/-- The set that its inside spells. It is negated when an exclamation mark comes first, also behind
ranges that are left out. -/
def globSet (inside : List Char) : GlobPart :=
  match inside with
  | '!' :: rest => .set true (globRanges rest)
  | rest => match globRanges rest with
    | ('!', '!') :: ranges => .set true ranges
    | ranges => .set false ranges

/-- The number of characters inside a set, behind its opening bracket. What closes it does not come
first. -/
def globSetSize? (cs : List Char) : Option Nat :=
  let front := match cs with
    | '!' :: ']' :: _ => 2
    | '!' :: _ => 1
    | ']' :: _ => 1
    | _ => 0
  let n := front + ((cs.drop front).takeWhile (· ≠ ']')).length
  if n < cs.length then some n else none

/-- The parts that a pattern spells; a number of characters at its front are already read. -/
def globParts (passed : Nat) : List Char → List GlobPart
  | [] => []
  | c :: rest =>
    match passed with
    | n + 1 => globParts n rest
    | 0 =>
      if c = '*' then .any :: globParts 0 rest
      else if c = '?' then .one :: globParts 0 rest
      else if c = '[' then
        match globSetSize? rest with
        | some n => globSet (rest.take n) :: globParts (n + 1) rest
        | none => .char c :: globParts 0 rest
      else .char c :: globParts 0 rest

/-- Whether a part that stands for one character stands for this one. -/
def GlobPart.accepts (c : Char) : GlobPart → Bool
  | .any => false
  | .one => true
  | .char d => c == d
  | .set negated ranges => (ranges.any fun r => r.1 ≤ c && c ≤ r.2) != negated

/-- A text and all that is left of it behind a front. -/
def suffixes : List Char → List (List Char)
  | [] => [[]]
  | c :: rest => (c :: rest) :: suffixes rest

/-- Whether parts stand for a text as a whole. -/
def globMatches : List GlobPart → List Char → Bool
  | [], cs => cs.isEmpty
  | .any :: ps, cs => (suffixes cs).any (globMatches ps)
  | p :: ps, cs =>
    match cs with
    | [] => false
    | c :: rest => p.accepts c && globMatches ps rest

/-- Whether a text matches a pattern. -/
def matchesGlob (pattern s : String) : Bool :=
  globMatches (globParts 0 pattern.toList) s.toList

end EnumExport.Text
