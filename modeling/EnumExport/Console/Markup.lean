import EnumExport.Text.Blank
import EnumExport.Text.Case

/-!
# Markup

Texts for the console may hold tags in square brackets, which say how the text is shown. Only what
is left without them matters here, but a closing tag must close one that is open. Backslashes
before a tag make it stand for itself; `escape` puts them where they are needed.
-/

namespace EnumExport.Console

/-- Why a text with tags cannot be shown. -/
inductive MarkupFault
  /-- a closing tag closes nothing that is open -/
  | unopened (tag : String)
  deriving DecidableEq, Repr

/-- Whether a character may begin the inside of a tag. -/
def beginsTag (c : Char) : Bool :=
  ('a' ≤ c && c ≤ 'z') || c == '#' || c == '/' || c == '@'

/-- The characters up to the end of a tag or a character that no tag has. -/
def tagInside (bar : Char) (cs : List Char) : List Char :=
  cs.takeWhile fun c => c ≠ bar && c ≠ ']'

/-- The inside of the tag that begins here, and what is left. No tag has the character `bar` behind
its first one. -/
def tag? (bar : Char) : List Char → Option (List Char × List Char)
  | '[' :: c :: rest =>
    match beginsTag c, rest.drop (tagInside bar rest).length with
    | true, ']' :: left => some (c :: tagInside bar rest, left)
    | _, _ => none
  | _ => none

/-- A part of a text with tags. -/
inductive MarkupPart
  /-- a character -/
  | char (c : Char)
  /-- backslashes and, behind them, a tag -/
  | tag (backslashes : Nat) (inside : List Char)
  deriving DecidableEq, Repr

/-- The backslashes at the front, counted. -/
def backslashes (cs : List Char) : Nat := (cs.takeWhile (· = '\\')).length

theorem length_of_tag? {bar : Char} {cs inside left : List Char}
    (h : tag? bar cs = some (inside, left)) : left.length < cs.length := by
  unfold tag? at h
  split at h
  · rename_i c rest
    split at h
    · rename_i hleft
      cases h
      have := congrArg List.length hleft
      simp at this ⊢
      omega
    · cases h
  · cases h

/-- The parts of a text with tags. -/
def partsOf (bar : Char) : List Char → List MarkupPart
  | [] => []
  | c :: rest =>
    match _h : tag? bar ((c :: rest).drop (backslashes (c :: rest))) with
    | some (inside, left) => .tag (backslashes (c :: rest)) inside :: partsOf bar left
    | none => .char c :: partsOf bar rest
  termination_by cs => cs.length
  decreasing_by
    · exact Nat.lt_of_lt_of_le (length_of_tag? _h) (List.drop_sublist _ _).length_le
    · exact Nat.lt_succ_self _

/-- A tag as it is written. -/
def tagChars (inside : List Char) : List Char := '[' :: inside ++ [']']

/-- The text whose tags stand for themselves. What looks like a tag is sought within one line, also
across opening square brackets. -/
def escape (s : String) : String :=
  let cs := (partsOf '\n' s.toList).flatMap fun
    | .char c => [c]
    | .tag n inside => List.replicate (2 * n + 1) '\\' ++ tagChars inside
  let s := String.ofList cs
  if s.endsWith "\\" && !s.endsWith "\\\\" then s ++ "\\" else s

/-- The short names of ways to show a text. -/
def shortStyles : List (String × String) :=
  [("d", "dim"), ("b", "bold"), ("i", "italic"), ("u", "underline"), ("r", "reverse"),
    ("c", "conceal"), ("o", "overline"), ("s", "strike"), ("uu", "underline2")]

/-- The name of a way to show a text, spelled out. -/
def styleName (s : String) : String :=
  let s := Text.lower (Text.strip s)
  ((shortStyles.find? fun p => p.1 == s).map Prod.snd).getD s

/-- The first name in a list taken out. -/
def dropFirst? (name : String) : List String → Option (List String)
  | [] => none
  | n :: ns => if n = name then some ns else (dropFirst? name ns).map (n :: ·)

/-- The open tags behind a tag, innermost first. -/
def openAfter (opened : List String) (inside : List Char) : Except MarkupFault (List String) :=
  match inside.takeWhile (· ≠ '=') with
  | '/' :: name =>
    let name := String.ofList name
    let fault := MarkupFault.unopened (String.ofList inside)
    if (Text.strip name).isEmpty then
      match opened with
      | [] => .error fault
      | _ :: rest => .ok rest
    else match dropFirst? (styleName name) opened with
      | some rest => .ok rest
      | none => .error fault
  | name => .ok (styleName (String.ofList name) :: opened)

/-- The characters without backslashes before opening square brackets. -/
def unescaped : List Char → List Char
  | [] => []
  | '\\' :: '[' :: rest => '[' :: unescaped rest
  | c :: rest => c :: unescaped rest

/-- What is left of the parts of a text without its tags. `pending` are the characters since the
last tag, last first. -/
def plainParts (opened : List String) (pending : List Char) :
    List MarkupPart → Except MarkupFault (List Char)
  | [] => .ok (unescaped pending.reverse)
  | .char c :: parts => plainParts opened (c :: pending) parts
  | .tag n inside :: parts => do
    let before := unescaped pending.reverse ++ List.replicate (n / 2) '\\'
    if n % 2 = 1 then return before ++ tagChars inside ++ (← plainParts opened [] parts)
    return before ++ (← plainParts (← openAfter opened inside) [] parts)

/-- What is left of a text without its tags. -/
def plain (s : String) : Except MarkupFault (List Char) :=
  if s.toList.contains '[' then plainParts [] [] (partsOf '[' s.toList) else .ok s.toList

end EnumExport.Console
