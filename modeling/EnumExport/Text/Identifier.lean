import EnumExport.Text.Ranges
import EnumExport.Text.IdentifierTable

/-!
# Identifiers

A text is an identifier when its first character may begin one (a letter or an underscore) and
each further character may go on in one (letters, digits, underscores and marks). Both classes
are the Unicode ones, so letters of every script count.
-/

namespace EnumExport.Text

/-- Whether a character may begin an identifier. -/
def isIdentifierStart (c : Char) : Bool :=
  if c.toNat < 128 then c.isAlpha || c == '_' else inRanges identifierStartRanges c.toNat

/-- Whether a character may go on in an identifier. -/
def isIdentifierPart (c : Char) : Bool :=
  if c.toNat < 128 then c.isAlphanum || c == '_'
  else inRanges identifierStartRanges c.toNat || inRanges identifierPartRanges c.toNat

/-- Whether the characters spell an identifier. -/
def isIdentifierChars : List Char → Bool
  | [] => false
  | c :: rest => isIdentifierStart c && rest.all isIdentifierPart

/-- Whether a text is an identifier. -/
def isIdentifier (s : String) : Bool :=
  isIdentifierChars s.toList

/-- Whether every character is an ASCII one. -/
def isAscii (s : String) : Bool :=
  s.toList.all fun c => decide (c.toNat < 128)

/-- What begins an identifier also goes on in one. -/
theorem isIdentifierPart_of_isIdentifierStart {c : Char} (h : isIdentifierStart c = true) :
    isIdentifierPart c = true := by
  unfold isIdentifierStart at h
  unfold isIdentifierPart
  split at h
  · simp_all [Char.isAlphanum]
    grind
  · simp_all

/-- The empty text is no identifier. -/
theorem isIdentifier_empty : isIdentifier "" = false := rfl

end EnumExport.Text
