import EnumExport.Text.Ranges
import EnumExport.Text.CaseTable

/-!
# Letter case

Capital and small forms of a text by the Unicode case mappings. A letter may have a partner of
several characters (`ß` becomes `SS`). One rule looks at the surroundings: a capital sigma at the
end of a word becomes the final sigma.
-/

namespace EnumExport.Text

/-- The partner of a code point in a table of runs. -/
def partner? (runs : List CaseRun) (n : Nat) : Option Nat :=
  (runs.find? fun r => decide (r.first ≤ n) && decide (n ≤ r.last) &&
    decide ((n - r.first) % r.step = 0)).map fun r => ((n : Int) + r.shift).toNat

/-- The capital form of a character. -/
def upperChar (c : Char) : List Char :=
  if c.toNat < 128 then [c.toUpper]
  else match upperSpecials.lookup c.toNat with
    | some cs => cs.map Char.ofNat
    | none => [((partner? upperRuns c.toNat).map Char.ofNat).getD c]

/-- The small form of a character, away from its surroundings. -/
def lowerChar (c : Char) : List Char :=
  if c.toNat < 128 then [c.toLower]
  else match lowerSpecials.lookup c.toNat with
    | some cs => cs.map Char.ofNat
    | none => [((partner? lowerRuns c.toNat).map Char.ofNat).getD c]

/-- Whether a word's case passes over the character. -/
def isCaseIgnorable (c : Char) : Bool :=
  inRanges caseIgnorableRanges c.toNat

/-- Whether the character is a letter with a case that is not passed over. -/
def isCased (c : Char) : Bool :=
  inRanges casedRanges c.toNat

/-- Whether the nearest character that is not passed over is a cased letter. -/
def touchesCased (cs : List Char) : Bool :=
  match cs.dropWhile isCaseIgnorable with
  | [] => false
  | c :: _ => isCased c

/-- The small form of the characters, `before` being those already passed, nearest first. -/
def lowerFrom (before : List Char) : List Char → List Char
  | [] => []
  | c :: rest =>
    let here :=
      if c.toNat = 0x3a3 then
        if touchesCased before && !touchesCased rest then [Char.ofNat 0x3c2] else [Char.ofNat 0x3c3]
      else lowerChar c
    here ++ lowerFrom (c :: before) rest

/-- The text in capitals. -/
def upper (s : String) : String :=
  String.ofList (s.toList.flatMap upperChar)

/-- The text in small letters. -/
def lower (s : String) : String :=
  String.ofList (lowerFrom [] s.toList)

/-- The text with its first character in its capital form. -/
def upperFirst (s : String) : String :=
  match s.toList with
  | [] => ""
  | c :: rest => String.ofList (upperChar c ++ rest)

end EnumExport.Text
