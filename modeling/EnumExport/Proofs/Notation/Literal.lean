import EnumExport.Proofs.Notation.Text
import EnumExport.Proofs.Notation.Word
import EnumExport.Proofs.Value.Scalar

/-!
# Single-quoted literals

What a script takes a single-quoted literal for, by the rules of the language and whatever wrote it:
`readLiteral?` reads one at the start of some characters. The value of a literal is a row of units of
sixteen bits, of which a character beyond the first 65536 has two. So the reading is in two steps,
`readUnits` up to the closing quote and `ofUnits?` back to characters.

* What is written for a character is read as its units, and no further: `readUnits_escapedChar`, one
  case for each way to write a character. So whole texts are read back, `readUnits_literal`.
* No character of a literal ends a line: `not_isLineEnd_of_mem_literal`.
* `literals_read_back` puts these together; that literals tell what they were written for follows.
-/

namespace EnumExport.Notation

/-! ## Units -/

/-- The units of the character of a number. -/
def unitsOf (n : Nat) : List Nat :=
  if n < 0x10000 then [n]
  else [0xd800 + (n - 0x10000) / 0x400, 0xdc00 + (n - 0x10000) % 0x400]

/-- The units of a text. -/
def textUnits (cs : List Char) : List Nat := cs.flatMap fun c => unitsOf c.toNat

/-- The characters with some units, unless one half of a pair stands alone. -/
def ofUnits? : List Nat → Option (List Char)
  | [] => some []
  | n :: ns =>
    if n.isValidChar then (ofUnits? ns).map (Char.ofNat n :: ·)
    else match ns with
      | [] => none
      | m :: ns => (pairOf? n m).bind fun c => (ofUnits? ns).map (c :: ·)

theorem ofUnits?_unitsOf (c : Char) (ns : List Nat) :
    ofUnits? (unitsOf c.toNat ++ ns) = (ofUnits? ns).map (c :: ·) := by
  have hvalid : c.toNat.isValidChar := c.valid
  by_cases hone : c.toNat < 0x10000
  · rw [unitsOf, if_pos hone, List.singleton_append, ofUnits?.eq_def]
    simp only [hvalid, if_true, Char.ofNat_toNat]
  · have hsmall : c.toNat < 0x110000 := by
      rcases hvalid with h | ⟨-, h⟩
      · exact Nat.lt_trans h (by decide)
      · exact h
    have hhigh : ¬ (0xd800 + (c.toNat - 0x10000) / 0x400).isValidChar := by
      rintro (h | ⟨h, -⟩) <;> omega
    have hpair : pairOf? (0xd800 + (c.toNat - 0x10000) / 0x400)
        (0xdc00 + (c.toNat - 0x10000) % 0x400) = some c := by
      have hnumber : 0x10000 + (0xd800 + (c.toNat - 0x10000) / 0x400 - 0xd800) * 0x400 +
          (0xdc00 + (c.toNat - 0x10000) % 0x400 - 0xdc00) = c.toNat := by omega
      rw [pairOf?, if_pos (by omega), hnumber, Char.ofNat_toNat]
    rw [unitsOf, if_neg hone, List.cons_append, List.singleton_append, ofUnits?.eq_def]
    simp only [hhigh, if_false, hpair, Option.bind_some]

/-- A text is told by its units. -/
theorem ofUnits?_textUnits (cs : List Char) : ofUnits? (textUnits cs) = some cs := by
  induction cs with
  | nil => rfl
  | cons c cs ih =>
    rw [textUnits] at ih ⊢
    rw [List.flatMap_cons, ofUnits?_unitsOf, ih]
    rfl

/-! ## Reading -/

/-- Whether a character ends a line. -/
def isLineEnd (c : Char) : Bool := c == '\n' || c == '\r' || c == '\u2028' || c == '\u2029'

/-- The unit that a letter behind a backslash stands for, where it does not stand for itself. -/
def letterUnit? : Char → Option Nat
  | 'b' => some 8
  | 't' => some 9
  | 'n' => some 10
  | 'v' => some 11
  | 'f' => some 12
  | 'r' => some 13
  | _ => none

/-- The number between curly brackets, of which the first has been read, and what follows. -/
def bracedNumber? (cs : List Char) : Option (Nat × List Char) :=
  let digits := cs.takeWhile (· != '\x7d')
  match hexNumber? digits, cs.dropWhile (· != '\x7d') with
  | some n, _ :: rest => if digits ≠ [] ∧ n < 0x110000 then some (n, rest) else none
  | _, _ => none

/-- What an escape stands for, from the characters behind its backslash, and what follows. The end of
a line stands for nothing, and so the literal goes on with the next line. A digit stands for nothing
that a module may write, except for a zero that no digit follows. -/
def escape? : List Char → Option (List Nat × List Char)
  | [] => none
  | '\r' :: '\n' :: cs => some ([], cs)
  | 'u' :: '\x7b' :: cs => (bracedNumber? cs).map fun p => (unitsOf p.1, p.2)
  | 'u' :: a :: b :: e :: f :: cs => (hexNumber? [a, b, e, f]).map fun n => ([n], cs)
  | 'x' :: a :: b :: cs => (hexNumber? [a, b]).map fun n => ([n], cs)
  | c :: cs =>
    if isLineEnd c then some ([], cs)
    else if c = '0' ∧ ¬ cs.head?.any Char.isDigit then some ([0], cs)
    else if c.isDigit ∨ c = 'x' ∨ c = 'u' then none
    else match letterUnit? c with
      | some n => some ([n], cs)
      | none => some (unitsOf c.toNat, cs)

theorem length_of_bracedNumber? {cs rest : List Char} {n : Nat}
    (h : bracedNumber? cs = some (n, rest)) : rest.length < cs.length := by
  have hdrop : (cs.dropWhile (· != '\x7d')).length ≤ cs.length := by
    exact (List.dropWhile_suffix _).length_le
  unfold bracedNumber? at h
  dsimp only at h
  split at h
  · next hrest =>
    split at h
    · cases h
      rw [hrest, List.length_cons] at hdrop
      omega
    · cases h
  · cases h

theorem length_of_escape? {cs rest : List Char} {units : List Nat}
    (h : escape? cs = some (units, rest)) : rest.length < cs.length := by
  unfold escape? at h
  split at h
  · cases h
  · cases h
    simp only [List.length_cons]
    omega
  · obtain ⟨p, hp, hrest⟩ := Option.map_eq_some_iff.mp h
    cases hrest
    have hlength := length_of_bracedNumber? hp
    simp only [List.length_cons]
    omega
  · obtain ⟨n, -, hrest⟩ := Option.map_eq_some_iff.mp h
    cases hrest
    simp only [List.length_cons]
    omega
  · obtain ⟨n, -, hrest⟩ := Option.map_eq_some_iff.mp h
    cases hrest
    simp only [List.length_cons]
    omega
  · repeat' split at h
    all_goals cases h
    all_goals simp

/-- Some units in front of what has been read. -/
def pushUnits (units : List Nat) (read : Option (List Nat × List Char)) :
    Option (List Nat × List Char) :=
  read.map fun p => (units ++ p.1, p.2)

/-- Reads the units of a literal up to its closing quote. Of what ends a line, the two separators may
stand in a literal as they are. -/
def readUnits : List Char → Option (List Nat × List Char)
  | [] => none
  | '\'' :: cs => some ([], cs)
  | '\\' :: cs =>
    match h : escape? cs with
    | some (units, rest) =>
      have := length_of_escape? h
      pushUnits units (readUnits rest)
    | none => none
  | c :: cs => if c = '\n' ∨ c = '\r' then none else pushUnits (unitsOf c.toNat) (readUnits cs)
termination_by cs => cs.length

/-- The text of the literal at the start of some characters, and what follows. -/
def readLiteral? : List Char → Option (String × List Char)
  | '\'' :: cs => (readUnits cs).bind fun p => (ofUnits? p.1).map fun t => (String.ofList t, p.2)
  | _ => none

/-! ## One character -/

theorem readUnits_escape {cs rest : List Char} {units : List Nat}
    (h : escape? cs = some (units, rest)) :
    readUnits ('\\' :: cs) = pushUnits units (readUnits rest) := by
  rw [readUnits]
  split
  · next hread =>
    rw [h] at hread
    cases hread
    rfl
  · next hread =>
    rw [h] at hread
    cases hread

theorem readUnits_raw {c : Char} (hq : c ≠ '\'') (hb : c ≠ '\\') (hn : c ≠ '\n') (hr : c ≠ '\r')
    (cs : List Char) : readUnits (c :: cs) = pushUnits (unitsOf c.toNat) (readUnits cs) := by
  rw [readUnits]
  · exact if_neg fun h => h.elim hn hr
  · exact hq
  · exact hb

theorem escape?_byte {n : Nat} (hn : n < 16 ^ 2) (cs : List Char) :
    escape? ('x' :: Text.hexDigits 2 n ++ cs) = some ([n], cs) := by
  have hread := hexNumber?_hexDigits 2 n hn
  obtain ⟨a, b, hdigits⟩ := hexDigits_two n
  rw [hdigits] at hread ⊢
  simp only [List.cons_append, List.nil_append, escape?, hread, Option.map_some]

/-- What is written for a character is read as its units, and no further. -/
theorem readUnits_escapedChar (c : Char) (cs : List Char) :
    readUnits (Script.escapedChar c ++ cs) = pushUnits (unitsOf c.toNat) (readUnits cs) := by
  unfold Script.escapedChar
  split_ifs with h₁ h₂ h₃ h₄ h₅ h₆ h₇
  · rcases h₁ with rfl | rfl <;> exact readUnits_escape rfl
  · subst h₂; exact readUnits_escape rfl
  · subst h₃; exact readUnits_escape rfl
  · subst h₄; exact readUnits_escape rfl
  · subst h₅; exact readUnits_escape rfl
  · subst h₆; exact readUnits_escape rfl
  · have hunits : unitsOf c.toNat = [c.toNat] := if_pos (by omega)
    rw [hunits]
    exact readUnits_escape (escape?_byte (by omega) cs)
  · obtain ⟨hback, hquote⟩ := not_or.mp h₁
    exact readUnits_raw hquote hback h₂ h₃ cs

/-! ## Whole texts -/

/-- The characters of a text up to the closing quote are read as the units of the text. -/
theorem readUnits_literal (cs rest : List Char) :
    readUnits (cs.flatMap Script.escapedChar ++ '\'' :: rest) = some (textUnits cs, rest) := by
  induction cs with
  | nil =>
    rw [List.flatMap_nil, List.nil_append, readUnits]
    rfl
  | cons c cs ih =>
    rw [List.flatMap_cons, List.append_assoc, readUnits_escapedChar, ih]
    rfl

theorem readLiteral?_textLiteral (s : String) (rest : List Char) :
    readLiteral? ((Script.textLiteral s).toList ++ rest) = some (s, rest) := by
  have hchars : (Script.textLiteral s).toList ++ rest =
      '\'' :: (s.toList.flatMap Script.escapedChar ++ '\'' :: rest) := by
    simp [Script.textLiteral, Script.literalChars]
  rw [hchars, readLiteral?, readUnits_literal, Option.bind_some, ofUnits?_textUnits,
    Option.map_some, String.ofList_toList]

/-! ## Lines -/

theorem not_isLineEnd_of_mem_hexDigits {width n : Nat} {c : Char} (h : c ∈ Text.hexDigits width n) :
    isLineEnd c = false := by
  have hdigit : ∀ m < 16, isLineEnd (Nat.digitChar m) = false := by decide
  induction width generalizing n with
  | zero => cases h
  | succ width ih =>
    rcases List.mem_append.mp h with h | h
    · exact ih h
    · rw [List.mem_singleton.mp h]
      exact hdigit (n % 16) (Nat.mod_lt n (by decide))

theorem not_isLineEnd_of_mem_escapedChar {c e : Char} (h : e ∈ Script.escapedChar c) :
    isLineEnd e = false := by
  have hall : ∀ {cs : List Char}, cs.all (fun d => !isLineEnd d) = true → e ∈ cs →
      isLineEnd e = false := by
    intro cs hcs he
    simpa using List.all_eq_true.mp hcs e he
  unfold Script.escapedChar at h
  split_ifs at h with h₁ h₂ h₃ h₄ h₅ h₆ h₇
  · rcases h₁ with rfl | rfl <;> exact hall (by decide) h
  · exact hall (by decide) h
  · exact hall (by decide) h
  · exact hall (by decide) h
  · exact hall (by decide) h
  · exact hall (by decide) h
  · simp only [List.mem_cons] at h
    rcases h with rfl | rfl | h
    · decide
    · decide
    · exact not_isLineEnd_of_mem_hexDigits h
  · -- all that ends a line has been escaped by now
    rw [List.mem_singleton.mp h]
    simp [isLineEnd, h₂, h₃, h₅, h₆]

/-- No character of a literal ends a line. -/
theorem not_isLineEnd_of_mem_literal {cs : List Char} {e : Char} (h : e ∈ Script.literalChars cs) :
    isLineEnd e = false := by
  simp only [Script.literalChars, List.cons_append, List.mem_cons, List.mem_append,
    List.mem_flatMap, List.not_mem_nil, or_false] at h
  rcases h with rfl | ⟨c, -, h⟩ | rfl
  · decide
  · exact not_isLineEnd_of_mem_escapedChar h
  · decide

end EnumExport.Notation

namespace EnumExport.Script

open Notation

/-! ## Literals of scalars -/

/-- The value that is a scalar and nothing else. -/
def plainValue : Scalar → Value
  | .text s => .text s
  | .number i => .int i

/-- How a scalar is written. -/
def scalarLiteral : Scalar → String
  | .text s => textLiteral s
  | .number i => toString i

theorem literal_plainValue (a : Scalar) : literal (plainValue a) = .ok (scalarLiteral a) := by
  cases a with
  | text s => rfl
  | number i =>
    have hrender : Json.render .compact (.int i) = toString i := by
      rw [Json.render, Json.chars, String.ofList_toList]
    exact congrArg Except.ok hrender

theorem textLiteral_injective : Function.Injective textLiteral := by
  intro s t heq
  have hs := readLiteral?_textLiteral s []
  rw [heq, readLiteral?_textLiteral t []] at hs
  exact (congrArg Prod.fst (Option.some.inj hs)).symm

theorem textLiteral_ne_toString (s : String) (i : Int) : textLiteral s ≠ toString i := by
  intro heq
  have hquote : '\'' ∈ (toString i).toList := by
    rw [← heq, textLiteral, String.toList_ofList]
    exact List.mem_cons_self
  exact absurd (isWordChar_of_mem_toString hquote) (by decide)

theorem toString_int_injective : Function.Injective (toString : Int → String) := by
  intro i j heq
  have hi := intOf?_toString i
  rw [heq, intOf?_toString j] at hi
  exact (Option.some.inj hi).symm

theorem scalarLiteral_injective : Function.Injective scalarLiteral := by
  intro a b heq
  cases a with
  | text s =>
    cases b with
    | text t => exact congrArg Scalar.text (textLiteral_injective heq)
    | number j => exact absurd heq (textLiteral_ne_toString s j)
  | number i =>
    cases b with
    | text t => exact absurd heq.symm (textLiteral_ne_toString t i)
    | number j => exact congrArg Scalar.number (toString_int_injective heq)

/-- **Literals read back.** Whatever follows the literal of a text, a script reads the text at its
start and goes on just behind it; no line ends within the literal. So a literal tells the text that
it was written for, and among texts and whole numbers it tells which of them. -/
theorem literals_read_back :
    (∀ s t : String, readLiteral? (textLiteral s ++ t).toList = some (s, t.toList)) ∧
    (∀ s : String, ∀ c ∈ (textLiteral s).toList, isLineEnd c = false) ∧
    Function.Injective textLiteral ∧
    (∀ a, literal (plainValue a) = .ok (scalarLiteral a)) ∧
    Function.Injective scalarLiteral := by
  refine ⟨?_, ?_, textLiteral_injective, literal_plainValue, scalarLiteral_injective⟩
  · intro s t
    rw [String.toList_append]
    exact readLiteral?_textLiteral s t.toList
  · intro s c hc
    rw [textLiteral, String.toList_ofList] at hc
    exact not_isLineEnd_of_mem_literal hc

/-- Also what no module writes is read: a number in brackets, and a line that goes on. -/
example : readLiteral? "'\\u\x7b1f600\x7d\\\n\\v' + x".toList = some ("😀\x0b", " + x".toList) := by
  cbv

end EnumExport.Script
