import EnumExport.Json.Printer
import EnumExport.Proofs.Notation.Reader
import EnumExport.Script.Literal
import Mathlib.Algebra.Group.Nat.Defs
import Mathlib.Tactic.SplitIfs

/-!
# Texts read back

A text is written by escaping its characters one by one between two quotes, so reading it back is a
matter of single characters: `Escapes d q esc` says that what `esc` writes for a character is read as
that character. It holds of the escapes of JSON in both dialects and of those of single-quoted
literals in a script; `Escapes.readText` puts the characters together.
-/

namespace EnumExport.Notation

/-! ## Hexadecimal digits -/

theorem hexDigit?_digitChar : ∀ n < 16, hexDigit? (Nat.digitChar n) = some n := by decide

theorem hexNumber?_hexDigits (width n : Nat) (h : n < 16 ^ width) :
    hexNumber? (Text.hexDigits width n) = some n := by
  induction width generalizing n with
  | zero =>
    obtain rfl : n = 0 := by simpa using h
    rfl
  | succ w ih =>
    have hfront := ih (n / 16) (by rw [Nat.pow_succ] at h; omega)
    have hlast := hexDigit?_digitChar (n % 16) (by omega)
    rw [hexNumber?] at hfront ⊢
    rw [Text.hexDigits, List.foldlM_append, hfront]
    simp [hlast]
    omega

theorem hexDigits_four (n : Nat) :
    ∃ a b e f, Text.hexDigits 4 n = [a, b, e, f] := ⟨_, _, _, _, rfl⟩

theorem hexDigits_two (n : Nat) : ∃ a b, Text.hexDigits 2 n = [a, b] := ⟨_, _, rfl⟩

/-! ## One character -/

/-- What `esc` writes for a character is read as that character, and no further. -/
def Escapes (d : Dialect) (q : Char) (esc : Char → List Char) : Prop :=
  ∀ c cs, readText d q (esc c ++ cs) = push c (readText d q cs)

theorem readText_escaped {d : Dialect} {q c e : Char} {cs : List Char} (hq : q ≠ '\\')
    (hu : c ≠ 'u') (hx : c ≠ 'x') (he : unescape? d c = some e) :
    readText d q ('\\' :: c :: cs) = push e (readText d q cs) := by
  rw [readText.eq_def]
  simp only [Ne.symm hq, if_false, if_true]
  split
  · next h => exact absurd (List.cons.inj h).1 hu
  · next h => exact absurd (List.cons.inj h).1 hx
  · next h =>
    obtain ⟨rfl, rfl⟩ := List.cons.inj h
    simp only [he]
  · next h => cases h

theorem readText_raw {d : Dialect} {q c : Char} {cs : List Char} (hq : c ≠ q) (hb : c ≠ '\\')
    (hr : standsRaw d c = true) : readText d q (c :: cs) = push c (readText d q cs) := by
  rw [readText.eq_def]
  simp only [hq, hb, hr, if_false, if_true]

theorem readText_unit {d : Dialect} {q : Char} {n : Nat} (cs : List Char) (hq : q ≠ '\\')
    (hn : n < 16 ^ 4) (hv : n.isValidChar) :
    readText d q ('\\' :: 'u' :: Text.hexDigits 4 n ++ cs) =
      push (Char.ofNat n) (readText d q cs) := by
  have hread := hexNumber?_hexDigits 4 n hn
  obtain ⟨a, b, e, f, hdigits⟩ := hexDigits_four n
  rw [hdigits] at hread ⊢
  rw [readText.eq_def]
  simp only [List.cons_append, List.nil_append, Ne.symm hq, if_false, if_true, hread, hv]

theorem readText_byte {q : Char} {n : Nat} (cs : List Char) (hq : q ≠ '\\') (hn : n < 16 ^ 2) :
    readText .script q ('\\' :: 'x' :: Text.hexDigits 2 n ++ cs) =
      push (Char.ofNat n) (readText .script q cs) := by
  have hread := hexNumber?_hexDigits 2 n hn
  obtain ⟨a, b, hdigits⟩ := hexDigits_two n
  rw [hdigits] at hread ⊢
  rw [readText.eq_def]
  simp only [List.cons_append, List.nil_append, Ne.symm hq, if_false, if_true, hread]

theorem isValidChar_of_lt {n : Nat} (h : n < 32) : n.isValidChar := Or.inl (by omega)

/-- The escapes of JSON, in both dialects. -/
theorem escapes_json (d : Dialect) : Escapes d '"' Json.escapedChar := by
  intro c cs
  unfold Json.escapedChar
  have hq : '"' ≠ '\\' := by decide
  split_ifs with h₁ h₂ h₃ h₄ h₅ h₆ h₇
  · rcases h₁ with rfl | rfl <;> exact readText_escaped hq (by decide) (by decide) rfl
  · subst h₂; exact readText_escaped hq (by decide) (by decide) rfl
  · subst h₃; exact readText_escaped hq (by decide) (by decide) rfl
  · subst h₄; exact readText_escaped hq (by decide) (by decide) rfl
  · subst h₅; exact readText_escaped hq (by decide) (by decide) rfl
  · subst h₆; exact readText_escaped hq (by decide) (by decide) rfl
  · have := readText_unit (d := d) cs hq (by omega) (isValidChar_of_lt h₇)
    rwa [Char.ofNat_toNat] at this
  · obtain ⟨hquote, hback⟩ := not_or.mp h₁
    refine readText_raw hquote hback ?_
    cases d
    · simpa [standsRaw] using h₇
    · simp [standsRaw, h₂, h₃]

/-- The escapes of single-quoted literals, in a script. -/
theorem escapes_literal : Escapes .script '\'' Script.escapedChar := by
  intro c cs
  unfold Script.escapedChar
  have hq : '\'' ≠ '\\' := by decide
  split_ifs with h₁ h₂ h₃ h₄ h₅ h₆ h₇
  · rcases h₁ with rfl | rfl <;> exact readText_escaped hq (by decide) (by decide) rfl
  · subst h₂; exact readText_escaped hq (by decide) (by decide) rfl
  · subst h₃; exact readText_escaped hq (by decide) (by decide) rfl
  · subst h₄; exact readText_escaped hq (by decide) (by decide) rfl
  · subst h₅; exact readText_unit (n := 0x2028) cs hq (by decide) (by decide)
  · subst h₆; exact readText_unit (n := 0x2029) cs hq (by decide) (by decide)
  · have := readText_byte (n := c.toNat) cs hq (by omega)
    rwa [Char.ofNat_toNat] at this
  · obtain ⟨hback, hquote⟩ := not_or.mp h₁
    exact readText_raw hquote hback (by simp [standsRaw, h₂, h₃])

/-! ## Whole texts -/

/-- A text between quotes is read back, and what follows it is left over. -/
theorem Escapes.readText {d : Dialect} {q : Char} {esc : Char → List Char}
    (hesc : Escapes d q esc) (cs rest : List Char) :
    Notation.readText d q (cs.flatMap esc ++ q :: rest) = some (cs, rest) := by
  induction cs with
  | nil =>
    rw [List.flatMap_nil, List.nil_append, readText.eq_def]
    exact if_pos rfl
  | cons c cs ih =>
    rw [List.flatMap_cons, List.append_assoc, hesc, ih]
    rfl

end EnumExport.Notation
