import EnumExport.Proofs.Notation.Reader

/-!
# Words and numbers read back

A word is read as far as its characters go. So that a word in front of other characters is read as
it stands, those must not go on with it: `EndsWord`.
-/

namespace EnumExport.Notation

/-! ## Where a word ends -/

/-- The characters do not go on with a word. -/
def EndsWord (cs : List Char) : Prop := ∀ c ∈ cs.head?, isWordChar c = false

theorem endsWord_nil : EndsWord [] := by simp [EndsWord]

theorem endsWord_cons {c : Char} (cs : List Char) (h : isWordChar c = false) :
    EndsWord (c :: cs) := by simpa [EndsWord] using h

theorem takeWhile_word {word rest : List Char} (hw : ∀ c ∈ word, isWordChar c = true)
    (hr : EndsWord rest) : (word ++ rest).takeWhile isWordChar = word := by
  rw [List.takeWhile_append_of_pos hw]
  cases rest with
  | nil => simp
  | cons c cs => simp [hr c (by simp)]

theorem dropWhile_word {word rest : List Char} (hw : ∀ c ∈ word, isWordChar c = true)
    (hr : EndsWord rest) : (word ++ rest).dropWhile isWordChar = rest := by
  rw [List.dropWhile_append_of_pos hw]
  cases rest with
  | nil => simp
  | cons c cs => simp [hr c (by simp)]

/-- What belongs to a word neither separates nor opens anything else. -/
theorem isWordChar_opens {c : Char} (h : isWordChar c = true) :
    isBlank c = false ∧ c ≠ '[' ∧ c ≠ '\x7b' ∧ ∀ d, isQuote d c = false := by
  have hne : ∀ e : Char, isWordChar e = false → c ≠ e := by
    rintro e he rfl
    rw [h] at he
    cases he
  have hspace := hne ' ' (by decide)
  have hline := hne '\n' (by decide)
  have hreturn := hne '\r' (by decide)
  have htab := hne '\t' (by decide)
  have hdouble := hne '"' (by decide)
  have hsingle := hne '\'' (by decide)
  refine ⟨?_, hne _ (by decide), hne _ (by decide), fun d => ?_⟩
  · simp [isBlank, hspace, hline, hreturn, htab]
  · simp [isQuote, hdouble, hsingle]

theorem skipBlanks_cons {c : Char} {cs : List Char} (h : isBlank c = false) :
    skipBlanks (c :: cs) = c :: cs := by simp [skipBlanks, h]

/-- A word is read as its value. -/
theorem readValue_word {d : Dialect} {fuel : Nat} (word : List Char) {rest : List Char}
    (hne : word ≠ []) (hw : ∀ c ∈ word, isWordChar c = true) (hfrozen : word ≠ "Object.freeze".toList)
    (hr : EndsWord rest) :
    readValue d (fuel + 1) (word ++ rest) = (wordValue? word).map fun v => (v, rest) := by
  obtain ⟨c, cs, rfl⟩ := List.exists_cons_of_ne_nil hne
  obtain ⟨hblank, hsquare, hcurly, hquote⟩ := isWordChar_opens (hw c (by simp))
  have htake := takeWhile_word hw hr
  have hdrop := dropWhile_word hw hr
  rw [List.cons_append] at htake hdrop ⊢
  rw [readValue, skipBlanks_cons hblank]
  -- of the ways to begin a value only the one of words is left
  split
  · next h => cases h
  · next h => exact absurd (List.cons.inj h).1 hsquare
  · next h => exact absurd (List.cons.inj h).1 hcurly
  · next c' cs' _ _ h =>
    obtain ⟨rfl, rfl⟩ := List.cons.inj h
    simp only [hquote d, Bool.false_eq_true, if_false, htake, hdrop]
    rw [if_neg fun h => hfrozen h.2]

/-! ## Numbers -/

theorem isWordChar_of_isDigit {c : Char} (h : c.isDigit = true) : isWordChar c = true := by
  simp [isWordChar, Char.isAlphanum, h]

theorem isDigit_of_mem_toDigits {n : Nat} {c : Char} (h : c ∈ Nat.toDigits 10 n) :
    c.isDigit = true := Nat.isDigit_of_mem_toDigits (by decide) (by decide) h

/-- A positive number is not written with a zero in front. -/
theorem head?_toDigits {n : Nat} (hn : 0 < n) : (Nat.toDigits 10 n).head? ≠ some '0' := by
  induction n using Nat.strongRecOn with
  | ind n ih =>
    rw [Nat.toDigits_eq_if (by decide)]
    split
    · next hlt =>
      have : ∀ m < 10, 0 < m → Nat.digitChar m ≠ '0' := by decide
      simpa using this n hlt hn
    · next hge =>
      -- the digit in front is that of the number without its last digit
      have hfront := ih (n / 10) (by omega) (by omega)
      rw [List.head?_append]
      cases h : (Nat.toDigits 10 (n / 10)).head? with
      | none => exact absurd (List.head?_eq_none_iff.mp h) Nat.toDigits_ne_nil
      | some c =>
        rw [h] at hfront
        exact hfront

theorem natOf?_toDigits (n : Nat) : natOf? (Nat.toDigits 10 n) = some n := by
  have hall : (Nat.toDigits 10 n).all Char.isDigit = true :=
    List.all_eq_true.mpr fun _ => isDigit_of_mem_toDigits
  have hzero : ¬ ((Nat.toDigits 10 n).head? = some '0' ∧ (Nat.toDigits 10 n).length ≠ 1) := by
    rintro ⟨hhead, hlength⟩
    rcases Nat.eq_zero_or_pos n with rfl | hn
    · exact hlength rfl
    · exact head?_toDigits hn hhead
  simp [natOf?, hall, hzero]

theorem toList_toString_int (i : Int) :
    (toString i).toList =
      if 0 ≤ i then Nat.toDigits 10 i.toNat else '-' :: Nat.toDigits 10 (-i).toNat := by
  rw [Int.toString_eq_repr, Int.repr_eq_if]
  split <;> simp

theorem intOf?_of_digits {ds : List Char} (h : ds.all Char.isDigit = true) :
    intOf? ds = (natOf? ds).map fun n : Nat => (n : Int) := by
  unfold intOf?
  split
  · simp at h
  · rfl

theorem intOf?_toString (i : Int) : intOf? (toString i).toList = some i := by
  rw [toList_toString_int]
  split
  · next h =>
    rw [intOf?_of_digits (List.all_eq_true.mpr fun _ => isDigit_of_mem_toDigits), natOf?_toDigits]
    exact congrArg some (Int.toNat_of_nonneg h)
  · next h =>
    have habs : ((-i).toNat : Int) = -i := Int.toNat_of_nonneg (by omega)
    rw [intOf?, natOf?_toDigits, Option.map_some, habs, Int.neg_neg]

theorem isWordChar_of_mem_toString {i : Int} {c : Char} (h : c ∈ (toString i).toList) :
    isWordChar c = true := by
  rw [toList_toString_int] at h
  split at h
  · exact isWordChar_of_isDigit (isDigit_of_mem_toDigits h)
  · rcases List.mem_cons.mp h with rfl | h
    · decide
    · exact isWordChar_of_isDigit (isDigit_of_mem_toDigits h)

theorem toString_int_ne_nil (i : Int) : (toString i).toList ≠ [] := by
  rw [toList_toString_int]
  split
  · exact Nat.toDigits_ne_nil
  · exact List.cons_ne_nil _ _

/-- What is no number is none of the words that numbers are written as. -/
theorem toString_int_ne {i : Int} {word : List Char} (h : intOf? word = none) :
    (toString i).toList ≠ word := by
  rintro rfl
  rw [intOf?_toString] at h
  cases h

theorem wordValue?_toString (i : Int) : wordValue? (toString i).toList = some (.int i) := by
  have hnull : (toString i).toList ≠ "null".toList := toString_int_ne (by decide)
  have htrue : (toString i).toList ≠ "true".toList := toString_int_ne (by decide)
  have hfalse : (toString i).toList ≠ "false".toList := toString_int_ne (by decide)
  rw [wordValue?, if_neg hnull, if_neg htrue, if_neg hfalse, intOf?_toString]
  rfl

/-- A whole number is read back. -/
theorem readValue_int (d : Dialect) (fuel : Nat) (i : Int) {rest : List Char}
    (hr : EndsWord rest) :
    readValue d (fuel + 1) ((toString i).toList ++ rest) = some (.int i, rest) := by
  have hfrozen : (toString i).toList ≠ "Object.freeze".toList := toString_int_ne (by decide)
  rw [readValue_word _ (toString_int_ne_nil i) (fun _ => isWordChar_of_mem_toString) hfrozen hr,
    wordValue?_toString]
  rfl

end EnumExport.Notation
