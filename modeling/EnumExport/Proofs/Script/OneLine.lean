import EnumExport.Proofs.Notation.Word
import EnumExport.Proofs.Outcome
import EnumExport.Script.Doc
import EnumExport.Script.Item

/-!
# Texts that keep to their line and their comment

A module puts texts it knows nothing about into literals, names of properties, JSON and comments.
None of them may end the line it stands on, and none may end the comment it stands in.

* Everything that is written by itself is on one line: `newline_not_mem_textLiteral`,
  `newline_not_mem_propertyName`, `newline_not_mem_json`, `newline_not_mem_typeExpr`.
* A text in a comment is on one line and does not end the comment, whatever it is:
  `fitsComment_commentText`. Replacing is done once from left to right, so this has to be said of
  the text with the replacements in it.
* Identifiers hold neither a line break nor a character of a comment's end:
  `isWord_of_isIdentifier`. So they may stand in a comment as they are.
-/

namespace EnumExport

open Notation


/-! ## Words -/

namespace Script

/-- Characters of which none breaks a line or belongs to the end of a comment. -/
def IsWord (cs : List Char) : Prop := ∀ c ∈ cs, c ≠ '\n' ∧ c ≠ '*' ∧ c ≠ '/'

theorem IsWord.newline_not_mem {cs : List Char} (h : IsWord cs) : '\n' ∉ cs :=
  fun hmem => (h '\n' hmem).1 rfl

theorem IsWord.append {v w : List Char} (hv : IsWord v) (hw : IsWord w) : IsWord (v ++ w) := by
  intro c hc
  rcases List.mem_append.mp hc with hc | hc
  · exact hv c hc
  · exact hw c hc

theorem isWord_hexDigits (width n : Nat) : IsWord (Text.hexDigits width n) := by
  have hdigit : ∀ m < 16,
      Nat.digitChar m ≠ '\n' ∧ Nat.digitChar m ≠ '*' ∧ Nat.digitChar m ≠ '/' := by
    decide
  induction width generalizing n with
  | zero => exact fun _ hc => nomatch hc
  | succ width ih =>
    refine (ih (n / 16)).append ?_
    intro c hc
    rw [List.mem_singleton.mp hc]
    exact hdigit (n % 16) (Nat.mod_lt n (by decide))

end Script

/-! ## Numbers -/

theorem ne_newline_of_isDigit {c : Char} (h : c.isDigit = true) : c ≠ '\n' := by
  rintro rfl
  cases h

theorem newline_not_mem_toDigits (n : Nat) : '\n' ∉ Nat.toDigits 10 n :=
  fun h => ne_newline_of_isDigit (isDigit_of_mem_toDigits h) rfl

theorem newline_not_mem_int (i : Int) : '\n' ∉ (toString i).toList := by
  rw [toList_toString_int]
  split
  · exact newline_not_mem_toDigits _
  · simp [newline_not_mem_toDigits]

theorem newline_not_mem_nat (n : Nat) : '\n' ∉ (toString n).toList := by
  have h := newline_not_mem_toDigits n
  simpa using h

namespace Binary64

theorem newline_not_mem_exponentText (e : Int) : '\n' ∉ exponentText e := by
  have hdigits := newline_not_mem_toDigits e.natAbs
  unfold exponentText
  dsimp only
  split <;> split <;> simp [hdigits]

theorem newline_not_mem_decimalText (digits : Nat) (place : Int) :
    '\n' ∉ decimalText digits place := by
  have hdigits := newline_not_mem_toDigits digits
  have htake : ∀ n, '\n' ∉ (Nat.toDigits 10 digits).take n := fun n h =>
    hdigits (List.mem_of_mem_take h)
  have hdrop : ∀ n, '\n' ∉ (Nat.toDigits 10 digits).drop n := fun n h =>
    hdigits (List.mem_of_mem_drop h)
  have htail : '\n' ∉ (Nat.toDigits 10 digits).tail := fun h => hdigits (List.mem_of_mem_tail h)
  unfold decimalText
  dsimp only
  split
  · split
    · simp [hdigits]
    · split <;> simp [hdigits, htake, hdrop]
  · split <;> simp [htake, htail, newline_not_mem_exponentText]

theorem newline_not_mem_text (x : Binary64) : '\n' ∉ x.text := by
  cases x with
  | nan => simp [text]
  | infinite s => cases s <;> simp [text]
  | finite s m e => cases s <;> simp [text, newline_not_mem_decimalText]

end Binary64

/-! ## JSON -/

namespace Json

theorem newline_not_mem_floatText (x : Binary64) : '\n' ∉ floatText x := by
  cases x with
  | nan => simp [floatText]
  | infinite s => cases s <;> simp [floatText]
  | finite s m e => exact Binary64.newline_not_mem_text (.finite s m e)

theorem newline_not_mem_escapedChar (c : Char) : '\n' ∉ escapedChar c := by
  unfold escapedChar
  split
  · next h => rcases h with rfl | rfl <;> decide
  · split
    · decide
    · next hc =>
      -- the line break has been escaped, so no other character is one
      repeat' split
      all_goals simp [(Script.isWord_hexDigits _ _).newline_not_mem, Ne.symm hc]

theorem newline_not_mem_textChars (s : String) : '\n' ∉ textChars s := by
  simp [textChars, newline_not_mem_escapedChar]

mutual

theorem newline_not_mem_chars (depth : Nat) : ∀ j, '\n' ∉ chars .compact depth j
  | .null => by simp [chars]
  | .bool b => by cases b <;> simp [chars]
  | .int i => by
    rw [chars]
    exact newline_not_mem_int i
  | .float x => by
    rw [chars]
    exact newline_not_mem_floatText x
  | .text s => by
    rw [chars]
    exact newline_not_mem_textChars s
  | .array [] => by simp [chars]
  | .array (x :: xs) => by
    simp [chars, Layout.break, newline_not_mem_chars (depth + 1) x,
      newline_not_mem_itemsChars (depth + 1) xs]
  | .object [] => by simp [chars]
  | .object ((k, x) :: fields) => by
    simp [chars, Layout.break, Layout.colon, newline_not_mem_textChars,
      newline_not_mem_chars (depth + 1) x, newline_not_mem_fieldsChars (depth + 1) fields]

theorem newline_not_mem_itemsChars (depth : Nat) : ∀ xs, '\n' ∉ itemsChars .compact depth xs
  | [] => by simp [itemsChars]
  | x :: xs => by
    simp [itemsChars, Layout.break, newline_not_mem_chars depth x,
      newline_not_mem_itemsChars depth xs]

theorem newline_not_mem_fieldsChars (depth : Nat) :
    ∀ fields, '\n' ∉ fieldsChars .compact depth fields
  | [] => by simp [fieldsChars]
  | (k, x) :: fields => by
    simp [fieldsChars, Layout.break, Layout.colon, newline_not_mem_textChars,
      newline_not_mem_chars depth x, newline_not_mem_fieldsChars depth fields]

end

theorem newline_not_mem_render (j : Json) : '\n' ∉ (render .compact j).toList := by
  rw [render, String.toList_ofList]
  exact newline_not_mem_chars 0 j

end Json

namespace Script

/-! ## Literals and names -/

theorem newline_not_mem_escapedChar (c : Char) : '\n' ∉ escapedChar c := by
  unfold escapedChar
  split
  · next h => rcases h with rfl | rfl <;> decide
  · split
    · decide
    · next hc =>
      -- the line break has been escaped, so no other character is one
      repeat' split
      all_goals simp [(Script.isWord_hexDigits _ _).newline_not_mem, Ne.symm hc]

theorem newline_not_mem_textLiteral (s : String) : '\n' ∉ (textLiteral s).toList := by
  simp [textLiteral, literalChars, newline_not_mem_escapedChar]

theorem isWord_of_isIdentifier {s : String} (h : Text.isIdentifier s = true) : IsWord s.toList := by
  have hparts : ∀ c ∈ s.toList, Text.isIdentifierPart c = true := by
    rw [Text.isIdentifier] at h
    cases hs : s.toList with
    | nil => exact fun _ hc => nomatch hc
    | cons d cs =>
      rw [hs] at h
      obtain ⟨hstart, hrest⟩ := Bool.and_eq_true_iff.mp h
      intro c hc
      rcases List.mem_cons.mp hc with rfl | hc
      · exact Text.isIdentifierPart_of_isIdentifierStart hstart
      · exact List.all_eq_true.mp hrest c hc
  intro c hc
  have hpart := hparts c hc
  refine ⟨?_, ?_, ?_⟩ <;> rintro rfl <;> cases hpart

/-- A literal of a word is a word. -/
theorem isWord_textLiteral {s : String} (h : IsWord s.toList) : IsWord (textLiteral s).toList := by
  have hchar : ∀ c ∈ s.toList, IsWord (escapedChar c) := by
    intro c hc
    obtain ⟨hline, hstar, hslash⟩ := h c hc
    have hself : IsWord [c] := by simp [IsWord, hline, hstar, hslash]
    have hdigits := isWord_hexDigits 2 c.toNat
    unfold escapedChar
    repeat' split
    all_goals simp_all [IsWord]
  rw [textLiteral, String.toList_ofList, literalChars]
  intro c hc
  simp only [List.cons_append, List.mem_cons, List.mem_append, List.mem_flatMap, List.not_mem_nil,
    or_false] at hc
  rcases hc with rfl | ⟨d, hd, hc⟩ | rfl
  · decide
  · exact hchar d hd c hc
  · decide

theorem newline_not_mem_propertyName (s : String) : '\n' ∉ (propertyName s).toList := by
  unfold propertyName
  split
  · next h => exact (isWord_of_isIdentifier (Bool.and_eq_true_iff.mp h).1).newline_not_mem
  · exact newline_not_mem_textLiteral s

theorem newline_not_mem_expr (e : Expr) : '\n' ∉ e.render.toList := by
  induction e with
  | text s => exact newline_not_mem_textLiteral s
  | json j => exact Json.newline_not_mem_render j
  | frozen e ih => simp [Expr.render, ih]

theorem newline_not_mem_typeExpr (t : TypeExpr) : '\n' ∉ t.text.toList := by
  induction t with
  | array t ih => simp [TypeExpr.text, ih]
  | _ => simp [TypeExpr.text]

theorem newline_not_mem_jsonText (v : Value) :
    Ensures (jsonText v) fun s => '\n' ∉ s.toList :=
  .bind fun j _ => .pure (Json.newline_not_mem_render j)

theorem newline_not_mem_literal (v : Value) : Ensures (literal v) fun s => '\n' ∉ s.toList := by
  unfold literal
  split
  · exact .pure (by simp)
  · split
    · exact .pure (newline_not_mem_textLiteral _)
    · exact newline_not_mem_jsonText v

/-- Pieces on one line with a separator on one line between them. -/
theorem newline_not_mem_intercalate {sep : String} {parts : List String}
    (hsep : '\n' ∉ sep.toList) (h : ∀ p ∈ parts, '\n' ∉ p.toList) :
    '\n' ∉ (sep.intercalate parts).toList := by
  induction parts with
  | nil => simp
  | cons p parts ih =>
    cases parts with
    | nil => simpa using h p (by simp)
    | cons q parts =>
      rw [String.intercalate_cons_cons]
      simp only [String.toList_append, List.mem_append, not_or]
      exact ⟨⟨h p (by simp), hsep⟩, ih fun r hr => h r (by simp [hr])⟩

/-! ## Comments -/

/-- Whether the end of a comment stands somewhere among some characters. -/
def hasEnd : List Char → Bool
  | [] => false
  | c :: cs => (c == '*' && cs.head? == some '/') || hasEnd cs

theorem hasEnd_eq_true_iff {cs : List Char} :
    hasEnd cs = true ↔ ∃ before after, cs = before ++ '*' :: '/' :: after := by
  induction cs with
  | nil => simp [hasEnd]
  | cons c cs ih =>
    rw [hasEnd, Bool.or_eq_true, ih, Bool.and_eq_true, beq_iff_eq, beq_iff_eq]
    constructor
    · rintro (⟨rfl, hhead⟩ | ⟨before, after, rfl⟩)
      · obtain ⟨after, rfl⟩ := List.head?_eq_some_iff.mp hhead
        exact ⟨[], after, rfl⟩
      · exact ⟨c :: before, after, rfl⟩
    · rintro ⟨before, after, h⟩
      cases before with
      | nil =>
        cases h
        exact .inl ⟨rfl, rfl⟩
      | cons b before =>
        cases h
        exact .inr ⟨before, after, rfl⟩

/-- Nothing ends where two pieces meet, unless the second begins with a slash. -/
theorem hasEnd_append {a b : List Char} (ha : hasEnd a = false) (hb : b.head? ≠ some '/') :
    hasEnd (a ++ b) = hasEnd b := by
  induction a with
  | nil => rfl
  | cons c a ih =>
    rw [hasEnd, Bool.or_eq_false_iff] at ha
    rw [List.cons_append, hasEnd, ih ha.2]
    have hhead : (c == '*' && (a ++ b).head? == some '/') = false := by
      cases a with
      | nil => simp [hb]
      | cons d a => simpa using ha.1
    rw [hhead, Bool.false_or]

theorem IsWord.hasEnd_append {w : List Char} (h : IsWord w) (rest : List Char) :
    hasEnd (w ++ rest) = hasEnd rest := by
  induction w with
  | nil => rfl
  | cons c w ih =>
    have hc : (c == '*') = false := by simpa using (h c (by simp)).2.1
    rw [List.cons_append, hasEnd, hc, ih fun d hd => h d (by simp [hd])]
    rfl

/-- With a backslash put between them, a star and a slash are no end any more, and no other star
gets a slash behind it. -/
theorem hasEnd_replace (cs : List Char) :
    hasEnd (Text.replaceNonempty '*' ['/'] ['*', '\\', '/'] cs) = false ∧
      ((Text.replaceNonempty '*' ['/'] ['*', '\\', '/'] cs).head? = some '/' →
        cs.head? = some '/') := by
  induction cs using Text.replaceNonempty.induct '*' ['/'] with
  | case1 =>
    rw [Text.replaceNonempty]
    exact ⟨rfl, id⟩
  | case2 c cs rest hrest ih =>
    rw [Text.replaceNonempty_of_some hrest]
    simpa [hasEnd] using ih.1
  | case3 c cs hnone ih =>
    rw [Text.replaceNonempty_of_none hnone]
    refine ⟨?_, fun h => h⟩
    rw [hasEnd, ih.1, Bool.or_false]
    -- a slash behind the star would have made the part that is replaced
    rw [Bool.eq_false_iff]
    intro hend
    simp only [Bool.and_eq_true, beq_iff_eq] at hend
    obtain ⟨rest, rfl⟩ := List.head?_eq_some_iff.mp (ih.2 hend.2)
    rw [hend.1, Text.dropPart?, if_pos rfl, Text.dropPart?, if_pos rfl] at hnone
    cases hnone

/-- Spaces in the place of line breaks end no comment. -/
theorem hasEnd_map_newline (cs : List Char) :
    hasEnd (cs.map fun c => if c = '\n' then ' ' else c) = hasEnd cs := by
  induction cs with
  | nil => rfl
  | cons c cs ih =>
    rw [List.map_cons, hasEnd, hasEnd, ih]
    have hstar : ((if c = '\n' then ' ' else c) == '*') = (c == '*') := by
      split
      · next hc => simp [hc]
      · rfl
    have hslash : ((cs.map fun c => if c = '\n' then ' ' else c).head? == some '/') =
        (cs.head? == some '/') := by
      cases cs with
      | nil => rfl
      | cons d cs =>
        by_cases hd : d = '\n' <;> simp [hd]
    rw [hstar, hslash]

/-- A text can stand in a comment: on one line, and without ending it. -/
structure FitsComment (s : String) : Prop where
  /-- it is on one line -/
  oneLine : '\n' ∉ s.toList
  /-- it does not end the comment -/
  noEnd : hasEnd s.toList = false

/-- Behind a text that can stand in a comment, anything but a slash may follow. -/
theorem FitsComment.hasEnd_cons {s : String} (h : FitsComment s) (c : Char) (rest : List Char)
    (hc : c ≠ '/') : hasEnd (s.toList ++ c :: rest) = hasEnd (c :: rest) :=
  hasEnd_append h.noEnd (by simpa using hc)

/-- Every text can stand in a comment the way it is put there. -/
theorem fitsComment_commentText (s : String) : FitsComment (commentText s) := by
  have hchars : (commentText s).toList =
      (Text.replaceNonempty '*' ['/'] ['*', '\\', '/'] s.toList).map
        fun c => if c = '\n' then ' ' else c := by
    rw [commentText, String.toList_ofList, commentChars, Text.replaceChars, Text.replaceChars,
      Text.replaceNonempty_singleton]
  refine ⟨?_, ?_⟩
  · rw [hchars, List.mem_map]
    rintro ⟨c, -, hc⟩
    split at hc
    · cases hc
    · next hne => exact hne hc
  · rw [hchars, hasEnd_map_newline]
    exact (hasEnd_replace s.toList).1

theorem fitsComment_literalComment (v : Value) : Ensures (literalComment v) FitsComment := by
  intro s hs
  rw [literalComment] at hs
  split at hs
  · cases hs
    exact fitsComment_commentText _
  · cases hs

theorem fitsComment_jsonComment (v : Value) : Ensures (jsonComment v) FitsComment := by
  intro s hs
  rw [jsonComment] at hs
  split at hs
  · cases hs
    exact fitsComment_commentText _
  · cases hs

end Script

end EnumExport
