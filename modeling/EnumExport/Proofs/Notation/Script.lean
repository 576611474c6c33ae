import EnumExport.Proofs.Notation.Json
import EnumExport.Script.Item

/-!
# Expressions of a script read back

The data that a module embeds as literals: texts between single quotes, compact JSON, wrapped values
and object literals of properties. Each is read back as the data it stands for.

A `Named` expression is a property before its name is written, so that the name can be compared with
the one that is read.
-/

namespace EnumExport

namespace Script

/-- Characters wrapped so that their value cannot be changed, and possibly marked as constant. -/
def frozenChars (isConst : Bool) (cs : List Char) : List Char :=
  "Object.freeze(".toList ++ (cs ++ ((if isConst then " as const".toList else []) ++ [')']))

namespace Expr

/-- The data that an expression stands for. -/
def toValue : Expr → Value
  | .text s => .text s
  | .json j => j.toValue
  | .frozen e => e.toValue

/-- Whether all numbers of an expression are whole ones. -/
def isWhole : Expr → Bool
  | .text _ => true
  | .json j => j.isWhole
  | .frozen e => e.isWhole

/-- The characters of an expression. -/
def chars (e : Expr) : List Char := e.render.toList

theorem chars_text (s : String) : (text s).chars = literalChars s.toList := by
  simp [chars, render, textLiteral]

theorem chars_json (j : Json) : (json j).chars = j.chars .compact 0 := by
  simp [chars, render, Json.render]

theorem chars_frozen (e : Expr) : (frozen e).chars = frozenChars false e.chars := by
  unfold frozenChars
  simp [chars, render]

end Expr

/-- A property with its name as a text. -/
structure Named where
  /-- the name -/
  name : String
  /-- the value -/
  value : Expr

namespace Named

/-- The property as it is written. -/
def property (n : Named) : Property := ⟨propertyName n.name, n.value⟩

/-- The pair that the property stands for. -/
def pair (n : Named) : Value × Value := (.text n.name, n.value.toValue)

/-- The characters of the property. -/
def chars (n : Named) : List Char := (propertyName n.name).toList ++ (": ".toList ++ n.value.chars)

theorem toList_render (n : Named) : n.property.render.toList = n.chars := by
  simp [property, Property.render, chars, Expr.chars]

end Named

end Script

namespace Notation

open Script

/-! ## Expressions -/

theorem literalChars_append (cs rest : List Char) :
    literalChars cs ++ rest = '\'' :: (cs.flatMap escapedChar ++ '\'' :: rest) := by
  simp [literalChars]

/-- A single-quoted literal is read back as a value. -/
theorem readValue_literal (fuel : Nat) (s : String) (rest : List Char) :
    readValue .script (fuel + 1) (literalChars s.toList ++ rest) = some (.text s, rest) := by
  rw [literalChars_append, readValue, skipBlanks_cons (by decide)]
  simp [isQuote, escapes_literal.readText]

/-- A single-quoted literal is read back as a property name. -/
theorem readName_literal (s : String) (rest : List Char) :
    readName .script (literalChars s.toList ++ rest) = some (s, rest) := by
  rw [literalChars_append, readName, skipBlanks_cons (by decide)]
  simp [isQuote, escapes_literal.readText]

/-- A wrapped value is read as that value. -/
theorem readValue_frozen {fuel : Nat} {v : Value} {cs inner rest : List Char}
    (h : readValue .script fuel cs = some (v, inner))
    (hclose : skipBlanks (skipAsConst inner) = ')' :: rest) :
    readValue .script (fuel + 1) ("Object.freeze".toList ++ '(' :: cs) = some (v, rest) := by
  have hw : ∀ c ∈ "Object.freeze".toList, isWordChar c = true := List.all_eq_true.mp (by decide)
  have hend : EndsWord ('(' :: cs) := endsWord_cons _ (by decide)
  have htake := takeWhile_word hw hend
  have hdrop := dropWhile_word hw hend
  obtain ⟨c, tail, hsplit⟩ : ∃ c tail, "Object.freeze".toList = c :: tail := ⟨_, _, rfl⟩
  obtain ⟨hblank, hsquare, hcurly, hquote⟩ := isWordChar_opens (hw c (by rw [hsplit]; simp))
  rw [hsplit, List.cons_append] at htake hdrop ⊢
  rw [readValue, skipBlanks_cons hblank]
  -- what begins with a character of a word is neither a list nor an object nor a text
  split
  · next hcs => cases hcs
  · next hcs => exact absurd (List.cons.inj hcs).1 hsquare
  · next hcs => exact absurd (List.cons.inj hcs).1 hcurly
  · next hcs =>
    obtain ⟨rfl, rfl⟩ := List.cons.inj hcs
    simp only [hquote .script, Bool.false_eq_true, if_false, htake, hdrop, hsplit, and_self, if_true,
      skipBlanks_cons (by decide : isBlank '(' = false), h, hclose]

/-- Without `as const` nothing is skipped. -/
theorem skipAsConst_of_ne {cs : List Char} (h : ∀ behind, skipBlanks cs ≠ 'a' :: behind) :
    skipAsConst cs = cs := by
  obtain ⟨tail, hsplit⟩ : ∃ tail, "as const".toList = 'a' :: tail := by simp
  rw [skipAsConst, hsplit]
  cases hcs : skipBlanks cs with
  | nil => rfl
  | cons c rest =>
    have hc : 'a' ≠ c := by
      rintro rfl
      exact h rest hcs
    rw [Text.dropPart?, if_neg hc]
    rfl

theorem skipAsConst_asConst (cs : List Char) :
    skipAsConst (" as const".toList ++ cs) = cs := by
  have hsplit : " as const".toList = [' '] ++ "as const".toList := by simp
  have hskip : skipBlanks ("as const".toList ++ cs) = "as const".toList ++ cs := by
    obtain ⟨tail, htail⟩ : ∃ tail, "as const".toList = 'a' :: tail := by simp
    rw [htail]
    exact skipBlanks_cons (by decide)
  rw [skipAsConst, hsplit, List.append_assoc, List.singleton_append, skipBlanks_space, hskip,
    Text.dropPart?_append]
  rfl

/-- The characters are read as the value, wherever a word may end behind them. -/
def Reads (text : List Char) (v : Value) : Prop :=
  ∀ (fuel : Nat) (rest : List Char), EndsWord rest → 2 * text.length ≤ fuel →
    readValue .script fuel (text ++ rest) = some (v, rest)

theorem Reads.blanks {blanks text : List Char} {v : Value} (h : Reads text v)
    (hblanks : ∀ c ∈ blanks, isBlank c = true) : Reads (blanks ++ text) v := by
  intro fuel rest hr hfuel
  rw [List.length_append] at hfuel
  rw [List.append_assoc, readValue_skip (skipBlanks_blanks hblanks _)]
  exact h fuel rest hr (by omega)

/-- A wrapped value is read as that value, whether or not it is marked as constant. -/
theorem Reads.frozen {text : List Char} {v : Value} (h : Reads text v) (isConst : Bool) :
    Reads (frozenChars isConst text) v := by
  intro fuel rest _ hfuel
  have hopen : "Object.freeze(".toList = "Object.freeze".toList ++ ['('] := by simp
  unfold frozenChars at hfuel ⊢
  simp only [hopen, List.length_append, List.length_cons] at hfuel
  obtain ⟨n, rfl⟩ : ∃ n, fuel = n + 1 := ⟨fuel - 1, by omega⟩
  have hclose : skipBlanks (')' :: rest) = ')' :: rest := skipBlanks_cons (by decide)
  simp only [hopen, List.append_assoc, List.cons_append, List.nil_append]
  cases isConst with
  | true =>
    have hinner := h n (" as const".toList ++ ')' :: rest) (endsWord_cons _ (by decide)) (by omega)
    refine readValue_frozen hinner ?_
    rw [skipAsConst_asConst, hclose]
  | false =>
    have hinner := h n (')' :: rest) (endsWord_cons _ (by decide)) (by omega)
    refine readValue_frozen hinner ?_
    -- the bracket comes at once, so there is no `as const` to skip
    rw [skipAsConst_of_ne, hclose]
    intro behind hbehind
    rw [hclose] at hbehind
    cases hbehind

theorem Reads.expr {e : Expr} (he : e.isWhole = true) : Reads e.chars e.toValue := by
  induction e with
  | text s =>
    intro fuel rest _ hfuel
    rw [Expr.chars_text] at hfuel ⊢
    obtain ⟨n, rfl⟩ : ∃ n, fuel = n + 1 := ⟨fuel - 1, by simp [literalChars] at hfuel; omega⟩
    exact readValue_literal n s rest
  | json j =>
    intro fuel rest hr hfuel
    rw [Expr.chars_json] at hfuel ⊢
    exact readValue_chars .compact .script j 0 fuel rest he hr hfuel
  | frozen e ih =>
    rw [Expr.chars_frozen]
    exact (ih he).frozen false

/-- What is read as a value holds that value and nothing else. -/
theorem Reads.read? {text : String} {v : Value} (h : Reads text.toList v) :
    read? .script text = some v := by
  have hfuel : 2 * text.toList.length ≤ 2 * text.length :=
    Nat.mul_le_mul_left 2 (Nat.le_of_eq String.length_toList)
  have hread := h (2 * text.length) [] endsWord_nil hfuel
  rw [List.append_nil] at hread
  rw [Notation.read?, hread]
  rfl

/-! ## Properties -/

theorem isNameChar_of_isIdentifierPart {c : Char} (h : Text.isIdentifierPart c = true)
    (hascii : c.toNat < 128) : isNameChar c = true := by
  rw [Text.isIdentifierPart, if_pos hascii] at h
  rw [isNameChar, h, Bool.true_or]

theorem not_isDigit_of_isIdentifierStart {c : Char} (h : Text.isIdentifierStart c = true)
    (hascii : c.toNat < 128) : c.isDigit = false := by
  rw [Text.isIdentifierStart, if_pos hascii] at h
  rcases Bool.or_eq_true_iff.mp h with h | h
  · delta Char.isAlpha Char.isUpper Char.isLower at h
    rw [Char.isDigit]
    grind
  · rw [beq_iff_eq.mp h]
    decide

theorem isWordChar_of_isNameChar {c : Char} (h : isNameChar c = true) : isWordChar c = true := by
  rw [isNameChar] at h
  simp only [isWordChar, h, Bool.true_or]

/-- A property name is read back, bare or quoted. -/
theorem readName_propertyName (s : String) (rest : List Char) :
    readName .script ((propertyName s).toList ++ ':' :: rest) = some (s, ':' :: rest) := by
  unfold propertyName
  split
  · next h =>
    obtain ⟨hid, hascii⟩ := Bool.and_eq_true_iff.mp h
    rw [Text.isIdentifier] at hid
    rw [Text.isAscii, List.all_eq_true] at hascii
    cases hs : s.toList with
    | nil =>
      rw [hs] at hid
      cases hid
    | cons c cs =>
      rw [hs] at hid hascii
      obtain ⟨hstart, hparts⟩ := Bool.and_eq_true_iff.mp hid
      have hlow : ∀ e ∈ c :: cs, e.toNat < 128 := fun e he => of_decide_eq_true (hascii e he)
      have hfirst := isNameChar_of_isIdentifierPart
        (Text.isIdentifierPart_of_isIdentifierStart hstart) (hlow c (by simp))
      have hrest : ∀ e ∈ cs, isNameChar e = true := fun e he =>
        isNameChar_of_isIdentifierPart (List.all_eq_true.mp hparts e he) (hlow e (by simp [he]))
      have hdigit := not_isDigit_of_isIdentifierStart hstart (hlow c (by simp))
      obtain ⟨hblank, -, -, hquote⟩ := isWordChar_opens (isWordChar_of_isNameChar hfirst)
      have hcolon : isNameChar ':' = false := by decide
      rw [List.cons_append, readName, skipBlanks_cons hblank]
      simp only [hquote, hfirst, hdigit, Bool.false_eq_true, if_false, not_false_eq_true, and_self,
        if_true]
      rw [List.takeWhile_append_of_pos hrest, List.dropWhile_append_of_pos hrest]
      simp only [List.takeWhile_cons, List.dropWhile_cons, hcolon, Bool.false_eq_true, if_false,
        List.append_nil, ← hs, String.ofList_toList]
  · rw [textLiteral, String.toList_ofList]
    exact readName_literal s (':' :: rest)

/-- A property is read as its name and its value. -/
theorem readFields_named {fuel : Nat} {n : Named} (hn : n.value.isWhole = true)
    {blanks : List Char} (hblanks : ∀ c ∈ blanks, isBlank c = true) {rest : List Char}
    (hr : EndsWord rest) (hfuel : 2 * n.chars.length ≤ fuel) :
    readFields .script (fuel + 1) true (blanks ++ (n.chars ++ rest)) =
      match skipBlanks rest with
      | '\x7d' :: rest => some ([n.pair], rest)
      | ',' :: rest =>
        (readFields .script fuel true rest).map fun p => (n.pair :: p.1, p.2)
      | _ => none := by
  have hcolon : ": ".toList = [':', ' '] := by decide
  have hname := readName_propertyName n.name (' ' :: (n.value.chars ++ rest))
  rw [← readName_skip (skipBlanks_blanks hblanks _)] at hname
  rw [Named.chars, hcolon, List.length_append, List.length_append] at hfuel
  have hvalue := (Reads.expr hn).blanks isBlank_of_mem_space fuel rest hr
    (by simp only [List.length_append, List.length_cons, List.length_nil] at hfuel ⊢; omega)
  have hchars : blanks ++ (n.chars ++ rest) =
      blanks ++ ((propertyName n.name).toList ++ ':' :: ' ' :: (n.value.chars ++ rest)) := by
    simp [Named.chars, hcolon]
  rw [hchars]
  exact readFields_of_readName hname (skipBlanks_cons (by decide)) hvalue

/-! ## Lists and objects with a comma behind every part -/

/-- Parts with a comma behind each. -/
def commaEnded (parts : List (List Char)) : List Char := parts.flatMap fun p => p ++ [',']

theorem readItems_commaEnded {parts : List (List Char × Value)}
    (h : ∀ p ∈ parts, Reads p.1 p.2) {blanks : List Char}
    (hblanks : ∀ c ∈ blanks, isBlank c = true) (rest : List Char) (fuel : Nat)
    (hfuel : 2 * (commaEnded (parts.map Prod.fst)).length < fuel) :
    readItems .script fuel true (commaEnded (parts.map Prod.fst) ++ (blanks ++ ']' :: rest)) =
      some (parts.map Prod.snd, rest) := by
  induction parts generalizing fuel with
  | nil =>
    obtain ⟨n, rfl⟩ : ∃ n, fuel = n + 1 := ⟨fuel - 1, by omega⟩
    refine readItems_end ?_
    rw [List.map_nil, commaEnded, List.flatMap_nil, List.nil_append, skipBlanks_blanks hblanks]
    exact skipBlanks_cons (by decide)
  | cons p parts ih =>
    simp only [List.map_cons, commaEnded, List.flatMap_cons, List.length_append, List.length_cons,
      List.length_nil] at hfuel
    obtain ⟨n, rfl⟩ : ∃ n, fuel = n + 1 := ⟨fuel - 1, by omega⟩
    have hp := h p (by simp) n
      (',' :: (commaEnded (parts.map Prod.fst) ++ (blanks ++ ']' :: rest)))
      (endsWord_cons _ (by decide)) (by omega)
    have hrest := ih (fun q hq => h q (by simp [hq])) n (by rw [commaEnded]; omega)
    have hsplit : commaEnded ((p :: parts).map Prod.fst) ++ (blanks ++ ']' :: rest) =
        p.1 ++ ',' :: (commaEnded (parts.map Prod.fst) ++ (blanks ++ ']' :: rest)) := by
      simp [commaEnded]
    rw [hsplit, readItems_of_readValue hp, skipBlanks_cons (by decide)]
    simp only [beq_self_eq_true, hrest]
    rfl

/-- A list with a comma behind every item is read as its items. -/
theorem Reads.list {parts : List (List Char × Value)} (h : ∀ p ∈ parts, Reads p.1 p.2)
    {blanks : List Char} (hblanks : ∀ c ∈ blanks, isBlank c = true) :
    Reads ('[' :: (commaEnded (parts.map Prod.fst) ++ (blanks ++ [']'])))
      (.list (parts.map Prod.snd)) := by
  intro fuel rest _ hfuel
  simp only [List.length_cons, List.length_append] at hfuel
  obtain ⟨n, rfl⟩ : ∃ n, fuel = n + 1 := ⟨fuel - 1, by omega⟩
  have hitems := readItems_commaEnded h hblanks rest n (by omega)
  simp only [List.cons_append, List.append_assoc, List.nil_append]
  rw [readValue_array (skipBlanks_cons (by decide)), hitems]
  rfl

theorem readFields_commaEnded {row : List Named} (h : ∀ n ∈ row, n.value.isWhole = true)
    {before blanks : List Char} (hbefore : ∀ c ∈ before, isBlank c = true)
    (hblanks : ∀ c ∈ blanks, isBlank c = true) (rest : List Char) (fuel : Nat)
    (hfuel : 2 * (commaEnded (row.map fun n => before ++ n.chars)).length < fuel) :
    readFields .script fuel true
      (commaEnded (row.map fun n => before ++ n.chars) ++ (blanks ++ '\x7d' :: rest)) =
      some (row.map Named.pair, rest) := by
  induction row generalizing fuel with
  | nil =>
    obtain ⟨n, rfl⟩ : ∃ n, fuel = n + 1 := ⟨fuel - 1, by omega⟩
    refine readFields_end ?_
    rw [List.map_nil, commaEnded, List.flatMap_nil, List.nil_append, skipBlanks_blanks hblanks]
    exact skipBlanks_cons (by decide)
  | cons n row ih =>
    simp only [List.map_cons, commaEnded, List.flatMap_cons, List.length_append, List.length_cons,
      List.length_nil] at hfuel
    obtain ⟨m, rfl⟩ : ∃ m, fuel = m + 1 := ⟨fuel - 1, by omega⟩
    have hrest := ih (fun k hk => h k (by simp [hk])) m (by rw [commaEnded]; omega)
    have hsplit : commaEnded ((n :: row).map fun n => before ++ n.chars) ++
          (blanks ++ '\x7d' :: rest) =
        before ++ (n.chars ++ ',' :: (commaEnded (row.map fun n => before ++ n.chars) ++
          (blanks ++ '\x7d' :: rest))) := by
      simp [commaEnded]
    rw [hsplit, readFields_named (h n (by simp)) hbefore (endsWord_cons _ (by decide)) (by omega),
      skipBlanks_cons (by decide)]
    simp only [hrest]
    rfl

/-- An object with a comma behind every property is read as its properties. -/
theorem Reads.record {row : List Named} (h : ∀ n ∈ row, n.value.isWhole = true)
    {before blanks : List Char} (hbefore : ∀ c ∈ before, isBlank c = true)
    (hblanks : ∀ c ∈ blanks, isBlank c = true) :
    Reads ('\x7b' :: (commaEnded (row.map fun n => before ++ n.chars) ++ (blanks ++ ['\x7d'])))
      (.map (row.map Named.pair)) := by
  intro fuel rest _ hfuel
  simp only [List.length_cons, List.length_append] at hfuel
  obtain ⟨n, rfl⟩ : ∃ n, fuel = n + 1 := ⟨fuel - 1, by omega⟩
  have hfields := readFields_commaEnded h hbefore hblanks rest n (by omega)
  simp only [List.cons_append, List.append_assoc, List.nil_append]
  rw [readValue_object (skipBlanks_cons (by decide)), hfields]
  rfl

/-- An object of two properties on one line is read as these. -/
theorem Reads.two {n m : Named} (hn : n.value.isWhole = true) (hm : m.value.isWhole = true) :
    Reads ("\x7b ".toList ++ (n.chars ++ (", ".toList ++ (m.chars ++ " \x7d".toList))))
      (.map [n.pair, m.pair]) := by
  intro fuel rest _ hfuel
  have hopen : "\x7b ".toList = ['\x7b', ' '] := by decide
  have hcomma : ", ".toList = [',', ' '] := by decide
  have hclose : " \x7d".toList = [' ', '\x7d'] := by decide
  simp only [hopen, hcomma, hclose, List.length_append, List.length_cons,
    List.length_nil] at hfuel
  obtain ⟨k, rfl⟩ : ∃ k, fuel = k + 3 := ⟨fuel - 3, by omega⟩
  have hlast := readFields_named hm isBlank_of_mem_space
    (endsWord_cons ('\x7d' :: rest) (by decide : isWordChar ' ' = false))
    (show 2 * m.chars.length ≤ k by omega)
  have hfirst := readFields_named hn isBlank_of_mem_space
    (endsWord_cons ([' '] ++ (m.chars ++ ' ' :: '\x7d' :: rest))
      (by decide : isWordChar ',' = false))
    (show 2 * n.chars.length ≤ k + 1 by omega)
  have hskip : skipBlanks (' ' :: '\x7d' :: rest) = '\x7d' :: rest :=
    (skipBlanks_space ('\x7d' :: rest)).trans (skipBlanks_cons (by decide))
  simp only [hskip] at hlast
  simp only [skipBlanks_cons (by decide : isBlank ',' = false), hlast] at hfirst
  have hchars : "\x7b ".toList ++ (n.chars ++ (", ".toList ++ (m.chars ++ " \x7d".toList))) ++ rest =
      '\x7b' :: ([' '] ++ (n.chars ++ ',' :: ([' '] ++ (m.chars ++ ' ' :: '\x7d' :: rest)))) := by
    simp [hopen, hcomma, hclose]
  rw [hchars, readValue_object (skipBlanks_cons (by decide)), hfirst]
  rfl

end Notation

end EnumExport
