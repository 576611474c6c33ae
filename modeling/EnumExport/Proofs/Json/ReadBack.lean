import EnumExport.Json.Printer
import EnumExport.Proofs.Json.Parser
import EnumExport.Proofs.Notation.Json
import EnumExport.Proofs.Script.OneLine
import Mathlib.Data.List.Forall2

/-!
# Documents parsed back

What is printed for a document is parsed as that document, in every layout and whatever follows, as
long as what follows does not go on with a number.

* `EndsNumber` says this of the characters that follow: behind a whole number only a digit, a point
  or the letter of an exponent goes on with it.
* `ParsedAs text v` says that a text is parsed as a value wherever it stands: behind blanks, and in
  front of whatever does not go on with a number. It holds of what is printed for a scalar, and of
  what is printed for an array or an object when it holds of the parts: `parsedAs_array`,
  `parsedAs_object`. Separators and closing brackets never go on with a number.
* So it holds of what is printed for a document, along its structure: `IsDocument.parsedAs`.
-/

namespace EnumExport.Json

open Notation

/-! ## Documents -/

/-- What JSON can say without fractions: null, truth values, whole numbers and texts, lists of such
data, and objects of such data under names that differ. -/
inductive IsDocument : Value → Prop
  /-- no value -/
  | null : IsDocument .null
  /-- a truth value -/
  | bool (b : Bool) : IsDocument (.bool b)
  /-- a whole number -/
  | int (i : Int) : IsDocument (.int i)
  /-- a text -/
  | text (s : String) : IsDocument (.text s)
  /-- a list of documents -/
  | list {xs : List Value} (items : ∀ x ∈ xs, IsDocument x) : IsDocument (.list xs)
  /-- an object of documents -/
  | object {fields : List (String × Value)} (distinct : (Assoc.keys fields).Nodup)
      (values : ∀ f ∈ fields, IsDocument f.2) : IsDocument (ofFields fields)

/-! ## What follows -/

/-- Whether a character may go on with a whole number. -/
def continuesNumber (c : Char) : Bool := c.isDigit || c == '.' || c == 'e' || c == 'E'

/-- The characters do not go on with a number. -/
def EndsNumber (cs : List Char) : Prop := ∀ c ∈ cs.head?, continuesNumber c = false

theorem endsNumber_nil : EndsNumber [] := by simp [EndsNumber]

theorem endsNumber_cons {c : Char} (cs : List Char) (h : continuesNumber c = false) :
    EndsNumber (c :: cs) := by simpa [EndsNumber] using h

theorem continuesNumber_of_isBlank {c : Char} (h : isBlank c = true) :
    continuesNumber c = false := by
  simp only [isBlank, Bool.or_eq_true, beq_iff_eq] at h
  rcases h with ((rfl | rfl) | rfl) | rfl <;> rfl

theorem endsNumber_blanks {blanks cs : List Char} (hblanks : ∀ c ∈ blanks, isBlank c = true)
    (h : EndsNumber cs) : EndsNumber (blanks ++ cs) := by
  cases blanks with
  | nil => exact h
  | cons c blanks => exact endsNumber_cons _ (continuesNumber_of_isBlank (hblanks c (by simp)))

theorem skipBlanks_blanks_cons {blanks : List Char} (h : ∀ c ∈ blanks, isBlank c = true)
    {c : Char} (hc : isBlank c = false) (cs : List Char) :
    skipBlanks (blanks ++ c :: cs) = c :: cs := by
  rw [skipBlanks_blanks h, skipBlanks_cons hc]

/-! ## Numbers -/

theorem spanMinus_toDigits (n : Nat) (cs : List Char) :
    spanMinus (Nat.toDigits 10 n ++ cs) = (false, Nat.toDigits 10 n ++ cs) := by
  unfold spanMinus
  split
  · next heq =>
    -- the first digit would be the minus
    obtain ⟨c, tail, hcs⟩ := List.exists_cons_of_ne_nil (Nat.toDigits_ne_nil (b := 10) (n := n))
    have hc : c.isDigit = true := isDigit_of_mem_toDigits (n := n) (by rw [hcs]; simp)
    rw [hcs, List.cons_append] at heq
    rw [(List.cons.inj heq).1] at hc
    cases hc
  · rfl

section Numbers

variable {rest : List Char} (hr : EndsNumber rest)

include hr

theorem spanDigits_toDigits (n : Nat) :
    spanDigits (Nat.toDigits 10 n ++ rest) = (Nat.toDigits 10 n, rest) := by
  have hdigits : ∀ c ∈ Nat.toDigits 10 n, c.isDigit = true := fun _ => isDigit_of_mem_toDigits
  rw [spanDigits, List.takeWhile_append_of_pos hdigits, List.dropWhile_append_of_pos hdigits]
  cases rest with
  | nil => simp
  | cons c cs =>
    have hc := hr c rfl
    simp only [continuesNumber, Bool.or_eq_false_iff] at hc
    simp [hc]

theorem fraction?_of_endsNumber : fraction? rest = some ([], rest) := by
  unfold fraction?
  split
  · next cs => exact absurd (hr '.' rfl) (by decide)
  · rfl

theorem exponent?_of_endsNumber : exponent? rest = some (none, rest) := by
  unfold exponent?
  split
  · rfl
  · next c cs =>
    have hc := hr c rfl
    rw [if_neg]
    rintro (rfl | rfl) <;> cases hc

/-- Behind its sign a whole number is parsed up to its last digit. -/
theorem parseNumber_of_spanMinus {cs : List Char} {negative : Bool} {n : Nat}
    (hminus : spanMinus cs = (negative, Nat.toDigits 10 n ++ rest)) :
    parseNumber cs = some (.int (if negative then -(n : Int) else n), rest) := by
  rw [parseNumber, hminus]
  simp only [spanDigits_toDigits hr, fraction?_of_endsNumber hr, Option.bind_eq_bind,
    Option.bind_some, exponent?_of_endsNumber hr, numberValue?, natOf?_toDigits]
  rfl

theorem parseNumber_toString (i : Int) :
    parseNumber ((toString i).toList ++ rest) = some (.int i, rest) := by
  rw [toList_toString_int]
  split
  · next h =>
    have habs : (i.toNat : Int) = i := Int.toNat_of_nonneg h
    rw [parseNumber_of_spanMinus hr (spanMinus_toDigits i.toNat rest)]
    simp [habs]
  · next h =>
    have habs : ((-i).toNat : Int) = -i := Int.toNat_of_nonneg (by omega)
    rw [List.cons_append, parseNumber_of_spanMinus hr rfl]
    simp [habs]

end Numbers

/-! ## Scalars -/

/-- The text is parsed as the value wherever it stands. -/
def ParsedAs (text : List Char) (v : Value) : Prop :=
  ∀ blanks rest : List Char, (∀ c ∈ blanks, isBlank c = true) → EndsNumber rest →
    parseValue (blanks ++ (text ++ rest)) = some (v, rest)

/-- What begins like a word is parsed as a number or a word. -/
theorem parsedAs_of_isWordChar {c : Char} {cs : List Char} {v : Value} (hc : isWordChar c = true)
    (h : ∀ rest, EndsNumber rest →
      (parseNumber (c :: (cs ++ rest))).or (parseWord (c :: (cs ++ rest))) = some (v, rest)) :
    ParsedAs (c :: cs) v := by
  intro blanks rest hblanks hr
  obtain ⟨hblank, hsquare, hcurly, hquote⟩ := isWordChar_opens hc
  have hskip := skipBlanks_blanks_cons hblanks hblank (cs ++ rest)
  have hname : readName .json (blanks ++ c :: (cs ++ rest)) = none := by
    rw [readName, hskip]
    simp [hquote]
  rw [List.cons_append, parseValue_scalar hskip hsquare hcurly, parseScalar, hname, hskip,
    Option.map_none, Option.none_or]
  exact h rest hr

theorem parsedAs_null : ParsedAs "null".toList .null := by
  have hword : "null".toList = 'n' :: "ull".toList := rfl
  rw [hword]
  exact parsedAs_of_isWordChar (by decide) fun _ _ => rfl

theorem parsedAs_bool (b : Bool) : ParsedAs (if b then "true" else "false").toList (.bool b) := by
  cases b with
  | false =>
    have hword : "false".toList = 'f' :: "alse".toList := rfl
    rw [if_neg Bool.false_ne_true, hword]
    exact parsedAs_of_isWordChar (by decide) fun _ _ => rfl
  | true =>
    have hword : "true".toList = 't' :: "rue".toList := rfl
    rw [if_pos rfl, hword]
    exact parsedAs_of_isWordChar (by decide) fun _ _ => rfl

theorem parsedAs_int (i : Int) : ParsedAs (toString i).toList (.int i) := by
  obtain ⟨c, cs, hcs⟩ := List.exists_cons_of_ne_nil (toString_int_ne_nil i)
  have hc : isWordChar c = true := isWordChar_of_mem_toString (i := i) (by rw [hcs]; simp)
  rw [hcs]
  refine parsedAs_of_isWordChar hc fun rest hr => ?_
  rw [← List.cons_append, ← hcs, parseNumber_toString hr, Option.some_or]

theorem parsedAs_text (s : String) : ParsedAs (textChars s) (.text s) := by
  intro blanks rest hblanks _
  have hname : readName .json (blanks ++ (textChars s ++ rest)) = some (s, rest) := by
    rw [readName_skip (skipBlanks_blanks hblanks _), readName_text]
  rw [textChars_append] at hname ⊢
  have hskip := skipBlanks_blanks_cons hblanks (c := '"') (by decide)
    (s.toList.flatMap escapedChar ++ '"' :: rest)
  rw [parseValue_scalar hskip (by decide) (by decide), parseScalar, hname]
  rfl

/-! ## Arrays and objects -/

theorem parsedAs_emptyArray : ParsedAs ['[', ']'] (.list []) := by
  intro blanks rest hblanks _
  exact parseValue_emptyArray (skipBlanks_blanks_cons hblanks (by decide) _)
    (skipBlanks_cons (by decide))

theorem parsedAs_emptyObject : ParsedAs ['\x7b', '\x7d'] (ofFields []) := by
  intro blanks rest hblanks _
  exact parseValue_emptyObject (skipBlanks_blanks_cons hblanks (by decide) _)
    (skipBlanks_cons (by decide))

theorem colon_eq (layout : Layout) :
    ∃ blanks, layout.colon = ':' :: blanks ∧ ∀ c ∈ blanks, isBlank c = true := by
  cases layout with
  | compact => exact ⟨[], rfl, List.forall_mem_nil _⟩
  | indented width => exact ⟨[' '], rfl, isBlank_of_mem_space⟩

section Containers

variable {layout : Layout} {depth : Nat}

section Parts

variable {blanks : List Char} (hblanks : ∀ c ∈ blanks, isBlank c = true) (rest : List Char)
  {j : Json} {v : Value} (hj : ParsedAs (chars layout depth j) v)

include hblanks hj

/-- The items of an array are parsed up to its end, by induction on those behind the first. -/
theorem parseItems_chars {js : List Json} {vs : List Value}
    (hjs : List.Forall₂ (fun j v => ParsedAs (chars layout depth j) v) js vs) :
    parseItems (layout.break depth ++ (chars layout depth j ++
      (itemsChars layout depth js ++ (blanks ++ ']' :: rest)))) = some (v :: vs, rest) := by
  have hbreak : ∀ c ∈ layout.break depth, isBlank c = true := fun _ => isBlank_of_mem_break
  induction hjs generalizing j v with
  | nil =>
    have hend : EndsNumber (blanks ++ ']' :: rest) :=
      endsNumber_blanks hblanks (endsNumber_cons _ (by decide))
    exact parseItems_last (hj _ _ hbreak hend) (skipBlanks_blanks_cons hblanks (by decide) rest)
  | cons hk _ ih =>
    refine parseItems_more (hj _ _ hbreak (endsNumber_cons _ (by decide)))
      (skipBlanks_cons (by decide)) ?_
    simpa using ih hk

/-- The fields of an object are parsed up to its end, by induction on those behind the first. -/
theorem parseFields_chars (name : String) {gs : List (String × Json)} {fs : List (String × Value)}
    (hgs : List.Forall₂ (fun g f => g.1 = f.1 ∧ ParsedAs (chars layout depth g.2) f.2) gs fs) :
    parseFields (layout.break depth ++ (textChars name ++ (layout.colon ++ (chars layout depth j ++
      (fieldsChars layout depth gs ++ (blanks ++ '\x7d' :: rest)))))) =
      some ((name, v) :: fs, rest) := by
  obtain ⟨after, hcolon, hafter⟩ := colon_eq layout
  have hname : ∀ (name : String) (cs : List Char),
      readName .json (layout.break depth ++ (textChars name ++ cs)) = some (name, cs) := by
    intro name cs
    rw [readName_skip (skipBlanks_break layout depth _), readName_text]
  induction hgs generalizing name j v with
  | nil =>
    have hend : EndsNumber (blanks ++ '\x7d' :: rest) :=
      endsNumber_blanks hblanks (endsNumber_cons _ (by decide))
    rw [hcolon]
    exact parseFields_last (hname _ _) (skipBlanks_cons (by decide)) (hj _ _ hafter hend)
      (skipBlanks_blanks_cons hblanks (by decide) rest)
  | @cons g f gs fs hg _ ih =>
    obtain ⟨key, item⟩ := g
    obtain ⟨_, value⟩ := f
    obtain ⟨rfl, hg⟩ := hg
    rw [hcolon]
    refine parseFields_more (hname _ _) (skipBlanks_cons (by decide))
      (hj _ _ hafter (endsNumber_cons _ (by decide))) (skipBlanks_cons (by decide)) ?_
    simpa using ih hg key

end Parts

theorem parsedAs_array {js : List Json} {vs : List Value}
    (h : List.Forall₂ (fun j v => ParsedAs (chars layout (depth + 1) j) v) js vs) :
    ParsedAs (chars layout depth (.array js)) (.list vs) := by
  have hbreak : ∀ c ∈ layout.break depth, isBlank c = true := fun _ => isBlank_of_mem_break
  cases h with
  | nil => exact parsedAs_emptyArray
  | @cons j v js vs hj hjs =>
    intro blanks rest hblanks _
    have hitems := parseItems_chars hbreak rest hj hjs
    have hchars : chars layout depth (.array (j :: js)) ++ rest =
        '[' :: (layout.break (depth + 1) ++ (chars layout (depth + 1) j ++
          (itemsChars layout (depth + 1) js ++ (layout.break depth ++ ']' :: rest)))) := by
      simp [chars]
    rw [hchars]
    exact parseValue_array (skipBlanks_blanks_cons hblanks (by decide) _) hitems

/-- The names must differ: of two fields with the same name only one is kept. -/
theorem parsedAs_object {gs : List (String × Json)} {fs : List (String × Value)}
    (hdistinct : (Assoc.keys fs).Nodup)
    (h : List.Forall₂ (fun g f => g.1 = f.1 ∧ ParsedAs (chars layout (depth + 1) g.2) f.2) gs fs) :
    ParsedAs (chars layout depth (.object gs)) (ofFields fs) := by
  have hbreak : ∀ c ∈ layout.break depth, isBlank c = true := fun _ => isBlank_of_mem_break
  have hkept : Assoc.ofList fs = fs := Assoc.ofList_of_distinct
    ((List.pairwise_map.mp hdistinct).imp fun hne => beq_eq_false_iff_ne.mpr hne)
  cases h with
  | nil => exact parsedAs_emptyObject
  | @cons g f gs fs hg hgs =>
    obtain ⟨hname, hj⟩ := hg
    intro blanks rest hblanks _
    have hfields := parseFields_chars hbreak rest hj g.1 hgs
    have hchars : chars layout depth (.object (g :: gs)) ++ rest =
        '\x7b' :: (layout.break (depth + 1) ++ (textChars g.1 ++ (layout.colon ++
          (chars layout (depth + 1) g.2 ++
            (fieldsChars layout (depth + 1) gs ++ (layout.break depth ++ '\x7d' :: rest)))))) := by
      simp [chars]
    rw [hchars, parseValue_object (skipBlanks_blanks_cons hblanks (by decide) _) hfields, hname,
      hkept]

end Containers

/-! ## Whole documents -/

/-- Values that each have a JSON form have one together. -/
theorem exists_ofList {P : Json → Value → Prop} {xs : List Value}
    (h : ∀ x ∈ xs, ∃ j, ofValue x = .ok j ∧ P j x) :
    ∃ js, ofList xs = .ok js ∧ List.Forall₂ P js xs := by
  induction xs with
  | nil => exact ⟨[], rfl, .nil⟩
  | cons x xs ih =>
    obtain ⟨j, hj, hp⟩ := h x (by simp)
    obtain ⟨js, hjs, hps⟩ := ih fun y hy => h y (by simp [hy])
    refine ⟨j :: js, ?_, .cons hp hps⟩
    rw [ofList, hj, hjs]
    rfl

/-- Fields whose values each have a JSON form have one together, under the same names. -/
theorem exists_ofPairs {P : Json → Value → Prop} {fields : List (String × Value)}
    (h : ∀ f ∈ fields, ∃ j, ofValue f.2 = .ok j ∧ P j f.2) :
    ∃ gs, ofPairs (fields.map fun f => (.text f.1, f.2)) = .ok gs ∧
      List.Forall₂ (fun g f => g.1 = f.1 ∧ P g.2 f.2) gs fields := by
  induction fields with
  | nil => exact ⟨[], rfl, .nil⟩
  | cons f fields ih =>
    obtain ⟨j, hj, hp⟩ := h f (by simp)
    obtain ⟨gs, hgs, hps⟩ := ih fun g hg => h g (by simp [hg])
    refine ⟨(f.1, j) :: gs, ?_, .cons ⟨rfl, hp⟩ hps⟩
    rw [List.map_cons, ofPairs, hj, hgs]
    rfl

/-- A document has a JSON form, and what is printed for that is parsed as the document. -/
theorem IsDocument.parsedAs {v : Value} (hv : IsDocument v) (layout : Layout) :
    ∃ j, ofValue v = .ok j ∧ ∀ depth, ParsedAs (chars layout depth j) v := by
  induction hv with
  | null =>
    refine ⟨.null, rfl, fun depth => ?_⟩
    rw [chars]
    exact parsedAs_null
  | bool b =>
    refine ⟨.bool b, rfl, fun depth => ?_⟩
    rw [chars]
    exact parsedAs_bool b
  | int i =>
    refine ⟨.int i, rfl, fun depth => ?_⟩
    rw [chars]
    exact parsedAs_int i
  | text s =>
    refine ⟨.text s, rfl, fun depth => ?_⟩
    rw [chars]
    exact parsedAs_text s
  | list _ ih =>
    obtain ⟨js, hjs, hparsed⟩ := exists_ofList ih
    refine ⟨.array js, by rw [ofValue, hjs]; rfl, fun depth => ?_⟩
    exact parsedAs_array (hparsed.imp fun _ _ h => h (depth + 1))
  | object hdistinct _ ih =>
    obtain ⟨gs, hgs, hparsed⟩ :=
      exists_ofPairs (P := fun j v => ∀ depth, ParsedAs (chars layout depth j) v) ih
    refine ⟨.object gs, by rw [ofFields, ofValue, hgs]; rfl, fun depth => ?_⟩
    exact parsedAs_object hdistinct (hparsed.imp fun _ _ h => ⟨h.1, h.2 (depth + 1)⟩)

theorem parse?_of_parsedAs {text : String} {v : Value} (h : ParsedAs text.toList v) :
    parse? text = some v := by
  have hvalue := h [] [] (List.forall_mem_nil _) endsNumber_nil
  rw [List.nil_append, List.append_nil] at hvalue
  rw [parse?, hvalue]
  rfl

/-- **Documents are parsed back.** A document can be printed, with any indentation or with none. The
text is parsed as that document and nothing else, the fields of its objects in their order. Without
an indentation it is on one line. Where something follows that does not go on with a number, the
document is parsed up to there, and exactly what follows is left over. -/
theorem document_parsed_back {v : Value} (hv : IsDocument v) (indent : Option Int) :
    ∃ text, renderValue (.ofIndent indent) v = .ok text ∧
      parse? text = some v ∧
      (indent = none → '\n' ∉ text.toList) ∧
      ∀ rest : List Char, EndsNumber rest → parseValue (text.toList ++ rest) = some (v, rest) := by
  obtain ⟨j, hj, hparsed⟩ := hv.parsedAs (.ofIndent indent)
  have htext : ParsedAs (render (.ofIndent indent) j).toList v := by
    rw [render, String.toList_ofList]
    exact hparsed 0
  refine ⟨render (.ofIndent indent) j, ?_, parse?_of_parsedAs htext, ?_, fun rest hr => ?_⟩
  · rw [renderValue, hj]
    rfl
  · rintro rfl
    exact newline_not_mem_render j
  · exact htext [] rest (List.forall_mem_nil _) hr

/-- Data with a line break in a text, and with names that are not in the order of their texts. -/
def suitData : Value :=
  ofFields
    [("mark", .text "♥\n"), ("10", .list [.int (-20), .bool true, ofFields []]), ("2", .null)]

theorem isDocument_suitData : IsDocument suitData := by
  have hitems : ∀ x ∈ [.int (-20), .bool true, ofFields []], IsDocument x := by
    simp only [List.forall_mem_cons]
    exact ⟨.int _, .bool _, .object .nil (List.forall_mem_nil _), List.forall_mem_nil _⟩
  refine .object (by decide) ?_
  simp only [List.forall_mem_cons]
  exact ⟨.text _, .list hitems, .null, List.forall_mem_nil _⟩

/-- What is printed for that data without an indentation, parsed in front of another item. -/
theorem suitData_parsed_back :
    IsDocument suitData ∧ EndsNumber ",1]".toList ∧
      ∃ text, text = "\x7b\"mark\":\"♥\\n\",\"10\":[-20,true,\x7b\x7d],\"2\":null\x7d" ∧
        renderValue (.ofIndent none) suitData = .ok text ∧
        parse? text = some suitData ∧ '\n' ∉ text.toList ∧
        parseValue (text.toList ++ ",1]".toList) = some (suitData, ",1]".toList) := by
  have hrest : EndsNumber ",1]".toList := endsNumber_cons "1]".toList (by decide)
  obtain ⟨text, hrender, hparse, hline, hbehind⟩ := document_parsed_back isDocument_suitData none
  have htext : renderValue (.ofIndent none) suitData =
      .ok "\x7b\"mark\":\"♥\\n\",\"10\":[-20,true,\x7b\x7d],\"2\":null\x7d" := rfl
  exact ⟨isDocument_suitData, hrest, text, Except.ok.inj (hrender.symm.trans htext), hrender,
    hparse, hline rfl, hbehind _ hrest⟩

/-- Also what is printed in no layout is parsed: blanks anywhere, other escapes, a name twice. -/
example : parse? " \x7b\"a\" : \"\\/\\ud83d\\ude00\" , \"b\":0,\n\"a\":[ ]\x7d" =
    some (ofFields [("a", .list []), ("b", .int 0)]) := by
  cbv

/-- What is no JSON is refused. -/
example : ["[1,]", "01", "1.", "+1", "NaN", "\"\\x41\"", "\"\t\"", "\x7ba:1\x7d"].filterMap parse? =
    [] := by
  cbv

end EnumExport.Json
