import EnumExport.Proofs.Notation.Text
import EnumExport.Proofs.Notation.Word

/-!
# JSON read back

What `Json.chars` writes is read back in either layout, at every depth and in both dialects, as
JSON is a part of the literals of a script. The reading stops exactly where the writing did.

The main statement is `readValue_chars`; it is proved together with its counterparts for the items
of an array and the fields of an object, along the structure of the value.
-/

namespace EnumExport

namespace Json

mutual

/-- The data that a JSON value stands for. -/
def toValue : Json → Value
  | .null => .null
  | .bool b => .bool b
  | .int i => .int i
  | .float x => .float x
  | .text s => .text s
  | .array xs => .list (toValues xs)
  | .object fields => .map (toPairs fields)

/-- The data of several values. -/
def toValues : List Json → List Value
  | [] => []
  | x :: xs => toValue x :: toValues xs

/-- The data of several fields. -/
def toPairs : List (String × Json) → List (Value × Value)
  | [] => []
  | (k, x) :: fields => (.text k, toValue x) :: toPairs fields

end

mutual

/-- Whether all numbers of a JSON value are whole ones. -/
def isWhole : Json → Bool
  | .float _ => false
  | .array xs => areWhole xs
  | .object fields => fieldsWhole fields
  | _ => true

/-- Whether all numbers of several values are whole ones. -/
def areWhole : List Json → Bool
  | [] => true
  | x :: xs => isWhole x && areWhole xs

/-- Whether all numbers of several fields are whole ones. -/
def fieldsWhole : List (String × Json) → Bool
  | [] => true
  | (_, x) :: fields => isWhole x && fieldsWhole fields

end

end Json

namespace Notation

open Json

/-! ## Blanks -/

theorem skipBlanks_blanks {blanks : List Char} (h : ∀ c ∈ blanks, isBlank c = true)
    (cs : List Char) : skipBlanks (blanks ++ cs) = skipBlanks cs :=
  List.dropWhile_append_of_pos h

/-- A space is a blank, alone or in front of others. -/
theorem isBlank_of_mem_space : ∀ c ∈ [' '], isBlank c = true :=
  List.forall_mem_singleton.mpr rfl

theorem skipBlanks_space (cs : List Char) : skipBlanks (' ' :: cs) = skipBlanks cs :=
  skipBlanks_blanks isBlank_of_mem_space cs

theorem isWordChar_of_isBlank {c : Char} (h : isBlank c = true) : isWordChar c = false := by
  cases hw : isWordChar c with
  | false => rfl
  | true =>
    rw [(isWordChar_opens hw).1] at h
    cases h

theorem skipBlanks_skipBlanks (cs : List Char) : skipBlanks (skipBlanks cs) = skipBlanks cs := by
  induction cs with
  | nil => rfl
  | cons c cs ih =>
    cases h : isBlank c with
    | true => simpa [skipBlanks, h] using ih
    | false => rw [skipBlanks_cons h, skipBlanks_cons h]

theorem isBlank_of_mem_break {layout : Layout} {depth : Nat} {c : Char}
    (h : c ∈ layout.break depth) : isBlank c = true := by
  cases layout with
  | compact => cases h
  | indented width =>
    rcases List.mem_cons.mp h with rfl | h
    · decide
    · rw [List.eq_of_mem_replicate h]
      decide

theorem skipBlanks_break (layout : Layout) (depth : Nat) (cs : List Char) :
    skipBlanks (layout.break depth ++ cs) = skipBlanks cs :=
  skipBlanks_blanks (fun _ => isBlank_of_mem_break) cs

theorem endsWord_blanks {blanks cs : List Char} (hblanks : ∀ c ∈ blanks, isBlank c = true)
    (h : EndsWord cs) : EndsWord (blanks ++ cs) := by
  cases blanks with
  | nil => exact h
  | cons c blanks => exact endsWord_cons _ (isWordChar_of_isBlank (hblanks c (by simp)))

/-- Blanks in front of a value do not matter. -/
theorem readValue_skip {d : Dialect} {fuel : Nat} {cs ds : List Char}
    (h : skipBlanks cs = skipBlanks ds) : readValue d fuel cs = readValue d fuel ds := by
  cases fuel with
  | zero => rw [readValue, readValue]
  | succ n => rw [readValue, readValue, h]

/-- Blanks in front of a property name do not matter. -/
theorem readName_skip {d : Dialect} {cs ds : List Char} (h : skipBlanks cs = skipBlanks ds) :
    readName d cs = readName d ds := by
  rw [readName, readName, h]

/-! ## Items and fields one by one -/

section Steps

variable {d : Dialect} {fuel : Nat} {mayEnd : Bool} {v : Value} {name : String}
  {cs rest behind inner : List Char}

theorem readValue_bracket : readValue d fuel (']' :: cs) = none := by
  cases fuel with
  | zero => rw [readValue]
  | succ n =>
    rw [readValue, skipBlanks_cons (by decide)]
    cases d <;> rfl

theorem readName_bracket : readName d ('\x7d' :: cs) = none := by
  rw [readName, skipBlanks_cons (by decide)]
  cases d <;> rfl

/-- Where a value comes next, the items are not at their end. -/
theorem readItems_of_readValue (h : readValue d fuel cs = some (v, rest)) :
    readItems d (fuel + 1) mayEnd cs =
      match skipBlanks rest with
      | ']' :: rest => some ([v], rest)
      | ',' :: rest => (readItems d fuel (d == .script) rest).map fun p => (v :: p.1, p.2)
      | _ => none := by
  have hskip : readValue d fuel (skipBlanks cs) = some (v, rest) := by
    rw [readValue_skip (skipBlanks_skipBlanks cs), h]
  rw [readItems]
  split
  · next hend =>
    rw [hend, readValue_bracket] at hskip
    cases hskip
  · exact hskip ▸ rfl

theorem readItems_end (hend : skipBlanks cs = ']' :: behind) :
    readItems d (fuel + 1) true cs = some ([], behind) := by
  rw [readItems, hend]
  rfl

/-- Where a name comes next, the fields are not at their end. -/
theorem readFields_of_readName (hname : readName d cs = some (name, inner))
    (hcolon : skipBlanks inner = ':' :: behind) (h : readValue d fuel behind = some (v, rest)) :
    readFields d (fuel + 1) mayEnd cs =
      match skipBlanks rest with
      | '\x7d' :: rest => some ([(.text name, v)], rest)
      | ',' :: rest =>
        (readFields d fuel (d == .script) rest).map fun p => ((.text name, v) :: p.1, p.2)
      | _ => none := by
  have hskip : readName d (skipBlanks cs) = some (name, inner) := by
    rw [readName_skip (skipBlanks_skipBlanks cs), hname]
  rw [readFields]
  split
  · next hend =>
    rw [hend, readName_bracket] at hskip
    cases hskip
  · simp only [hskip, hcolon]
    exact h ▸ rfl

theorem readFields_end (hend : skipBlanks cs = '\x7d' :: behind) :
    readFields d (fuel + 1) true cs = some ([], behind) := by
  rw [readFields, hend]
  rfl

/-- An array is read as its items. -/
theorem readValue_array (hopen : skipBlanks cs = '[' :: inner) :
    readValue d (fuel + 1) cs = (readItems d fuel true inner).map fun p => (.list p.1, p.2) := by
  rw [readValue, hopen]
  rfl

/-- An object is read as its fields. -/
theorem readValue_object (hopen : skipBlanks cs = '\x7b' :: inner) :
    readValue d (fuel + 1) cs = (readFields d fuel true inner).map fun p => (.map p.1, p.2) := by
  rw [readValue, hopen]
  rfl

end Steps

/-! ## Texts -/

theorem textChars_append (s : String) (rest : List Char) :
    textChars s ++ rest = '"' :: (s.toList.flatMap escapedChar ++ '"' :: rest) := by
  simp [textChars]

/-- A text of JSON is read back as a value. -/
theorem readValue_text (d : Dialect) (fuel : Nat) (s : String) (rest : List Char) :
    readValue d (fuel + 1) (textChars s ++ rest) = some (.text s, rest) := by
  rw [textChars_append, readValue, skipBlanks_cons (by decide)]
  simp [isQuote, (escapes_json d).readText]

/-- A text of JSON is read back as a property name. -/
theorem readName_text (d : Dialect) (s : String) (rest : List Char) :
    readName d (textChars s ++ rest) = some (s, rest) := by
  rw [textChars_append, readName, skipBlanks_cons (by decide)]
  simp [isQuote, (escapes_json d).readText]

/-! ## Values -/

theorem skipBlanks_colon (layout : Layout) (cs : List Char) :
    ∃ behind, skipBlanks (layout.colon ++ cs) = ':' :: behind ∧
      skipBlanks behind = skipBlanks cs := by
  cases layout with
  | compact => exact ⟨cs, skipBlanks_cons (by decide), rfl⟩
  | indented width =>
    exact ⟨' ' :: cs, skipBlanks_cons (by decide), skipBlanks_space cs⟩

/-- An item is read as its value. -/
theorem readItems_item {d : Dialect} {fuel : Nat} {mayEnd : Bool} (layout : Layout) (depth : Nat)
    {v : Value} {body cs : List Char} (h : readValue d fuel (body ++ cs) = some (v, cs)) :
    readItems d (fuel + 1) mayEnd (layout.break depth ++ (body ++ cs)) =
      match skipBlanks cs with
      | ']' :: rest => some ([v], rest)
      | ',' :: rest => (readItems d fuel (d == .script) rest).map fun p => (v :: p.1, p.2)
      | _ => none := by
  rw [← readValue_skip (skipBlanks_break layout depth _)] at h
  exact readItems_of_readValue h

/-- A field is read as its name and its value. -/
theorem readFields_field {d : Dialect} {fuel : Nat} {mayEnd : Bool} (layout : Layout) (depth : Nat)
    (k : String) {v : Value} {body cs : List Char}
    (h : readValue d fuel (body ++ cs) = some (v, cs)) :
    readFields d (fuel + 1) mayEnd
      (layout.break depth ++ (textChars k ++ (layout.colon ++ (body ++ cs)))) =
      match skipBlanks cs with
      | '\x7d' :: rest => some ([(.text k, v)], rest)
      | ',' :: rest =>
        (readFields d fuel (d == .script) rest).map fun p => ((.text k, v) :: p.1, p.2)
      | _ => none := by
  have hname := readName_text d k (layout.colon ++ (body ++ cs))
  rw [← readName_skip (skipBlanks_break layout depth _)] at hname
  obtain ⟨behind, hcolon, hbehind⟩ := skipBlanks_colon layout (body ++ cs)
  rw [← readValue_skip hbehind] at h
  exact readFields_of_readName hname hcolon h

mutual

/-- **JSON read back.** What is written for a value is read as its data, in either layout and in
both dialects, with exactly what follows left over. -/
theorem readValue_chars (layout : Layout) (d : Dialect) :
    ∀ (j : Json) (depth fuel : Nat) (rest : List Char), j.isWhole = true → EndsWord rest →
      2 * (chars layout depth j).length ≤ fuel →
      readValue d fuel (chars layout depth j ++ rest) = some (j.toValue, rest)
  | .null, depth, fuel, rest, _, hr, hfuel => by
    obtain ⟨n, rfl⟩ : ∃ n, fuel = n + 1 := ⟨fuel - 1, by simp [chars] at hfuel; omega⟩
    have hword : ∀ c ∈ "null".toList, isWordChar c = true := List.all_eq_true.mp (by decide)
    exact readValue_word "null".toList (by decide) hword (by decide) hr
  | .bool b, depth, fuel, rest, _, hr, hfuel => by
    obtain ⟨n, rfl⟩ : ∃ n, fuel = n + 1 :=
      ⟨fuel - 1, by cases b <;> simp [chars] at hfuel <;> omega⟩
    have hfalse : ∀ c ∈ "false".toList, isWordChar c = true := List.all_eq_true.mp (by decide)
    have htrue : ∀ c ∈ "true".toList, isWordChar c = true := List.all_eq_true.mp (by decide)
    cases b with
    | false => exact readValue_word "false".toList (by decide) hfalse (by decide) hr
    | true => exact readValue_word "true".toList (by decide) htrue (by decide) hr
  | .int i, depth, fuel, rest, _, hr, hfuel => by
    have hpos := List.length_pos_iff.mpr (toString_int_ne_nil i)
    rw [chars] at hfuel ⊢
    obtain ⟨n, rfl⟩ : ∃ n, fuel = n + 1 := ⟨fuel - 1, by omega⟩
    exact readValue_int d n i hr
  | .text s, depth, fuel, rest, _, hr, hfuel => by
    obtain ⟨n, rfl⟩ : ∃ n, fuel = n + 1 := ⟨fuel - 1, by simp [chars, textChars] at hfuel; omega⟩
    rw [chars]
    exact readValue_text d n s rest
  | .array [], depth, fuel, rest, _, hr, hfuel => by
    obtain ⟨n, rfl⟩ : ∃ n, fuel = n + 2 := ⟨fuel - 2, by simp [chars] at hfuel; omega⟩
    rw [chars, List.cons_append, List.cons_append, List.nil_append,
      readValue_array (skipBlanks_cons (by decide)), readItems_end (skipBlanks_cons (by decide))]
    rfl
  | .array (x :: xs), depth, fuel, rest, hj, hr, hfuel => by
    obtain ⟨hx, hxs⟩ : x.isWhole = true ∧ areWhole xs = true := by
      simpa [isWhole, areWhole] using hj
    -- two units for each character: the brackets pay for the steps that are no values
    simp only [chars, List.length_append, List.length_cons, List.length_nil] at hfuel
    obtain ⟨n, rfl⟩ : ∃ n, fuel = n + 1 := ⟨fuel - 1, by omega⟩
    have hitems := readItems_chars layout d x xs (depth + 1) n true (layout.break depth) rest hx hxs
      (fun _ => isBlank_of_mem_break) (by omega)
    simp only [chars, List.cons_append, List.append_assoc, List.nil_append]
    rw [readValue_array (skipBlanks_cons (by decide)), hitems]
    rfl
  | .object [], depth, fuel, rest, _, hr, hfuel => by
    obtain ⟨n, rfl⟩ : ∃ n, fuel = n + 2 := ⟨fuel - 2, by simp [chars] at hfuel; omega⟩
    rw [chars, List.cons_append, List.cons_append, List.nil_append,
      readValue_object (skipBlanks_cons (by decide)), readFields_end (skipBlanks_cons (by decide))]
    rfl
  | .object ((k, x) :: fields), depth, fuel, rest, hj, hr, hfuel => by
    obtain ⟨hx, hfields⟩ : x.isWhole = true ∧ fieldsWhole fields = true := by
      simpa [isWhole, fieldsWhole] using hj
    simp only [chars, List.length_append, List.length_cons, List.length_nil] at hfuel
    obtain ⟨n, rfl⟩ : ∃ n, fuel = n + 1 := ⟨fuel - 1, by omega⟩
    have hread := readFields_chars layout d k x fields (depth + 1) n true (layout.break depth) rest
      hx hfields (fun _ => isBlank_of_mem_break) (by omega)
    simp only [chars, List.cons_append, List.append_assoc, List.nil_append]
    rw [readValue_object (skipBlanks_cons (by decide)), hread]
    rfl
termination_by j => sizeOf j

/-- The items of an array are read back up to its end. -/
theorem readItems_chars (layout : Layout) (d : Dialect) :
    ∀ (x : Json) (xs : List Json) (depth fuel : Nat) (mayEnd : Bool) (blanks rest : List Char),
      x.isWhole = true → areWhole xs = true → (∀ c ∈ blanks, isBlank c = true) →
      2 * ((chars layout depth x).length + (itemsChars layout depth xs).length + 1) < fuel →
      readItems d fuel mayEnd (layout.break depth ++ (chars layout depth x ++
        (itemsChars layout depth xs ++ (blanks ++ ']' :: rest)))) =
        some (x.toValue :: toValues xs, rest)
  | x, [], depth, fuel, mayEnd, blanks, rest, hx, _, hblanks, hfuel => by
    obtain ⟨n, rfl⟩ : ∃ n, fuel = n + 1 := ⟨fuel - 1, by omega⟩
    have hvalue := readValue_chars layout d x depth n (blanks ++ ']' :: rest) hx
      (endsWord_blanks hblanks (endsWord_cons _ (by decide))) (by omega)
    rw [itemsChars, List.nil_append, readItems_item layout depth hvalue,
      skipBlanks_blanks hblanks, skipBlanks_cons (by decide)]
    rfl
  | x, y :: ys, depth, fuel, mayEnd, blanks, rest, hx, hxs, hblanks, hfuel => by
    obtain ⟨hy, hys⟩ : y.isWhole = true ∧ areWhole ys = true := by simpa [areWhole] using hxs
    simp only [itemsChars, List.length_append, List.length_cons] at hfuel
    obtain ⟨n, rfl⟩ : ∃ n, fuel = n + 1 := ⟨fuel - 1, by omega⟩
    have hvalue := readValue_chars layout d x depth n
      (itemsChars layout depth (y :: ys) ++ (blanks ++ ']' :: rest)) hx
      (endsWord_cons _ (by decide)) (by omega)
    have hrest := readItems_chars layout d y ys depth n (d == .script) blanks rest hy hys hblanks
      (by omega)
    rw [readItems_item layout depth hvalue]
    simp only [itemsChars, List.cons_append, List.append_assoc]
    rw [skipBlanks_cons (by decide)]
    simp only [hrest]
    rfl
termination_by x xs => sizeOf x + sizeOf xs + 1

/-- The fields of an object are read back up to its end. -/
theorem readFields_chars (layout : Layout) (d : Dialect) :
    ∀ (k : String) (x : Json) (fields : List (String × Json)) (depth fuel : Nat) (mayEnd : Bool)
      (blanks rest : List Char),
      x.isWhole = true → fieldsWhole fields = true → (∀ c ∈ blanks, isBlank c = true) →
      2 * ((chars layout depth x).length + (fieldsChars layout depth fields).length + 1) < fuel →
      readFields d fuel mayEnd (layout.break depth ++ (textChars k ++ (layout.colon ++
        (chars layout depth x ++ (fieldsChars layout depth fields ++ (blanks ++ '\x7d' :: rest)))))) =
        some ((.text k, x.toValue) :: toPairs fields, rest)
  | k, x, [], depth, fuel, mayEnd, blanks, rest, hx, _, hblanks, hfuel => by
    obtain ⟨n, rfl⟩ : ∃ n, fuel = n + 1 := ⟨fuel - 1, by omega⟩
    have hvalue := readValue_chars layout d x depth n (blanks ++ '\x7d' :: rest) hx
      (endsWord_blanks hblanks (endsWord_cons _ (by decide))) (by omega)
    rw [fieldsChars, List.nil_append, readFields_field layout depth k hvalue,
      skipBlanks_blanks hblanks, skipBlanks_cons (by decide)]
    rfl
  | k, x, (k', y) :: fields, depth, fuel, mayEnd, blanks, rest, hx, hfields, hblanks, hfuel => by
    obtain ⟨hy, hys⟩ : y.isWhole = true ∧ fieldsWhole fields = true := by
      simpa [fieldsWhole] using hfields
    simp only [fieldsChars, List.length_append, List.length_cons] at hfuel
    obtain ⟨n, rfl⟩ : ∃ n, fuel = n + 1 := ⟨fuel - 1, by omega⟩
    have hvalue := readValue_chars layout d x depth n
      (fieldsChars layout depth ((k', y) :: fields) ++ (blanks ++ '\x7d' :: rest)) hx
      (endsWord_cons _ (by decide)) (by omega)
    have hrest := readFields_chars layout d k' y fields depth n (d == .script) blanks rest hy hys
      hblanks (by omega)
    rw [readFields_field layout depth k hvalue]
    simp only [fieldsChars, List.cons_append, List.append_assoc]
    rw [skipBlanks_cons (by decide)]
    simp only [hrest]
    rfl
termination_by _ x fields => sizeOf x + sizeOf fields + 1

end

end Notation

end EnumExport
