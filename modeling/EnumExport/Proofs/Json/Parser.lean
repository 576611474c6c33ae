import EnumExport.Assoc
import EnumExport.Number.Decimal
import EnumExport.Proofs.Notation.Reader

/-!
# Parsing JSON

JSON is read here by the rules of its grammar, whatever wrote it.

* A number is a whole one unless it has a fraction or an exponent; then it is a double. This is
  `parseNumber`.
* Texts, numbers and words are read by `parseScalar`.
* Arrays and objects hold values, and so their parsers call one another. What one of them reads is
  `Taken` from the front of some characters: fewer are left over. So the next one has less to read,
  and all of them come to an end.
* With the lengths left out these are `parseValue`, `parseItems` and `parseFields`; the rules of the
  grammar are stated for them, one by one.

A name that stands twice in an object keeps its first place and carries its last value. A text with
half of a pair of units, which is no character, is refused.
-/

namespace EnumExport.Json

open Notation

/-! ## Numbers -/

/-- The digits at the front of some characters, and what follows. -/
def spanDigits (cs : List Char) : List Char × List Char :=
  (cs.takeWhile Char.isDigit, cs.dropWhile Char.isDigit)

/-- Whether there is a minus at the front, and what follows. -/
def spanMinus : List Char → Bool × List Char
  | '-' :: cs => (true, cs)
  | cs => (false, cs)

/-- Whether the sign at the front is a minus, and what follows. There need not be a sign. -/
def spanSign : List Char → Bool × List Char
  | '+' :: cs => (false, cs)
  | cs => spanMinus cs

/-- The digits at the front, of which there must be one, and what follows. -/
def digits? (cs : List Char) : Option (List Char × List Char) :=
  if (spanDigits cs).1.isEmpty then none else some (spanDigits cs)

/-- The digits of a fraction, none when there is no point. -/
def fraction? : List Char → Option (List Char × List Char)
  | '.' :: cs => digits? cs
  | cs => some ([], cs)

/-- The number of an exponent, when there is one. -/
def exponent? : List Char → Option (Option Int × List Char)
  | [] => some (none, [])
  | c :: cs =>
    if c = 'e' ∨ c = 'E' then
      (digits? (spanSign cs).2).map fun p =>
        let n : Int := Binary64.digitsValue p.1
        (some (if (spanSign cs).1 then -n else n), p.2)
    else some (none, c :: cs)

/-- The value of a number. A zero stands in front of no other digit. -/
def numberValue? (negative : Bool) (digits fraction : List Char) (exponent : Option Int) :
    Option Value :=
  (natOf? digits).map fun n : Nat =>
    if fraction.isEmpty && exponent.isNone then .int (if negative then -(n : Int) else n)
    else .float (Binary64.ofDecimal negative (Binary64.digitsValue (digits ++ fraction))
      (exponent.getD 0 - fraction.length))

/-- Reads a number. -/
def parseNumber (cs : List Char) : Option (Value × List Char) := do
  let (negative, cs) := spanMinus cs
  let (digits, cs) := spanDigits cs
  let (fraction, cs) ← fraction? cs
  let (exponent, cs) ← exponent? cs
  let v ← numberValue? negative digits fraction exponent
  return (v, cs)

/-! ## Scalars -/

/-- The words of JSON and what they stand for. -/
def words : List (List Char × Value) :=
  [("null".toList, .null), ("true".toList, .bool true), ("false".toList, .bool false)]

/-- Reads a word. -/
def parseWord (cs : List Char) : Option (Value × List Char) :=
  words.findSome? fun w => (Text.dropPart? w.1 cs).map fun rest => (w.2, rest)

/-- Reads a text, a number or a word. -/
def parseScalar (cs : List Char) : Option (Value × List Char) :=
  ((readName .json cs).map fun p => (.text p.1, p.2)).or
    ((parseNumber (skipBlanks cs)).or (parseWord (skipBlanks cs)))

/-- The first character that is not blank, and what follows. -/
def nextChar? (cs : List Char) : Option (Char × List Char) :=
  match skipBlanks cs with
  | [] => none
  | c :: rest => some (c, rest)

/-! ## What is left over -/

section Lengths

variable {cs rest : List Char} {v : Value}

theorem length_spanMinus_le (cs : List Char) : (spanMinus cs).2.length ≤ cs.length := by
  unfold spanMinus
  split
  · simp
  · exact Nat.le_refl _

theorem length_spanSign_le (cs : List Char) : (spanSign cs).2.length ≤ cs.length := by
  unfold spanSign
  split
  · simp
  · exact length_spanMinus_le cs

theorem length_spanDigits (cs : List Char) :
    (spanDigits cs).1.length + (spanDigits cs).2.length = cs.length := by
  rw [spanDigits, ← List.length_append, List.takeWhile_append_dropWhile]

theorem length_of_digits? {ds : List Char} (h : digits? cs = some (ds, rest)) :
    rest.length ≤ cs.length := by
  unfold digits? at h
  split at h
  · cases h
  · have hlength := length_spanDigits cs
    rw [Option.some.inj h] at hlength
    exact Nat.le_of_add_left_le (Nat.le_of_eq hlength)

theorem length_of_fraction? {ds : List Char} (h : fraction? cs = some (ds, rest)) :
    rest.length ≤ cs.length := by
  unfold fraction? at h
  split at h
  · exact Nat.le_succ_of_le (length_of_digits? h)
  · cases h
    exact Nat.le_refl _

theorem length_of_exponent? {e : Option Int} (h : exponent? cs = some (e, rest)) :
    rest.length ≤ cs.length := by
  unfold exponent? at h
  split at h
  · cases h
    exact Nat.le_refl _
  · next c cs =>
    split at h
    · obtain ⟨p, hp, heq⟩ := Option.map_eq_some_iff.mp h
      cases heq
      have hdigits := length_of_digits? hp
      have hsign := length_spanSign_le cs
      rw [List.length_cons]
      omega
    · cases h
      exact Nat.le_refl _

theorem ne_nil_of_natOf? {ds : List Char} {n : Nat} (h : natOf? ds = some n) : ds ≠ [] := by
  rintro rfl
  cases h

theorem length_of_parseNumber (h : parseNumber cs = some (v, rest)) : rest.length < cs.length := by
  unfold parseNumber at h
  simp only [Option.bind_eq_bind, Option.bind_eq_some_iff] at h
  obtain ⟨⟨fraction, cs₁⟩, hfraction, ⟨exponent, cs₂⟩, hexponent, v', hvalue, heq⟩ := h
  cases heq
  -- a number has a digit in front of all that it need not have
  obtain ⟨n, hn, -⟩ := Option.map_eq_some_iff.mp hvalue
  have hdigits := List.length_pos_iff.mpr (ne_nil_of_natOf? hn)
  have hspan := length_spanDigits (spanMinus cs).2
  have hminus := length_spanMinus_le cs
  have hfraction := length_of_fraction? hfraction
  have hexponent := length_of_exponent? hexponent
  dsimp only at hexponent ⊢
  omega

theorem length_of_parseWord (h : parseWord cs = some (v, rest)) : rest.length < cs.length := by
  obtain ⟨w, hw, hread⟩ := List.exists_of_findSome?_eq_some h
  obtain ⟨rest, hdrop, heq⟩ := Option.map_eq_some_iff.mp hread
  cases heq
  have hlength := Text.dropPart?_length hdrop
  have hpos : ∀ w ∈ words, 0 < w.1.length := by decide
  have := hpos w hw
  omega

theorem exists_of_push {c : Char} {read : Option (List Char × List Char)} {text : List Char}
    (h : push c read = some (text, rest)) : ∃ t, read = some (t, rest) := by
  obtain ⟨p, hp, heq⟩ := Option.map_eq_some_iff.mp h
  cases heq
  exact ⟨p.1, hp⟩

theorem length_of_readText {d : Dialect} {q : Char} {text : List Char}
    (h : readText d q cs = some (text, rest)) : rest.length < cs.length := by
  fun_induction readText d q cs generalizing text with
  | case1 => cases h
  | case2 => cases h; simp
  | _ =>
    -- either nothing is read, or a character in front of what is read of a part
    simp only [List.length_cons]
    grind [exists_of_push]

theorem length_skipBlanks_le (cs : List Char) : (skipBlanks cs).length ≤ cs.length :=
  (List.dropWhile_suffix _).length_le

theorem length_of_readName {s : String} (h : readName .json cs = some (s, rest)) :
    rest.length < cs.length := by
  have hskip := length_skipBlanks_le cs
  unfold readName at h
  split at h
  · cases h
  · next c tail hcs =>
    rw [hcs, List.length_cons] at hskip
    split at h
    · obtain ⟨p, hp, heq⟩ := Option.map_eq_some_iff.mp h
      cases heq
      have := length_of_readText hp
      omega
    · simp at h

theorem length_of_parseScalar (h : parseScalar cs = some (v, rest)) : rest.length < cs.length := by
  have hskip := length_skipBlanks_le cs
  rcases Option.or_eq_some_iff.mp h with h | ⟨-, h⟩
  · obtain ⟨p, hp, heq⟩ := Option.map_eq_some_iff.mp h
    cases heq
    exact length_of_readName hp
  · rcases Option.or_eq_some_iff.mp h with h | ⟨-, h⟩
    · exact Nat.lt_of_lt_of_le (length_of_parseNumber h) hskip
    · exact Nat.lt_of_lt_of_le (length_of_parseWord h) hskip

theorem nextChar?_eq_some_iff {c : Char} :
    nextChar? cs = some (c, rest) ↔ skipBlanks cs = c :: rest := by
  unfold nextChar?
  split <;> simp_all

theorem length_of_nextChar? {c : Char} (h : nextChar? cs = some (c, rest)) :
    rest.length < cs.length := by
  have hskip := length_skipBlanks_le cs
  rw [nextChar?_eq_some_iff.mp h] at hskip
  exact hskip

end Lengths

/-- Something read from the front of some characters. -/
structure Taken (α : Type) (cs : List Char) where
  /-- what has been read -/
  value : α
  /-- the characters left over -/
  rest : List Char
  /-- they are fewer than before -/
  shorter : rest.length < cs.length

namespace Taken

variable {α β : Type} {cs rest : List Char} {x : α} {read : Option (α × List Char)}

/-- The same characters, read as something else. -/
def map (f : α → β) (t : Taken α cs) : Taken β cs := ⟨f t.value, t.rest, t.shorter⟩

/-- What has been read behind something else. -/
def behind (front : Taken β cs) (t : Taken α front.rest) : Taken α cs :=
  ⟨t.value, t.rest, Nat.lt_trans t.shorter front.shorter⟩

/-- What has been read, with what is left over. -/
def pair (t : Taken α cs) : α × List Char := (t.value, t.rest)

/-- What a reader answers that leaves fewer characters over. -/
def of? (read : Option (α × List Char))
    (h : ∀ x rest, read = some (x, rest) → rest.length < cs.length) : Option (Taken α cs) :=
  match read, h with
  | none, _ => none
  | some (x, rest), h => some ⟨x, rest, h x rest rfl⟩

theorem of?_eq_some {h : ∀ x rest, read = some (x, rest) → rest.length < cs.length}
    (hread : read = some (x, rest)) : of? read h = some ⟨x, rest, h x rest hread⟩ := by
  subst hread
  rfl

theorem map_pair_of? {h : ∀ x rest, read = some (x, rest) → rest.length < cs.length} :
    (of? read h).map pair = read := by
  cases read <;> rfl

theorem eq_some_of_map_pair {taken : Option (Taken α cs)}
    (h : taken.map pair = some (x, rest)) : ∃ hlt, taken = some ⟨x, rest, hlt⟩ := by
  obtain ⟨t, rfl, heq⟩ := Option.map_eq_some_iff.mp h
  cases heq
  exact ⟨t.shorter, rfl⟩

end Taken

/-! ## Values -/

/-- Takes the first character that is not blank. -/
def takeChar (cs : List Char) : Option (Taken Char cs) :=
  Taken.of? (nextChar? cs) fun _ _ => length_of_nextChar?

/-- Takes a name. -/
def takeName (cs : List Char) : Option (Taken String cs) :=
  Taken.of? (readName .json cs) fun _ _ => length_of_readName

/-- Takes a scalar. -/
def takeScalar (cs : List Char) : Option (Taken Value cs) :=
  Taken.of? (parseScalar cs) fun _ _ => length_of_parseScalar

/-- The object with some fields. -/
def ofFields (fields : List (String × Value)) : Value :=
  .map (fields.map fun f => (.text f.1, f.2))

mutual

/-- Takes a value. -/
def takeValue (cs : List Char) : Option (Taken Value cs) := do
  let c ← takeChar cs
  match c.value with
  | '[' =>
    let d ← takeChar c.rest
    if d.value = ']' then return c.behind (d.map fun _ => .list [])
    else return c.behind ((← takeItems c.rest).map .list)
  | '\x7b' =>
    let d ← takeChar c.rest
    if d.value = '\x7d' then return c.behind (d.map fun _ => ofFields [])
    else return c.behind ((← takeFields c.rest).map fun fields => ofFields (Assoc.ofList fields))
  | _ => takeScalar cs
termination_by 2 * cs.length
decreasing_by
  all_goals
    have := c.shorter
    omega

/-- Takes the items of an array that is not empty, up to its end. -/
def takeItems (cs : List Char) : Option (Taken (List Value) cs) := do
  let v ← takeValue cs
  let c ← takeChar v.rest
  match c.value with
  | ']' => return v.behind (c.map fun _ => [v.value])
  | ',' => return v.behind (c.behind ((← takeItems c.rest).map (v.value :: ·)))
  | _ => none
termination_by 2 * cs.length + 1
decreasing_by
  · omega
  · have := v.shorter
    have := c.shorter
    omega

/-- Takes the fields of an object that is not empty, up to its end. -/
def takeFields (cs : List Char) : Option (Taken (List (String × Value)) cs) := do
  let name ← takeName cs
  let colon ← takeChar name.rest
  if colon.value = ':' then
    let v ← takeValue colon.rest
    let c ← takeChar v.rest
    let field := (name.value, v.value)
    match c.value with
    | '\x7d' => return name.behind (colon.behind (v.behind (c.map fun _ => [field])))
    | ',' =>
      let fields ← takeFields c.rest
      return name.behind (colon.behind (v.behind (c.behind (fields.map (field :: ·)))))
    | _ => none
  else none
termination_by 2 * cs.length + 1
decreasing_by
  all_goals
    have := name.shorter
    have := colon.shorter
  · omega
  · have := v.shorter
    have := c.shorter
    omega

end

/-- Reads a value. -/
def parseValue (cs : List Char) : Option (Value × List Char) :=
  (takeValue cs).map Taken.pair

/-- Reads the items of an array that is not empty, up to its end. -/
def parseItems (cs : List Char) : Option (List Value × List Char) :=
  (takeItems cs).map Taken.pair

/-- Reads the fields of an object that is not empty, up to its end. -/
def parseFields (cs : List Char) : Option (List (String × Value) × List Char) :=
  (takeFields cs).map Taken.pair

/-- The value that a text holds and nothing else. -/
def parse? (text : String) : Option Value :=
  match parseValue text.toList with
  | some (v, rest) => if (skipBlanks rest).isEmpty then some v else none
  | none => none

/-! ## The rules -/

section Rules

variable {cs inner field behind rest : List Char} {c : Char} {v : Value} {vs : List Value}
  {name : String} {fields : List (String × Value)}

theorem takeChar_eq_some (h : skipBlanks cs = c :: rest) :
    ∃ hlt, takeChar cs = some ⟨c, rest, hlt⟩ :=
  ⟨_, Taken.of?_eq_some (nextChar?_eq_some_iff.mpr h)⟩

theorem skipBlanks_of_takeChar {t : Taken Char cs} (h : takeChar cs = some t) :
    skipBlanks cs = t.value :: t.rest := by
  have hpair : (takeChar cs).map Taken.pair = some t.pair := by rw [h]; rfl
  rw [takeChar, Taken.map_pair_of?] at hpair
  exact nextChar?_eq_some_iff.mp hpair

/-- What opens neither an array nor an object is a scalar. -/
theorem parseValue_scalar (hfirst : skipBlanks cs = c :: rest) (hsquare : c ≠ '[')
    (hcurly : c ≠ '\x7b') : parseValue cs = parseScalar cs := by
  obtain ⟨_, hfirst⟩ := takeChar_eq_some hfirst
  rw [parseValue, takeValue, hfirst]
  simp only [Option.bind_eq_bind, Option.bind_some]
  exact Taken.map_pair_of?

theorem parseValue_emptyArray (hopen : skipBlanks cs = '[' :: inner)
    (hclose : skipBlanks inner = ']' :: rest) : parseValue cs = some (.list [], rest) := by
  obtain ⟨_, hopen⟩ := takeChar_eq_some hopen
  obtain ⟨_, hclose⟩ := takeChar_eq_some hclose
  rw [parseValue, takeValue, hopen]
  simp only [Option.bind_eq_bind, Option.bind_some, hclose]
  rfl

/-- No value begins with the end of an array. -/
theorem parseValue_bracket (h : skipBlanks cs = ']' :: rest) : parseValue cs = none := by
  have hname : readName .json cs = none := by
    rw [readName, h]
    rfl
  rw [parseValue_scalar h (by decide) (by decide), parseScalar, hname, h]
  rfl

theorem opens_of_takeItems {t : Taken (List Value) cs} (h : takeItems cs = some t) :
    ∃ c tail, skipBlanks cs = c :: tail ∧ c ≠ ']' := by
  rw [takeItems] at h
  obtain ⟨v, hv, -⟩ := Option.bind_eq_some_iff.mp h
  have hvalue : parseValue cs = some v.pair := by
    rw [parseValue, hv]
    rfl
  rw [takeValue] at hv
  obtain ⟨c, hc, -⟩ := Option.bind_eq_some_iff.mp hv
  have hskip := skipBlanks_of_takeChar hc
  refine ⟨c.value, c.rest, hskip, fun heq => ?_⟩
  rw [heq] at hskip
  rw [parseValue_bracket hskip] at hvalue
  cases hvalue

theorem parseValue_array (hopen : skipBlanks cs = '[' :: inner)
    (hitems : parseItems inner = some (vs, rest)) : parseValue cs = some (.list vs, rest) := by
  obtain ⟨_, hitems⟩ := Taken.eq_some_of_map_pair hitems
  obtain ⟨c, tail, hinner, hc⟩ := opens_of_takeItems hitems
  obtain ⟨_, hopen⟩ := takeChar_eq_some hopen
  obtain ⟨_, hinner⟩ := takeChar_eq_some hinner
  rw [parseValue, takeValue, hopen]
  simp only [Option.bind_eq_bind, Option.bind_some, hinner, if_neg hc, hitems]
  rfl

theorem parseValue_emptyObject (hopen : skipBlanks cs = '\x7b' :: inner)
    (hclose : skipBlanks inner = '\x7d' :: rest) : parseValue cs = some (ofFields [], rest) := by
  obtain ⟨_, hopen⟩ := takeChar_eq_some hopen
  obtain ⟨_, hclose⟩ := takeChar_eq_some hclose
  rw [parseValue, takeValue, hopen]
  simp only [Option.bind_eq_bind, Option.bind_some, hclose]
  rfl

theorem opens_of_takeFields {t : Taken (List (String × Value)) cs} (h : takeFields cs = some t) :
    ∃ c tail, skipBlanks cs = c :: tail ∧ c ≠ '\x7d' := by
  rw [takeFields] at h
  obtain ⟨name, hname, -⟩ := Option.bind_eq_some_iff.mp h
  have hpair : (takeName cs).map Taken.pair = some name.pair := by rw [hname]; rfl
  rw [takeName, Taken.map_pair_of?, readName] at hpair
  cases hskip : skipBlanks cs with
  | nil =>
    rw [hskip] at hpair
    cases hpair
  | cons c tail =>
    refine ⟨c, tail, rfl, ?_⟩
    rintro rfl
    rw [hskip] at hpair
    cases hpair

theorem parseValue_object (hopen : skipBlanks cs = '\x7b' :: inner)
    (hfields : parseFields inner = some (fields, rest)) :
    parseValue cs = some (ofFields (Assoc.ofList fields), rest) := by
  obtain ⟨_, hfields⟩ := Taken.eq_some_of_map_pair hfields
  obtain ⟨c, tail, hinner, hc⟩ := opens_of_takeFields hfields
  obtain ⟨_, hopen⟩ := takeChar_eq_some hopen
  obtain ⟨_, hinner⟩ := takeChar_eq_some hinner
  rw [parseValue, takeValue, hopen]
  simp only [Option.bind_eq_bind, Option.bind_some, hinner, if_neg hc, hfields]
  rfl

theorem parseItems_last (hvalue : parseValue cs = some (v, behind))
    (hclose : skipBlanks behind = ']' :: rest) : parseItems cs = some ([v], rest) := by
  obtain ⟨_, hvalue⟩ := Taken.eq_some_of_map_pair hvalue
  obtain ⟨_, hclose⟩ := takeChar_eq_some hclose
  rw [parseItems, takeItems, hvalue]
  simp only [Option.bind_eq_bind, Option.bind_some, hclose]
  rfl

theorem parseItems_more (hvalue : parseValue cs = some (v, behind))
    (hcomma : skipBlanks behind = ',' :: inner) (hitems : parseItems inner = some (vs, rest)) :
    parseItems cs = some (v :: vs, rest) := by
  obtain ⟨_, hvalue⟩ := Taken.eq_some_of_map_pair hvalue
  obtain ⟨_, hcomma⟩ := takeChar_eq_some hcomma
  obtain ⟨_, hitems⟩ := Taken.eq_some_of_map_pair hitems
  rw [parseItems, takeItems, hvalue]
  simp only [Option.bind_eq_bind, Option.bind_some, hcomma, hitems]
  rfl

variable (hname : readName .json cs = some (name, inner)) (hcolon : skipBlanks inner = ':' :: field)
  (hvalue : parseValue field = some (v, behind))

include hname hcolon hvalue

theorem parseFields_last (hclose : skipBlanks behind = '\x7d' :: rest) :
    parseFields cs = some ([(name, v)], rest) := by
  have hname : takeName cs = some ⟨name, inner, _⟩ := Taken.of?_eq_some hname
  obtain ⟨_, hcolon⟩ := takeChar_eq_some hcolon
  obtain ⟨_, hvalue⟩ := Taken.eq_some_of_map_pair hvalue
  obtain ⟨_, hclose⟩ := takeChar_eq_some hclose
  rw [parseFields, takeFields, hname]
  simp only [Option.bind_eq_bind, Option.bind_some, hcolon, if_true, hvalue, hclose]
  rfl

theorem parseFields_more {more : List Char} (hcomma : skipBlanks behind = ',' :: more)
    (hfields : parseFields more = some (fields, rest)) :
    parseFields cs = some ((name, v) :: fields, rest) := by
  have hname : takeName cs = some ⟨name, inner, _⟩ := Taken.of?_eq_some hname
  obtain ⟨_, hcolon⟩ := takeChar_eq_some hcolon
  obtain ⟨_, hvalue⟩ := Taken.eq_some_of_map_pair hvalue
  obtain ⟨_, hcomma⟩ := takeChar_eq_some hcomma
  obtain ⟨_, hfields⟩ := Taken.eq_some_of_map_pair hfields
  rw [parseFields, takeFields, hname]
  simp only [Option.bind_eq_bind, Option.bind_some, hcolon, if_true, hvalue, hcomma, hfields]
  rfl

end Rules

end EnumExport.Json
