/-!
# Splitting, joining and replacing

Texts as lists of characters: cutting at a separator, joining with one, and replacing every
occurrence of a part from left to right without looking at what was put in.
-/

namespace EnumExport.Text

/-- The pieces between the separators; there is always one more piece than separators. -/
def splitChars (sep : Char) : List Char → List (List Char)
  | [] => [[]]
  | c :: rest =>
    if c = sep then [] :: splitChars sep rest
    else match splitChars sep rest with
      | [] => [[c]]
      | piece :: pieces => (c :: piece) :: pieces

theorem splitChars_of_not_mem {sep : Char} {cs : List Char} (h : sep ∉ cs) :
    splitChars sep cs = [cs] := by
  induction cs with
  | nil => rfl
  | cons c cs ih =>
    have hc : c ≠ sep := by
      rintro rfl
      exact h (by simp)
    rw [splitChars, if_neg hc, ih fun hmem => h (List.mem_cons_of_mem c hmem)]

theorem splitChars_ne_nil (sep : Char) (cs : List Char) : splitChars sep cs ≠ [] := by
  cases cs with
  | nil => simp [splitChars]
  | cons c cs =>
    rw [splitChars]
    split
    · simp
    · split <;> simp

/-- The pieces of what stands on both sides of a separator. -/
theorem splitChars_append_sep (sep : Char) (cs rest : List Char) :
    splitChars sep (cs ++ sep :: rest) = splitChars sep cs ++ splitChars sep rest := by
  induction cs with
  | nil => simp [splitChars]
  | cons c cs ih =>
    rw [List.cons_append, splitChars, splitChars, ih]
    split
    · rfl
    · cases hpieces : splitChars sep cs with
      | nil => exact absurd hpieces (splitChars_ne_nil sep cs)
      | cons piece pieces => rfl

/-- No piece holds the separator. -/
theorem sep_not_mem_splitChars {sep : Char} {cs piece : List Char} (h : piece ∈ splitChars sep cs) :
    sep ∉ piece := by
  induction cs generalizing piece with
  | nil =>
    rw [splitChars, List.mem_singleton] at h
    simp [h]
  | cons c cs ih =>
    rw [splitChars] at h
    split at h
    · rcases List.mem_cons.mp h with rfl | h
      · simp
      · exact ih h
    · next hc =>
      split at h
      · rw [List.mem_singleton] at h
        simpa [h] using Ne.symm hc
      · next first pieces hpieces =>
        rcases List.mem_cons.mp h with rfl | h
        · have hfirst := ih (hpieces ▸ List.mem_cons_self)
          simp [hfirst, Ne.symm hc]
        · exact ih (hpieces ▸ List.mem_cons_of_mem _ h)

/-- The pieces with separators between them are the whole. -/
theorem intercalate_splitChars (sep : Char) (cs : List Char) :
    [sep].intercalate (splitChars sep cs) = cs := by
  induction cs with
  | nil => rfl
  | cons c cs ih =>
    obtain ⟨piece, pieces, hpieces⟩ := List.exists_cons_of_ne_nil (splitChars_ne_nil sep cs)
    rw [hpieces] at ih
    rw [splitChars, hpieces]
    split
    · next hc =>
      rw [List.intercalate_cons_cons, ih, hc]
      rfl
    · cases pieces with
      | nil => simpa using ih
      | cons next pieces =>
        rw [List.intercalate_cons_cons] at ih ⊢
        rw [← ih]
        simp

/-- The pieces of a text between the separators. -/
def split (sep : Char) (s : String) : List String :=
  (splitChars sep s.toList).map String.ofList

/-! ## Dotted names -/

theorem split_ne_nil (s : String) : split '.' s ≠ [] := by
  intro hnil
  exact splitChars_ne_nil '.' s.toList (List.map_eq_nil_iff.mp hnil)

theorem point_not_mem_split {s part : String} (h : part ∈ split '.' s) : '.' ∉ part.toList := by
  obtain ⟨piece, hpiece, rfl⟩ := List.mem_map.mp h
  rw [String.toList_ofList]
  exact sep_not_mem_splitChars hpiece

theorem split_append_point (s t : String) :
    split '.' (s ++ "." ++ t) = split '.' s ++ split '.' t := by
  have hchars : (s ++ "." ++ t).toList = s.toList ++ '.' :: t.toList := by simp
  rw [split, hchars, splitChars_append_sep, List.map_append]
  rfl

theorem split_of_point_not_mem {s : String} (h : '.' ∉ s.toList) : split '.' s = [s] := by
  rw [split, splitChars_of_not_mem h, List.map_singleton, String.ofList_toList]

/-- The parts of a dotted name. -/
theorem split_intercalate {parts : List String} (hne : parts ≠ [])
    (h : ∀ p ∈ parts, '.' ∉ p.toList) : split '.' (".".intercalate parts) = parts := by
  induction parts with
  | nil => exact absurd rfl hne
  | cons p rest ih =>
    have hp := split_of_point_not_mem (h p (by simp))
    cases rest with
    | nil => rw [String.intercalate_singleton, hp]
    | cons q rest =>
      rw [String.intercalate_cons_cons, split_append_point, hp,
        ih (by simp) fun r hr => h r (List.mem_cons_of_mem p hr)]
      rfl

theorem intercalate_split (s : String) : ".".intercalate (split '.' s) = s := by
  have hpieces : (split '.' s).map String.toList = splitChars '.' s.toList := by
    rw [split, List.map_map]
    simp [Function.comp_def]
  rw [← String.toList_inj, String.toList_intercalate, hpieces]
  exact intercalate_splitChars '.' s.toList

/-! ## Replacing -/

/-- The text after the part, when the text begins with it. -/
def dropPart? : List Char → List Char → Option (List Char)
  | [], cs => some cs
  | _ :: _, [] => none
  | p :: ps, c :: cs => if p = c then dropPart? ps cs else none

theorem dropPart?_append (part cs : List Char) : dropPart? part (part ++ cs) = some cs := by
  induction part with
  | nil => rfl
  | cons p ps ih => rw [List.cons_append, dropPart?, if_pos rfl, ih]

theorem eq_append_of_dropPart? {part cs rest : List Char} (h : dropPart? part cs = some rest) :
    cs = part ++ rest := by
  induction part generalizing cs with
  | nil => exact Option.some.inj h
  | cons p ps ih =>
    cases cs with
    | nil => cases h
    | cons c cs =>
      rw [dropPart?] at h
      split at h
      · next hpc => rw [ih h, hpc, List.cons_append]
      · cases h

theorem dropPart?_length {part cs rest : List Char} (h : dropPart? part cs = some rest) :
    rest.length + part.length = cs.length := by
  induction part generalizing cs with
  | nil => simp_all [dropPart?]
  | cons p ps ih =>
    cases cs with
    | nil => simp [dropPart?] at h
    | cons c cs =>
      simp only [dropPart?] at h
      split at h
      · simp [← ih h, Nat.add_assoc]
      · simp at h

/-- Every occurrence of `part`, which is not empty, replaced from left to right. -/
def replaceNonempty (p : Char) (ps new : List Char) : List Char → List Char
  | [] => []
  | c :: cs =>
    match _h : dropPart? (p :: ps) (c :: cs) with
    | some rest => new ++ replaceNonempty p ps new rest
    | none => c :: replaceNonempty p ps new cs
  termination_by cs => cs.length
  decreasing_by
    · have := dropPart?_length ‹_›
      simp at this ⊢
      omega
    · simp

theorem replaceNonempty_of_some {p c : Char} {ps new cs rest : List Char}
    (h : dropPart? (p :: ps) (c :: cs) = some rest) :
    replaceNonempty p ps new (c :: cs) = new ++ replaceNonempty p ps new rest := by
  rw [replaceNonempty]
  split
  · next rest' h' => rw [Option.some.inj (h.symm.trans h')]
  · next h' => cases h.symm.trans h'

theorem replaceNonempty_of_none {p c : Char} {ps new cs : List Char}
    (h : dropPart? (p :: ps) (c :: cs) = none) :
    replaceNonempty p ps new (c :: cs) = c :: replaceNonempty p ps new cs := by
  rw [replaceNonempty]
  split
  · next rest h' => cases h.symm.trans h'
  · rfl

/-- A single character is replaced by another one wherever it stands. -/
theorem replaceNonempty_singleton (p d : Char) (cs : List Char) :
    replaceNonempty p [] [d] cs = cs.map fun c => if c = p then d else c := by
  induction cs with
  | nil => rw [replaceNonempty, List.map_nil]
  | cons c cs ih =>
    rw [List.map_cons]
    by_cases hc : c = p
    · have hdrop : dropPart? [p] (c :: cs) = some cs := by simp [dropPart?, hc]
      rw [replaceNonempty_of_some hdrop, ih, if_pos hc]
      rfl
    · rw [replaceNonempty_of_none (by simp [dropPart?, Ne.symm hc]), ih, if_neg hc]

/-- Every occurrence of a part replaced from left to right. The empty part occurs before every
character and at the end. -/
def replaceChars (part new cs : List Char) : List Char :=
  match part with
  | [] => new ++ cs.flatMap fun c => c :: new
  | p :: ps => replaceNonempty p ps new cs

/-- Every occurrence of a part of a text replaced from left to right. -/
def replace (part new s : String) : String :=
  String.ofList (replaceChars part.toList new.toList s.toList)

/-- The texts with a separator between neighbours. -/
def join (sep : String) (parts : List String) : String :=
  sep.intercalate parts

end EnumExport.Text
