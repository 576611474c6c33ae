import EnumExport.Proofs.Manifest.Check
import EnumExport.Proofs.Script.Embedding
import EnumExport.Proofs.Script.OneLine

/-!
# Comments of a module

The block comment above the object and the comments of its cases hold texts of the entry. Each of
them ends where it is meant to end and not before: `closesAtEnd_docComment` and
`closesAtEnd_caseComment`. For the block comment every line has to be looked at, as its texts stand
between the words of the comment: `fitsComment_docLines`.
-/

namespace EnumExport.Script

/-! ## Pieces of comments -/

theorem isWord_intercalate {sep : String} {parts : List String} (hsep : IsWord sep.toList)
    (h : ∀ p ∈ parts, IsWord p.toList) : IsWord (sep.intercalate parts).toList := by
  induction parts with
  | nil => simp [IsWord]
  | cons p parts ih =>
    cases parts with
    | nil => simpa using h p (by simp)
    | cons q parts =>
      rw [String.intercalate_cons_cons, String.toList_append, String.toList_append]
      exact ((h p (by simp)).append hsep).append (ih fun r hr => h r (by simp [hr]))

/-- Texts that can stand in a comment with commas between them. -/
theorem fitsComment_intercalate {parts : List String} (h : ∀ p ∈ parts, FitsComment p) :
    FitsComment (", ".intercalate parts) := by
  refine ⟨newline_not_mem_intercalate (by simp) fun p hp => (h p hp).oneLine, ?_⟩
  induction parts with
  | nil => rfl
  | cons p parts ih =>
    cases parts with
    | nil => simpa using (h p (by simp)).noEnd
    | cons q parts =>
      have hrest := ih fun r hr => h r (by simp [hr])
      rw [String.intercalate_cons_cons, String.append_assoc, String.toList_append]
      rw [String.toList_append, show (", " : String).toList = [',', ' '] from rfl]
      rw [List.cons_append, (h p (by simp)).hasEnd_cons _ _ (by decide)]
      simpa [hasEnd] using hrest

/-! ## The lines of the block comment -/

section Doc

variable {name : String} {entry : Entry} (hname : IsWord name.toList)
  (hkeys : ∀ c ∈ entry.cases, IsWord c.key.toList)
include hname hkeys

theorem fitsComment_accessLine {c : Case} (hc : c ∈ entry.cases) :
    FitsComment (name ++ "." ++ c.key ++ ".label // \"" ++ commentText c.label.shown ++ "\"") := by
  have hkey := hkeys c hc
  have hlabel := fitsComment_commentText c.label.shown
  refine ⟨?_, ?_⟩
  · simp [hname.newline_not_mem, hkey.newline_not_mem, hlabel.oneLine]
  · simp [hasEnd, hname.hasEnd_append, hkey.hasEnd_append, hlabel.hasEnd_cons]

theorem fitsComment_lookupLines :
    Ensures (lookupLines name entry) fun ls => ∀ l ∈ ls, FitsComment l := by
  unfold lookupLines
  split
  · refine .bind fun found hfound => .pure ?_
    have hlines : ∀ c ∈ entry.cases, Ensures (do
          return name ++ ".from(" ++ (← literalComment c.value) ++ ") // " ++ c.key ++ " entry")
          FitsComment := by
      intro c hc
      have hkey := hkeys c hc
      refine .bind fun value hvalue => .pure ?_
      have hfits := fitsComment_literalComment c.value value hvalue
      refine ⟨?_, ?_⟩
      · simp [hname.newline_not_mem, hkey.newline_not_mem, hfits.oneLine]
      · simp [hasEnd, hname.hasEnd_append, hkey.hasEnd_append, hfits.hasEnd_cons]
    intro l hl
    rcases List.mem_append.mp hl with hl | hl
    · simp only [List.mem_cons, List.not_mem_nil, or_false] at hl
      rcases hl with rfl | rfl
      · exact ⟨by simp, rfl⟩
      · exact ⟨by simp, rfl⟩
    · refine (Ensures.mapM_forall (fun c hc => ?_) found hfound).2 l hl
      exact hlines c (List.mem_filter.mp hc).1
  · exact .pure (by simp)

omit hkeys in
theorem fitsComment_valuesLine {keys : String} (hwords : IsWord keys.toList) :
    Ensures (valuesLine name keys entry) FitsComment := by
  unfold valuesLine
  split
  · refine .bind fun values hvalues => .pure ?_
    have hfits : FitsComment (", ".intercalate values) := fitsComment_intercalate
      (Ensures.mapM_forall (fun v _ => fitsComment_jsonComment v) values hvalues).2
    have hline := hfits.oneLine
    have hcons := hfits.hasEnd_cons
    generalize ", ".intercalate values = joined at hline hcons
    refine ⟨?_, ?_⟩
    · simp [hname.newline_not_mem, hline]
    · simp [hasEnd, hname.hasEnd_append, hcons]
  · refine .pure ⟨?_, ?_⟩
    · simp [hname.newline_not_mem, hwords.newline_not_mem]
    · simp [hasEnd, hname.hasEnd_append, hwords.hasEnd_append]

theorem fitsComment_guardLines :
    Ensures (guardLines name entry) fun ls => ∀ l ∈ ls, FitsComment l := by
  unfold guardLines
  split
  · exact .pure (by simp)
  · next first rest hcases =>
    have hkey := isWord_textLiteral (hkeys first (by simp [hcases]))
    have hlast : FitsComment (name ++ ".hasKey(" ++ textLiteral first.key ++ ") // true") := by
      refine ⟨?_, ?_⟩
      · simp [hname.newline_not_mem, hkey.newline_not_mem]
      · simp [hasEnd, hname.hasEnd_append, hkey.hasEnd_append]
    have hprobe : ∀ v, Ensures (literalComment v) fun value =>
        FitsComment (name ++ ".isValid(" ++ value ++ ") // true") := by
      intro v value hvalue
      have hfits := fitsComment_literalComment v value hvalue
      refine ⟨?_, ?_⟩
      · simp [hname.newline_not_mem, hfits.oneLine]
      · simp [hasEnd, hname.hasEnd_append, hfits.hasEnd_cons]
    -- whatever stands between them, these are the first lines and the last one
    have hjoin : ∀ probe : List String, (∀ l ∈ probe, FitsComment l) →
        ∀ l ∈ ["", "// Validation (type guards)"] ++ probe ++
          [name ++ ".hasKey(" ++ textLiteral first.key ++ ") // true"], FitsComment l := by
      intro probe hfits l hl
      simp only [List.cons_append, List.nil_append, List.mem_cons, List.mem_append,
        List.not_mem_nil, or_false] at hl
      rcases hl with rfl | rfl | hl | rfl
      · exact ⟨by simp, rfl⟩
      · exact ⟨by simp, rfl⟩
      · exact hfits l hl
      · exact hlast
    dsimp only
    split
    · refine .bind fun probe hp => .pure (hjoin probe ?_)
      cases hp
      simp
    · refine .bind fun value hvalue => .bind fun probe hp => .pure (hjoin probe ?_)
      cases hp
      exact List.forall_mem_singleton.mpr (hprobe _ value hvalue)
    · refine .bind fun value hvalue => .bind fun probe hp => .pure (hjoin probe ?_)
      cases hp
      exact List.forall_mem_singleton.mpr (hprobe _ value hvalue)

/-- Every line of the block comment can stand in a comment. -/
theorem fitsComment_docLines : Ensures (docLines name entry) fun ls => ∀ l ∈ ls, FitsComment l := by
  have hquoted : ∀ k ∈ entry.cases.map fun c => "\"" ++ c.key ++ "\"", IsWord k.toList := by
    intro k hk
    obtain ⟨c, hc, rfl⟩ := List.mem_map.mp hk
    rw [String.toList_append, String.toList_append]
    exact (IsWord.append (by simp [IsWord]) (hkeys c hc)).append (by simp [IsWord])
  have hcomma : IsWord (", " : String).toList := by simp [IsWord]
  have hwords := isWord_intercalate hcomma hquoted
  have hfirst : FitsComment
      (name ++ " enum generated from " ++ commentText entry.qualifiedName) := by
    have hfits := fitsComment_commentText entry.qualifiedName
    refine ⟨?_, ?_⟩
    · simp [hname.newline_not_mem, hfits.oneLine]
    · simp [hasEnd, hname.hasEnd_append, hfits.noEnd]
  refine .bind fun lookup hlookup => .bind fun values hvalues => .bind fun guards hguards =>
    .pure ?_
  have hvalues := fitsComment_valuesLine hname hwords values hvalues
  generalize ", ".intercalate (entry.cases.map fun c => "\"" ++ c.key ++ "\"") = keys at hwords
  have hkeysLine : FitsComment (name ++ ".keys() // [" ++ keys ++ "]") := by
    refine ⟨?_, ?_⟩
    · simp [hname.newline_not_mem, hwords.newline_not_mem]
    · simp [hasEnd, hname.hasEnd_append, hwords.hasEnd_append]
  have hnamed :
      ∀ t ∈ [".options // [\x7b value, label \x7d, ...] - for dropdowns", ".labels() // [...]"],
        FitsComment (name ++ t) := by
    intro t ht
    simp only [List.mem_cons, List.not_mem_nil, or_false] at ht
    rcases ht with rfl | rfl
    · exact ⟨by simp [hname.newline_not_mem], by simp [hasEnd, hname.hasEnd_append]⟩
    · exact ⟨by simp [hname.newline_not_mem], by simp [hasEnd, hname.hasEnd_append]⟩
  have hfixed : ∀ t ∈ ["", "@example", "// Access enum entries", "// Core utilities"],
      FitsComment t := by
    intro t ht
    simp only [List.mem_cons, List.not_mem_nil, or_false] at ht
    rcases ht with rfl | rfl | rfl | rfl <;> exact ⟨by simp, rfl⟩
  intro l hl
  simp only [List.mem_append, List.mem_cons, List.not_mem_nil, or_false] at hl
  rcases hl with (((hl | hl) | hl) | hl) | hl
  · rcases hl with rfl | rfl | rfl | rfl
    · exact hfirst
    all_goals exact hfixed _ (by simp)
  · obtain ⟨c, hc, rfl⟩ := List.mem_map.mp hl
    exact fitsComment_accessLine hname hkeys hc
  · exact fitsComment_lookupLines hname hkeys lookup hlookup l hl
  · rcases hl with rfl | rfl | rfl | rfl | rfl | rfl
    · exact hfixed _ (by simp)
    · exact hfixed _ (by simp)
    · exact hkeysLine
    · exact hvalues
    · exact hnamed _ (by simp)
    · exact hnamed _ (by simp)
  · exact fitsComment_guardLines hname hkeys guards hguards l hl

end Doc

/-! ## Where comments end -/

/-- The end of a comment stands in a text as its last two characters, and nowhere else. -/
def ClosesAtEnd (s : String) : Prop :=
  ∃ inner, s.toList = inner ++ ['*', '/'] ∧
    ∀ before after, s.toList = before ++ '*' :: '/' :: after → before = inner ∧ after = []

theorem closesAtEnd_of_hasEnd {s : String} (inner : List Char) (h : hasEnd inner = false)
    (hs : s.toList = inner ++ ['*', '/']) : ClosesAtEnd s := by
  refine ⟨inner, hs, ?_⟩
  intro before after heq
  rw [hs] at heq
  rcases List.eq_nil_or_concat after with rfl | ⟨front, last, rfl⟩
  · exact ⟨(List.append_cancel_right heq).symm, rfl⟩
  · -- an end further in front would stand in what comes before the last character
    have hfront : inner ++ ['*'] = before ++ '*' :: '/' :: front := by
      have hlast : (inner ++ ['*']) ++ ['/'] = (before ++ '*' :: '/' :: front) ++ [last] := by
        simpa using heq
      exact (List.append_inj' hlast rfl).1
    have hstar : hasEnd (inner ++ ['*']) = false := by
      rw [hasEnd_append h (by simp)]
      rfl
    rw [hasEnd_eq_true_iff.mpr ⟨before, front, hfront⟩] at hstar
    cases hstar

/-- The comment of a case. -/
def caseComment (c : Case) : String := "/** " ++ commentText c.label.shown ++ " */"

theorem closesAtEnd_caseComment (c : Case) : ClosesAtEnd (caseComment c) := by
  have hfits := fitsComment_commentText c.label.shown
  refine closesAtEnd_of_hasEnd ("/** ".toList ++ (commentText c.label.shown).toList ++ [' '])
    ?_ ?_
  · simp [hasEnd, hfits.hasEnd_cons]
  · simp [caseComment]

/-- The lines of a block comment, each behind the break before it, and the blank before its end. -/
def starredChars (ls : List String) : List Char :=
  (ls.flatMap fun l => '\n' :: (if l = "" then " *" else " * " ++ l).toList) ++ ['\n', ' ']

theorem head?_starredChars (ls : List String) : (starredChars ls).head? = some '\n' := by
  cases ls <;> simp [starredChars]

theorem hasEnd_starredChars {ls : List String} (h : ∀ l ∈ ls, FitsComment l) :
    hasEnd (starredChars ls) = false := by
  induction ls with
  | nil => rfl
  | cons l ls ih =>
    have hrest := ih fun k hk => h k (by simp [hk])
    have hhead := head?_starredChars ls
    rw [starredChars, List.flatMap_cons, List.append_assoc, ← starredChars]
    split
    · simp [hasEnd, hhead, hrest]
    · have hline := hasEnd_append (b := starredChars ls) (h l (by simp)).noEnd (by simp [hhead])
      simp [hasEnd, hline, hrest]

/-- A block comment whose lines can stand in a comment ends at its end. -/
theorem closesAtEnd_docComment {ls : List String} (h : ∀ l ∈ ls, FitsComment l) :
    ClosesAtEnd ("\n".intercalate (Item.docComment ls).lines) := by
  refine closesAtEnd_of_hasEnd ("/**".toList ++ starredChars ls) ?_ ?_
  · rw [hasEnd_append rfl (by simp [head?_starredChars]), hasEnd_starredChars h]
  · rw [Item.lines, List.cons_append, toList_lines]
    simp [starredChars, List.flatMap_map]

end EnumExport.Script
