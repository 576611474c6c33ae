import EnumExport.Text.Split

/-!
# Where replacing stays apart

Replacing a part in a text looks at one occurrence after the other. What stands before a place where
no occurrence can reach over is replaced on its own, `replaceNonempty_append`; a text without the
first character of the part stays, and so does one in which the part does not occur.
-/

namespace EnumExport.Text

variable {p : Char} {ps new cs more : List Char}

/-- A part that a text does not begin with does not come up when the text is longer, unless it could
go on with what follows. -/
theorem dropPart?_append_of_none {part : List Char} (h : dropPart? part cs = none)
    (hmore : ∀ c, more.head? = some c → c ∉ part) : dropPart? part (cs ++ more) = none := by
  induction part generalizing cs with
  | nil => cases h
  | cons p ps ih =>
    cases cs with
    | nil =>
      cases more with
      | nil => rfl
      | cons c more =>
        have hc : p ≠ c := fun heq => hmore c rfl (heq ▸ List.mem_cons_self)
        rw [List.nil_append, dropPart?, if_neg hc]
    | cons c cs =>
      rw [dropPart?] at h
      rw [List.cons_append, dropPart?]
      split
      · next hpc =>
        rw [if_pos hpc] at h
        exact ih h fun d hd hmem => hmore d hd (List.mem_cons_of_mem p hmem)
      · rfl

theorem dropPart?_append_of_some {part rest : List Char} (h : dropPart? part cs = some rest) :
    dropPart? part (cs ++ more) = some (rest ++ more) := by
  rw [eq_append_of_dropPart? h, List.append_assoc, dropPart?_append]

/-- What follows begins with a character that the part does not have behind its first one, so no
occurrence reaches over. -/
theorem replaceNonempty_append (hmore : ∀ c, more.head? = some c → c ∉ ps) :
    replaceNonempty p ps new (cs ++ more) =
      replaceNonempty p ps new cs ++ replaceNonempty p ps new more := by
  fun_induction replaceNonempty p ps new cs with
  | case1 => rfl
  | case2 c cs rest hdrop ih =>
    have hdropMore : dropPart? (p :: ps) (c :: (cs ++ more)) = some (rest ++ more) :=
      dropPart?_append_of_some hdrop
    rw [List.cons_append, replaceNonempty_of_some hdropMore, ih, List.append_assoc]
  | case3 c cs hdrop ih =>
    have hdropMore : dropPart? (p :: ps) (c :: (cs ++ more)) = none := by
      rw [dropPart?] at hdrop ⊢
      split
      · next hpc =>
        rw [if_pos hpc] at hdrop
        exact dropPart?_append_of_none hdrop hmore
      · rfl
    rw [List.cons_append, replaceNonempty_of_none hdropMore, ih, List.cons_append]

theorem replaceNonempty_append_of_not_mem (h : p ∉ cs) :
    replaceNonempty p ps new (cs ++ more) = cs ++ replaceNonempty p ps new more := by
  induction cs with
  | nil => rfl
  | cons c cs ih =>
    have hdrop : dropPart? (p :: ps) (c :: (cs ++ more)) = none := by
      rw [dropPart?, if_neg (List.ne_of_not_mem_cons h)]
    rw [List.cons_append, replaceNonempty_of_none hdrop, ih (List.not_mem_of_not_mem_cons h),
      List.cons_append]

theorem replaceNonempty_of_not_mem (h : p ∉ cs) : replaceNonempty p ps new cs = cs := by
  have happend : replaceNonempty p ps new (cs ++ []) = cs ++ replaceNonempty p ps new [] :=
    replaceNonempty_append_of_not_mem h
  rwa [List.append_nil, replaceNonempty, List.append_nil] at happend

/-- A text in which the part does not occur stays as it is. -/
theorem replaceNonempty_of_not_infix (h : ¬ (p :: ps) <:+: cs) :
    replaceNonempty p ps new cs = cs := by
  induction cs with
  | nil => rw [replaceNonempty]
  | cons c cs ih =>
    have hdrop : dropPart? (p :: ps) (c :: cs) = none := by
      cases hdrop : dropPart? (p :: ps) (c :: cs) with
      | none => rfl
      | some rest =>
        rw [eq_append_of_dropPart? hdrop] at h
        exact absurd (List.prefix_append _ rest).isInfix h
    rw [replaceNonempty_of_none hdrop, ih fun hinfix => h (List.infix_cons hinfix)]

/-- A text that begins with another character than the part begins with the same one afterwards. -/
theorem head?_replaceNonempty {c : Char} (h : c ≠ p) :
    (replaceNonempty p ps new (c :: cs)).head? = some c := by
  have hdrop : dropPart? (p :: ps) (c :: cs) = none := by rw [dropPart?, if_neg (Ne.symm h)]
  rw [replaceNonempty_of_none hdrop, List.head?_cons]

end EnumExport.Text
