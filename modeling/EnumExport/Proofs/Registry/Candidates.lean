import EnumExport.Registry.Basic

/-!
# Candidates

The candidates of a registry have names of their own. The configured ones come first, each where its
name is first seen, and the discovered ones that are left follow in order: `Registry.candidates_spec`.
-/

namespace EnumExport

namespace Registry

variable {seen : List String} {cs : List Candidate}

/-! ## Each name once -/

/-- It only matters which of the names at hand have been seen. -/
theorem distinctFrom_congr {seen seen' : List String} {cs : List Candidate}
    (h : ∀ c ∈ cs, c.name ∈ seen ↔ c.name ∈ seen') :
    distinctFrom seen cs = distinctFrom seen' cs := by
  induction cs generalizing seen seen' with
  | nil => rfl
  | cons c cs ih =>
    have hrest : ∀ d ∈ cs, d.name ∈ seen ↔ d.name ∈ seen' := fun d hd => h d (by simp [hd])
    have hnext : distinctFrom (c.name :: seen) cs = distinctFrom (c.name :: seen') cs :=
      ih fun d hd => by rw [List.mem_cons, List.mem_cons, hrest d hd]
    have hc : seen.contains c.name = seen'.contains c.name := by
      rw [Bool.eq_iff_iff, List.contains_iff_mem, List.contains_iff_mem]
      exact h c (by simp)
    rw [distinctFrom, distinctFrom, hc, hnext, ih hrest]

/-- The names that are kept are the new ones, each where it came first. -/
theorem names_distinctFrom (seen : List String) (cs : List Candidate) :
    (distinctFrom seen cs).map Candidate.name =
      ((cs.map Candidate.name).filter fun n => !seen.contains n).eraseDups := by
  induction cs generalizing seen with
  | nil => rfl
  | cons c cs ih =>
    rw [distinctFrom, List.map_cons]
    split
    · next h => rw [ih, List.filter_cons_of_neg (by simpa using h)]
    · next h =>
      rw [List.map_cons, ih, Assoc.eraseDups_filter_cons (by simpa using h)]

theorem sublist_distinctFrom (seen : List String) (cs : List Candidate) :
    (distinctFrom seen cs).Sublist cs := by
  induction cs generalizing seen with
  | nil => exact .slnil
  | cons c cs ih =>
    rw [distinctFrom]
    split
    · exact (ih seen).cons c
    · exact (ih _).cons_cons c

/-- What is kept has not been seen, and is the first of its name. -/
theorem first_of_mem_distinctFrom {c : Candidate} (h : c ∈ distinctFrom seen cs) :
    seen.contains c.name = false ∧ cs.find? (fun c' => c'.name == c.name) = some c := by
  induction cs generalizing seen with
  | nil => cases h
  | cons d cs ih =>
    rw [distinctFrom] at h
    split at h
    · next hseen =>
      obtain ⟨hnew, hfirst⟩ := ih h
      refine ⟨hnew, ?_⟩
      rw [List.find?_cons_of_neg, hfirst]
      intro hname
      rw [beq_iff_eq.mp hname, hnew] at hseen
      cases hseen
    · next hseen =>
      rcases List.mem_cons.mp h with rfl | h
      · exact ⟨Bool.eq_false_iff.mpr hseen, List.find?_cons_of_pos (beq_self_eq_true _)⟩
      · obtain ⟨hnew, hfirst⟩ := ih h
        rw [List.contains_cons, Bool.or_eq_false_iff] at hnew
        refine ⟨hnew.2, ?_⟩
        rw [List.find?_cons_of_neg, hfirst]
        intro hname
        rw [beq_iff_eq.mp hname, beq_self_eq_true] at hnew
        cases hnew.1

/-- Candidates in two parts: the second part goes without the names of the first. -/
theorem distinctFrom_append (seen : List String) (as bs : List Candidate) :
    distinctFrom seen (as ++ bs) =
      distinctFrom seen as ++ distinctFrom (as.map Candidate.name ++ seen) bs := by
  induction as generalizing seen with
  | nil => rfl
  | cons a as ih =>
    rw [List.cons_append, distinctFrom, distinctFrom]
    split
    · next h =>
      have ha : a.name ∈ seen := List.contains_iff_mem.mp h
      rw [ih]
      -- a name that has been seen adds nothing to the names in front
      refine congrArg _ (distinctFrom_congr fun d _ => ?_)
      simp only [List.map_cons, List.cons_append, List.mem_cons, List.mem_append]
      constructor
      · exact .inr
      · rintro (hd | hd)
        · exact .inr (hd ▸ ha)
        · exact hd
    · rw [ih, List.cons_append]
      refine congrArg _ (congrArg _ (distinctFrom_congr fun d _ => ?_))
      simp only [List.map_cons, List.cons_append, List.mem_cons, List.mem_append]
      exact or_left_comm

theorem names_nodup (seen : List String) (cs : List Candidate) :
    ((distinctFrom seen cs).map Candidate.name).Nodup := by
  induction cs generalizing seen with
  | nil => exact List.nodup_nil
  | cons c cs ih =>
    rw [distinctFrom]
    split
    · exact ih seen
    · refine List.nodup_cons.mpr ⟨fun hmem => ?_, ih _⟩
      obtain ⟨d, hd, hname⟩ := List.mem_map.mp hmem
      have hnew := (first_of_mem_distinctFrom hd).1
      rw [hname] at hnew
      simp at hnew

/-- A name that is left out is left out wherever it stands. -/
theorem distinctFrom_filter (n : String) (seen : List String) (cs : List Candidate) :
    distinctFrom seen (cs.filter fun c => c.name != n) =
      (distinctFrom seen cs).filter fun c => c.name != n := by
  induction cs generalizing seen with
  | nil => rfl
  | cons c cs ih =>
    by_cases hn : c.name = n
    · rw [List.filter_cons_of_neg (by simpa using hn), distinctFrom]
      split
      · exact ih seen
      · -- the name is left out anyway, so that it has been seen makes no difference
        have hseen : distinctFrom (c.name :: seen) (cs.filter fun c => c.name != n) =
            distinctFrom seen (cs.filter fun c => c.name != n) := by
          refine distinctFrom_congr fun d hd => ?_
          have hne : d.name ≠ c.name := by simpa [hn] using (List.mem_filter.mp hd).2
          simp [hne]
        rw [List.filter_cons_of_neg (by simpa using hn), ← ih, hseen]
    · rw [List.filter_cons_of_pos (by simpa using hn), distinctFrom, distinctFrom]
      split
      · exact ih seen
      · rw [List.filter_cons_of_pos (by simpa using hn), ih]

/-! ## Configured and discovered candidates -/

variable (r : Registry)

theorem sorted_discovered : r.discoveredInOrder.Pairwise (· ≤ ·) := by
  have hsorted : r.discoveredInOrder.Pairwise fun a b => decide (a ≤ b) = true := by
    refine List.pairwise_mergeSort (fun a b c hab hbc => ?_) (fun a b => ?_) r.discovered
    · rw [decide_eq_true_eq] at hab hbc ⊢
      exact String.le_trans hab hbc
    · rw [Bool.or_eq_true, decide_eq_true_eq, decide_eq_true_eq]
      exact String.le_total a b
  exact hsorted.imp of_decide_eq_true

/-- The candidates have names of their own. -/
theorem candidates_nodup : (r.candidates.map Candidate.name).Nodup :=
  names_nodup [] _

/-- The names that candidates of these names have. -/
theorem names_named (ns : List String) : (ns.map Candidate.named).map Candidate.name = ns := by
  rw [List.map_map]
  exact List.map_id ns

/-- The discovered names that no configured candidate has, in order. -/
def remaining (r : Registry) : List String :=
  (r.discoveredInOrder.filter fun n => !(r.configured.map Candidate.name).contains n).eraseDups

/-- What is kept of the discovered candidates. -/
theorem names_remaining : (distinctFrom (r.configured.map Candidate.name)
    (r.discoveredInOrder.map .named)).map Candidate.name = r.remaining := by
  rw [names_distinctFrom, names_named, remaining]

/-- First the configured candidates, then the names of the discovered ones that are left. -/
theorem candidates_eq :
    r.candidates = distinctFrom [] r.configured ++ r.remaining.map .named := by
  rw [candidates, distinctFrom_append, List.append_nil, ← names_remaining, List.map_map]
  congr 1
  refine (List.map_id _).symm.trans (List.map_congr_left fun c hc => ?_)
  obtain ⟨n, -, rfl⟩ := List.mem_map.mp ((sublist_distinctFrom _ _).subset hc)
  rfl

theorem mem_remaining (n : String) :
    n ∈ r.remaining ↔ n ∈ r.discovered ∧ n ∉ r.configured.map Candidate.name := by
  rw [remaining, List.mem_eraseDups, List.mem_filter, discoveredInOrder, List.mem_mergeSort,
    Bool.not_eq_true', ← Bool.not_eq_true, List.contains_iff_mem]

/-- The names that are left are in strict order. -/
theorem remaining_sorted : r.remaining.Pairwise (· < ·) := by
  have hsub := (sublist_distinctFrom (r.configured.map Candidate.name)
    (r.discoveredInOrder.map .named)).map Candidate.name
  have hnodup := names_nodup (r.configured.map Candidate.name) (r.discoveredInOrder.map .named)
  rw [names_remaining, names_named] at hsub
  rw [names_remaining] at hnodup
  -- in order and without repetition is in strict order
  refine ((r.sorted_discovered.sublist hsub).and hnodup).imp fun ⟨hab, hne⟩ => ?_
  rw [← String.not_le]
  exact fun hba => hne (String.le_antisymm hab hba)

/-! ## Leaving a candidate out -/

/-- The registry without the candidates of a name. -/
def without (r : Registry) (name : String) : Registry :=
  { r with
    configured := r.configured.filter fun c => c.name != name
    discovered := r.discovered.filter fun n => n != name }

/-- Two rows in order with the same names are the same. -/
theorem discoveredInOrder_without (name : String) :
    (r.without name).discoveredInOrder = r.discoveredInOrder.filter fun n => n != name := by
  refine List.Perm.eq_of_pairwise (fun a b _ _ hab hba => String.le_antisymm hab hba)
    (r.without name).sorted_discovered (r.sorted_discovered.filter _) ?_
  refine (List.mergeSort_perm _ _).trans ?_
  exact ((List.mergeSort_perm r.discovered _).filter _).symm

/-- The other candidates stay, in their order. -/
theorem candidates_without (name : String) :
    (r.without name).candidates = r.candidates.filter fun c => c.name != name := by
  rw [candidates, candidates, discoveredInOrder_without, ← distinctFrom_filter,
    List.filter_append, List.filter_map]
  rfl

end Registry

end EnumExport
