/-!
# Association lists in order of insertion

A list of key-value pairs in which a key keeps the place of its first insertion and carries the
value of its last one. Lookup and insertion go by `==` on keys.
-/

namespace EnumExport.Assoc

variable {α β : Type}

/-- The value of a key. -/
def get? [BEq α] (k : α) : List (α × β) → Option β
  | [] => none
  | (k', v) :: rest => if k' == k then some v else get? k rest

/-- Whether a key occurs. -/
def has [BEq α] (k : α) (m : List (α × β)) : Bool :=
  (get? k m).isSome

/-- The pairs with `k` carrying `v`: in its old place when it occurs, at the end otherwise. -/
def put [BEq α] (k : α) (v : β) : List (α × β) → List (α × β)
  | [] => [(k, v)]
  | (k', v') :: rest => if k' == k then (k', v) :: rest else (k', v') :: put k v rest

/-- The pairs with `k` added at the end unless it occurs. -/
def putNew [BEq α] (k : α) (v : β) (m : List (α × β)) : List (α × β) :=
  if has k m then m else m ++ [(k, v)]

/-- The pairs put in from left to right. -/
def ofList [BEq α] (pairs : List (α × β)) : List (α × β) :=
  pairs.foldl (fun m p => put p.1 p.2 m) []

/-- The pairs of the second list put into the first. -/
def update [BEq α] (m pairs : List (α × β)) : List (α × β) :=
  pairs.foldl (fun m p => put p.1 p.2 m) m

/-- The keys in order. -/
def keys (m : List (α × β)) : List α := m.map Prod.fst

/-- The values in order. -/
def values (m : List (α × β)) : List β := m.map Prod.snd

section Lemmas

variable [BEq α] [LawfulBEq α]

theorem get?_put_self (k : α) (v : β) (m : List (α × β)) : get? k (put k v m) = some v := by
  induction m with
  | nil => simp [put, get?]
  | cons p rest ih =>
    obtain ⟨k', v'⟩ := p
    by_cases h : k' == k
    · simp [put, get?, h]
    · simp [put, get?, h, ih]

theorem get?_put_ne {k k' : α} (h : k ≠ k') (v : β) (m : List (α × β)) :
    get? k' (put k v m) = get? k' m := by
  induction m with
  | nil => simp [put, get?, h]
  | cons p rest ih =>
    obtain ⟨j, w⟩ := p
    by_cases hj : j == k
    · simp only [put, hj, if_true, get?]
      have : j = k := by simpa using hj
      subst this
      simp [h]
    · simp [put, hj, get?, ih]

theorem keys_put (k : α) (v : β) (m : List (α × β)) :
    keys (put k v m) = if k ∈ keys m then keys m else keys m ++ [k] := by
  induction m with
  | nil => simp [put, keys]
  | cons p rest ih =>
    obtain ⟨j, w⟩ := p
    by_cases hj : j = k
    · simp [put, hj, keys]
    · have hne : ¬k = j := fun h => hj h.symm
      simp only [keys] at ih ⊢
      simp only [put, beq_iff_eq, hj, if_false, List.map_cons, ih, List.mem_cons, hne, false_or]
      split <;> simp_all

theorem has_iff_mem_keys {k : α} {m : List (α × β)} : has k m = true ↔ k ∈ keys m := by
  induction m with
  | nil => simp [has, keys, get?]
  | cons p rest ih =>
    obtain ⟨j, w⟩ := p
    simp only [has, keys] at ih ⊢
    by_cases hj : j = k
    · simp [get?, hj]
    · have hne : ¬k = j := fun h => hj h.symm
      simp [get?, hj, hne, ih]

theorem length_put (k : α) (v : β) (m : List (α × β)) :
    (put k v m).length = if has k m then m.length else m.length + 1 := by
  have hlength : ∀ m : List (α × β), m.length = (keys m).length := fun m => (List.length_map _).symm
  rw [hlength, keys_put]
  simp only [has_iff_mem_keys]
  split
  · exact (hlength m).symm
  · rw [List.length_append, ← hlength]
    rfl

theorem nodup_keys_put (k : α) (v : β) {m : List (α × β)} (h : (keys m).Nodup) :
    (keys (put k v m)).Nodup := by
  rw [keys_put]
  split
  · exact h
  · next hk =>
    rw [List.nodup_append]
    refine ⟨h, by simp, ?_⟩
    rintro a ha b hb rfl
    exact hk (List.mem_singleton.mp hb ▸ ha)

theorem nodup_keys_ofList (pairs : List (α × β)) : (keys (ofList pairs)).Nodup := by
  have hfold : ∀ (pairs m : List (α × β)), (keys m).Nodup →
      (keys (pairs.foldl (fun m p => put p.1 p.2 m) m)).Nodup := by
    intro pairs
    induction pairs with
    | nil => exact fun m h => h
    | cons p rest ih => exact fun m h => ih _ (nodup_keys_put p.1 p.2 h)
  exact hfold pairs [] List.nodup_nil

/-- Putting in a pair changes nothing about the pairs of other keys. -/
theorem filter_put (k : α) (v : β) (m : List (α × β)) :
    (put k v m).filter (fun p => p.1 != k) = m.filter fun p => p.1 != k := by
  induction m with
  | nil => simp [put]
  | cons p rest ih =>
    rw [put]
    split
    · next h => simp [h, bne]
    · rw [List.filter_cons, List.filter_cons, ih]

/-- Where no key occurs twice, the value of a key is the one that stands with it. -/
theorem get?_eq_some_iff {k : α} {v : β} {m : List (α × β)} (h : (keys m).Nodup) :
    get? k m = some v ↔ (k, v) ∈ m := by
  induction m with
  | nil => simp [get?]
  | cons p rest ih =>
    obtain ⟨j, w⟩ := p
    obtain ⟨hj, hrest⟩ := List.nodup_cons.mp h
    rw [get?, List.mem_cons, Prod.mk.injEq]
    split
    · next hjk =>
      obtain rfl : j = k := by simpa using hjk
      have hnot : (j, v) ∉ rest := fun hmem => hj (List.mem_map.mpr ⟨_, hmem, rfl⟩)
      simp [hnot, eq_comm]
    · next hjk =>
      have hne : k ≠ j := fun hkj => hjk (by simp [hkj])
      simp [hne, ih hrest]

/-- The value of a key after some pairs have been put in: the one put in last, or the one before. -/
theorem get?_foldl_put (k : α) (pairs m : List (α × β)) :
    get? k (pairs.foldl (fun m p => put p.1 p.2 m) m) =
      ((pairs.filter fun p => p.1 == k).getLast?.map Prod.snd).or (get? k m) := by
  induction pairs generalizing m with
  | nil => simp
  | cons p rest ih =>
    obtain ⟨j, w⟩ := p
    rw [List.foldl_cons, ih]
    by_cases hj : j = k
    · subst hj
      rw [get?_put_self, List.filter_cons_of_pos (by simp), List.getLast?_cons]
      cases (rest.filter fun p => p.1 == j).getLast? <;> rfl
    · rw [get?_put_ne hj, List.filter_cons_of_neg (by simpa using hj)]

theorem eraseDups_filter_cons {seen : List α} {k : α} (h : k ∉ seen) (rest : List α) :
    ((k :: rest).filter fun x => !seen.contains x).eraseDups =
      k :: (rest.filter fun x => !(k :: seen).contains x).eraseDups := by
  rw [List.filter_cons_of_pos (by simpa using h), List.eraseDups_cons, List.filter_filter]
  simp only [List.contains_cons, Bool.not_or]

/-- Nothing is left out of what occurs once only. -/
theorem eraseDups_of_nodup {ks : List α} (h : ks.Nodup) : ks.eraseDups = ks := by
  induction ks with
  | nil => rfl
  | cons k ks ih =>
    obtain ⟨hk, hks⟩ := List.nodup_cons.mp h
    have hothers : ks.filter (fun x => !x == k) = ks := by
      refine List.filter_eq_self.mpr fun x hx => ?_
      have hne : x ≠ k := fun heq => hk (heq ▸ hx)
      simpa using hne
    rw [List.eraseDups_cons, hothers, ih hks]

/-- The keys after some pairs have been put in, whatever is made of their values: the new ones stand
behind the old ones, each where it came first. -/
theorem keys_foldl_put_of {γ : Type} (f : List (α × β) → α × γ → β) (pairs : List (α × γ))
    (m : List (α × β)) :
    keys (pairs.foldl (fun m p => put p.1 (f m p) m) m) =
      keys m ++ ((keys pairs).filter fun k => !(keys m).contains k).eraseDups := by
  induction pairs generalizing m with
  | nil => simp [keys]
  | cons p rest ih =>
    obtain ⟨k, v⟩ := p
    have hcons : keys ((k, v) :: rest) = k :: keys rest := rfl
    rw [List.foldl_cons, ih, keys_put, hcons]
    split
    · next h => rw [List.filter_cons_of_neg (by simpa using h)]
    · next h =>
      have hcongr : ∀ x, (keys m ++ [k]).contains x = (k :: keys m).contains x := by
        intro x
        rw [List.contains_cons, List.contains_append, Bool.or_comm]
        simp
      simp only [hcongr, List.append_assoc]
      rw [eraseDups_filter_cons h]
      rfl

/-- A map built of some pairs has each key once, in the order in which they first occur. -/
theorem keys_foldl_put_nil {γ : Type} (f : List (α × β) → α × γ → β) (pairs : List (α × γ)) :
    keys (pairs.foldl (fun m p => put p.1 (f m p) m) []) = (keys pairs).eraseDups := by
  have hnew : (keys pairs).filter (fun k => !(keys ([] : List (α × β))).contains k) = keys pairs :=
    List.filter_eq_self.mpr fun _ _ => rfl
  rw [keys_foldl_put_of, hnew]
  rfl

theorem keys_ofList (pairs : List (α × β)) : keys (ofList pairs) = (keys pairs).eraseDups :=
  keys_foldl_put_nil (fun _ p => p.2) pairs

theorem keys_foldl_put (pairs m : List (α × β)) :
    keys (pairs.foldl (fun m p => put p.1 p.2 m) m) =
      keys m ++ ((keys pairs).filter fun k => !(keys m).contains k).eraseDups :=
  keys_foldl_put_of (fun _ p => p.2) pairs m

end Lemmas

/-! ## Keys under another name -/

section Renamed

variable {γ : Type} [BEq α] [BEq γ] {name : α → γ} (hname : ∀ a b, (name a == name b) = (a == b))
include hname

theorem get?_map (k : α) (m : List (α × β)) :
    get? (name k) (m.map fun p => (name p.1, p.2)) = get? k m := by
  induction m with
  | nil => rfl
  | cons p rest ih => rw [List.map_cons, get?, get?, hname, ih]

theorem put_map (k : α) (v : β) (m : List (α × β)) :
    put (name k) v (m.map fun p => (name p.1, p.2)) =
      (put k v m).map fun p => (name p.1, p.2) := by
  induction m with
  | nil => rfl
  | cons p rest ih =>
    rw [List.map_cons, put, put, hname, ih]
    split <;> rfl

end Renamed

/-! ## Keys that do not occur yet -/

section Absent

variable [BEq α]

theorem mem_put {k : α} {v : β} {m : List (α × β)} {p : α × β} (h : p ∈ put k v m) :
    p.1 = k ∨ ∃ q ∈ m, q.1 = p.1 := by
  induction m with
  | nil =>
    rcases List.mem_singleton.mp h with rfl
    exact .inl rfl
  | cons q rest ih =>
    rw [put] at h
    split at h
    · rcases List.mem_cons.mp h with rfl | h
      · exact .inr ⟨q, by simp, rfl⟩
      · exact .inr ⟨p, by simp [h], rfl⟩
    · rcases List.mem_cons.mp h with rfl | h
      · exact .inr ⟨q, by simp, rfl⟩
      · rcases ih h with hk | ⟨q', hq', hq⟩
        · exact .inl hk
        · exact .inr ⟨q', by simp [hq'], hq⟩

theorem keys_subset_put (k : α) (v : β) (m : List (α × β)) : keys m ⊆ keys (put k v m) := by
  induction m with
  | nil => exact List.nil_subset _
  | cons p rest ih =>
    rw [put]
    split
    · exact fun _ hk => hk
    · exact List.cons_subset_cons p.1 ih

/-- What has been put in stands under its key, or under an equal one that was there before. -/
theorem exists_key_put (k : α) (v : β) (m : List (α × β)) :
    ∃ j ∈ keys (put k v m), j = k ∨ (j == k) = true := by
  induction m with
  | nil => exact ⟨k, by simp [put, keys], .inl rfl⟩
  | cons p rest ih =>
    rw [put]
    split
    · next hj => exact ⟨p.1, by simp [keys], .inr hj⟩
    · obtain ⟨j, hj, heq⟩ := ih
      exact ⟨j, List.mem_cons_of_mem _ hj, heq⟩

theorem get?_append (k : α) (m n : List (α × β)) : get? k (m ++ n) = (get? k m).or (get? k n) := by
  induction m with
  | nil => rfl
  | cons p rest ih =>
    rw [List.cons_append, get?, get?, ih]
    split <;> rfl

/-- Where all keys carry the same value, it is the value of those that are there. -/
theorem get?_constant [LawfulBEq α] (k : α) (v : β) (ks : List α) :
    get? k (ks.map fun j => (j, v)) = if ks.contains k then some v else none := by
  induction ks with
  | nil => rfl
  | cons j ks ih =>
    rw [List.map_cons, get?, List.contains_cons, BEq.comm, ih]
    cases k == j <;> rfl

theorem has_append (k : α) (m n : List (α × β)) : has k (m ++ n) = (has k m || has k n) := by
  induction m with
  | nil => simp [has, get?]
  | cons p rest ih =>
    simp only [has, List.cons_append, get?] at ih ⊢
    split <;> simp [ih]

theorem has_singleton (k : α) (p : α × β) : has k [p] = (p.1 == k) := by
  cases h : p.1 == k <;> simp [has, get?, h]

theorem put_of_absent {k : α} {m : List (α × β)} (h : has k m = false) (v : β) :
    put k v m = m ++ [(k, v)] := by
  induction m with
  | nil => rfl
  | cons p rest ih =>
    rw [← List.singleton_append, has_append, has_singleton, Bool.or_eq_false_iff] at h
    rw [put, h.1, ih h.2]
    rfl

theorem putNew_of_absent {k : α} {m : List (α × β)} (h : has k m = false) (v : β) :
    putNew k v m = m ++ [(k, v)] := by
  rw [putNew, h]
  rfl

/-- Pairs whose keys occur neither twice nor before are added as they stand, whatever would happen
to a key that occurs. -/
theorem foldl_of_absent {add : List (α × β) → α × β → List (α × β)}
    (hadd : ∀ m p, has p.1 m = false → add m p = m ++ [p]) {pairs base : List (α × β)}
    (hdistinct : pairs.Pairwise fun p q => (p.1 == q.1) = false)
    (hbase : ∀ p ∈ pairs, has p.1 base = false) : pairs.foldl add base = base ++ pairs := by
  induction pairs generalizing base with
  | nil => simp
  | cons p rest ih =>
    obtain ⟨hp, hrest⟩ := List.pairwise_cons.mp hdistinct
    have hnext : ∀ q ∈ rest, has q.1 (base ++ [p]) = false := by
      intro q hq
      rw [has_append, has_singleton, hbase q (by simp [hq]), hp q hq]
      rfl
    rw [List.foldl_cons, hadd base p (hbase p (by simp)), ih hrest hnext, List.append_assoc]
    rfl

/-- Pairs with keys of their own are put in as they stand. -/
theorem ofList_of_distinct {pairs : List (α × β)}
    (h : pairs.Pairwise fun p q => (p.1 == q.1) = false) : ofList pairs = pairs :=
  foldl_of_absent (fun _ p hp => put_of_absent hp p.2) h fun _ _ => rfl

/-- Adding pairs with new keys only makes a map longer, by some of these pairs. -/
theorem exists_foldl_putNew (pairs m : List (α × β)) :
    ∃ more, pairs.foldl (fun m p => putNew p.1 p.2 m) m = m ++ more ∧ more ⊆ pairs := by
  induction pairs generalizing m with
  | nil => exact ⟨[], (List.append_nil m).symm, List.nil_subset _⟩
  | cons p rest ih =>
    rw [List.foldl_cons, putNew]
    split
    · obtain ⟨more, hmore, hsub⟩ := ih m
      exact ⟨more, hmore, List.subset_cons_of_subset p hsub⟩
    · obtain ⟨more, hmore, hsub⟩ := ih (m ++ [(p.1, p.2)])
      refine ⟨p :: more, ?_, List.cons_subset_cons p hsub⟩
      rw [hmore, List.append_assoc]
      rfl

theorem mem_of_get? {k : α} {v : β} {m : List (α × β)} (h : get? k m = some v) :
    ∃ p ∈ m, (p.1 == k) = true ∧ p.2 = v := by
  induction m with
  | nil => cases h
  | cons p rest ih =>
    rw [get?] at h
    split at h
    · next hk => exact ⟨p, by simp, hk, Option.some.inj h⟩
    · obtain ⟨q, hq, hk, hv⟩ := ih h
      exact ⟨q, by simp [hq], hk, hv⟩

theorem exists_get?_of_mem {k : α} {p : α × β} {m : List (α × β)} (hp : p ∈ m)
    (hk : (p.1 == k) = true) : ∃ v, get? k m = some v := by
  induction m with
  | nil => cases hp
  | cons q rest ih =>
    rw [get?]
    split
    · exact ⟨q.2, rfl⟩
    · next hne =>
      rcases List.mem_cons.mp hp with rfl | hp
      · exact absurd hk hne
      · exact ih hp

end Absent

end EnumExport.Assoc
