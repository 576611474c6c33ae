import EnumExport.Proofs.Yaml.Document

/-!
# The keys of documents

In the maps of a document, and in those that are values in there, no key stands twice, `KeysApart`:
a later pair of a mapping takes the place of an earlier one. So a pair of a map is found by its
key, `field?_of_mem`.

Only maps within maps matter here, so the induction on the fuel leaves out the members of sequences.
-/

namespace EnumExport

namespace Assoc

variable {α β : Type} [BEq α]

/-- The value of a pair is the one that was put in, or it was there. -/
theorem value_of_mem_put {k : α} {v : β} {m : List (α × β)} {p : α × β} (h : p ∈ put k v m) :
    p.2 = v ∨ ∃ q ∈ m, q.2 = p.2 := by
  induction m with
  | nil =>
    rw [put, List.mem_singleton] at h
    exact .inl (congrArg Prod.snd h)
  | cons q m ih =>
    rw [put] at h
    split at h
    · rcases List.mem_cons.mp h with rfl | h
      · exact .inl rfl
      · exact .inr ⟨p, List.mem_cons_of_mem q h, rfl⟩
    · rcases List.mem_cons.mp h with rfl | h
      · exact .inr ⟨_, List.mem_cons_self, rfl⟩
      · rcases ih h with hv | ⟨r, hr, hrv⟩
        · exact .inl hv
        · exact .inr ⟨r, List.mem_cons_of_mem q hr, hrv⟩

theorem pairwise_put (k : α) (v : β) {m : List (α × β)}
    (h : m.Pairwise fun p q => (p.1 == q.1) = false) :
    (put k v m).Pairwise fun p q => (p.1 == q.1) = false := by
  induction m with
  | nil => exact List.pairwise_singleton _ _
  | cons p m ih =>
    obtain ⟨hfirst, hrest⟩ := List.pairwise_cons.mp h
    rw [put]
    split
    · exact List.pairwise_cons.mpr ⟨hfirst, hrest⟩
    · next hk =>
      refine List.pairwise_cons.mpr ⟨fun q hq => ?_, ih hrest⟩
      rcases mem_put hq with hqk | ⟨r, hr, hrq⟩
      · rw [hqk]
        exact Bool.eq_false_iff.mpr hk
      · rw [← hrq]
        exact hfirst r hr

/-- Where no key stands twice, a pair is found by its key. -/
theorem get?_of_mem {k : α} {v : β} {m : List (α × β)}
    (hapart : m.Pairwise fun p q => (p.1 == q.1) = false) (hk : (k == k) = true)
    (h : (k, v) ∈ m) : get? k m = some v := by
  induction m with
  | nil => cases h
  | cons p m ih =>
    obtain ⟨hfirst, hrest⟩ := List.pairwise_cons.mp hapart
    rw [get?]
    rcases List.mem_cons.mp h with rfl | h
    · exact if_pos hk
    · rw [if_neg (Bool.eq_false_iff.mp (hfirst _ h))]
      exact ih hrest h

end Assoc

namespace Value

/-- No map has a key twice that is the value or is reached from it through maps. -/
inductive KeysApart : Value → Prop
  /-- a map without such keys, whose values have none either -/
  | map {ps : List (Value × Value)} (keys : ps.Pairwise fun p q => (p.1 == q.1) = false)
      (values : ∀ p ∈ ps, KeysApart p.2) : KeysApart (.map ps)
  /-- what is no map -/
  | other {v : Value} (noMap : v.isMap = false) : KeysApart v

theorem KeysApart.keys {ps : List (Value × Value)} (h : KeysApart (.map ps)) :
    ps.Pairwise fun p q => (p.1 == q.1) = false := by
  cases h with
  | map hkeys _ => exact hkeys
  | other hmap => cases hmap

theorem KeysApart.values {ps : List (Value × Value)} (h : KeysApart (.map ps)) :
    ∀ p ∈ ps, KeysApart p.2 := by
  cases h with
  | map _ hvalues => exact hvalues
  | other hmap => cases hmap

theorem KeysApart.put {k v : Value} {ps : List (Value × Value)} (h : KeysApart (.map ps))
    (hv : KeysApart v) : KeysApart (.map (Assoc.put k v ps)) := by
  refine .map (Assoc.pairwise_put k v h.keys) fun p hp => ?_
  rcases Assoc.value_of_mem_put hp with rfl | ⟨q, hq, hqp⟩
  · exact hv
  · rw [← hqp]
    exact h.values q hq

/-- A pair with a text as its key is what stands under the text. -/
theorem KeysApart.field?_of_mem {name : String} {v : Value} {ps : List (Value × Value)}
    (h : KeysApart (.map ps)) (hmem : (.text name, v) ∈ ps) : field? name ps = some v := by
  have hself : ((.text name : Value) == .text name) = true := by
    rw [beq_eq_same, same_text, beq_self_eq_true]
  exact Assoc.get?_of_mem h.keys hself hmem

end Value

namespace Yaml

open Value

/-- What is read with some fuel has no key twice. -/
structure ReadsApart (fuel : Nat) : Prop where
  /-- single values have none -/
  value : ∀ depth n, Ensures (Node.valueAt fuel depth n) KeysApart
  /-- the pairs of a mapping have none -/
  pairs : ∀ depth n, Ensures (Node.mapAt fuel depth n) fun ps => KeysApart (.map ps)

theorem keysApart_foldl_putPair {rs : List (Reading Value × Reading Value)}
    (h : ∀ r ∈ rs, Ensures r.2 KeysApart) {m : Reading (List (Value × Value))}
    (hm : Ensures m fun ps => KeysApart (.map ps)) :
    Ensures (rs.foldl putPair m) fun ps => KeysApart (.map ps) := by
  induction rs generalizing m with
  | nil => exact hm
  | cons r rs ih =>
    refine ih (fun s hs => h s (List.mem_cons_of_mem r hs)) (.map fun p hp => ?_)
    obtain ⟨hmap, hpair⟩ := both_ok hp
    exact (hm _ hmap).put (h r List.mem_cons_self _ (both_ok hpair).2)

/-- Of the kinds of nodes only mappings are maps. -/
theorem keysApart_valueAt {fuel : Nat} (h : ReadsApart fuel) (depth : Nat) (n : Node) :
    Ensures (Node.valueAt (fuel + 1) depth n) KeysApart := by
  unfold Node.valueAt
  cases n.tag <;> dsimp only
  case null => exact ensures_scalarAt _ _ fun _ => .pure (.other rfl)
  case bool => exact ensures_scalarAt _ _ fun _ => .map fun _ _ => .other rfl
  case int => exact ensures_scalarAt _ _ fun _ => .map fun _ _ => .other rfl
  case float => exact ensures_scalarAt _ _ fun _ => .map fun _ _ => .other rfl
  case str => exact ensures_scalarAt _ _ fun _ => .pure (.other rfl)
  case timestamp =>
    refine ensures_scalarAt _ _ fun t => ?_
    unfold momentOf
    dsimp only
    split
    · exact .throw _
    · split
      · exact .throw _
      · exact .pure (.other rfl)
  case binary =>
    refine ensures_scalarAt _ _ fun t => ?_
    split
    · split
      · exact .pure (.other rfl)
      · exact .throw _
    · exact .throw _
  case map => exact .map (h.pairs _ _)
  case set => exact .map fun _ _ => .other rfl
  case seq | omap | pairs =>
    split
    · exact .map fun _ _ => .other rfl
    · exact ensures_failAt _ _
  case merge | value | other => exact ensures_failAt _ _

theorem keysApart_mapAt {fuel : Nat} (h : ReadsApart fuel) (depth : Nat) (n : Node) :
    Ensures (Node.mapAt (fuel + 1) depth n) fun ps => KeysApart (.map ps) := by
  unfold Node.mapAt
  split
  · split
    · exact ensures_failAt _ _
    · refine keysApart_foldl_putPair (fun r hr => ?_) (.pure (.map .nil (by simp)))
      obtain ⟨p, -, rfl⟩ := List.mem_map.mp hr
      exact h.value _ _
  · exact ensures_failAt _ _

theorem readsApart (fuel : Nat) : ReadsApart fuel := by
  induction fuel with
  | zero =>
    refine ⟨fun depth n => ?_, fun depth n => ?_⟩
    · rw [Node.valueAt]
      exact ensures_failAt _ _
    · rw [Node.mapAt]
      exact ensures_failAt _ _
  | succ fuel ih => exact ⟨keysApart_valueAt ih, keysApart_mapAt ih⟩

/-- Whatever is read from a text has no key twice. -/
theorem keysApart_of_read {s : String} {v : Value} (h : read s = .ok v) : KeysApart v := by
  rw [read] at h
  split at h
  · cases h
  · cases h
    exact .other rfl
  · next n _ =>
    rw [Node.value] at h
    split at h
    · next w hw =>
      cases h
      exact (readsApart _).value _ n v hw
    · cases h

end Yaml

end EnumExport
