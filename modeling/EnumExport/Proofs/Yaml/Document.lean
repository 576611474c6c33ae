import EnumExport.Proofs.Outcome
import EnumExport.Yaml.Document

/-!
# What documents hold

A document stands for scalars and for containers that may be changed, nested to any depth: no member
of an enumeration, no view of a map and nothing foreign is ever read from a text,
`isDocument_of_read`. So what counts as a text there is one, `eq_text_of_isText`.

The nodes of a tree are gone through with one unit of fuel for each level, and the statement is
proved by induction on it, for single values, for the pairs of a mapping and for single pairs at
once.
-/

namespace EnumExport

namespace Value

mutual

/-- Whether a value is made of what a document can hold. -/
def isDocument : Value → Bool
  | .list xs | .tuple xs | .set _ xs => areDocument xs
  | .map ps => pairsDocument ps
  | .readOnly _ | .member _ _ | .foreign => false
  | _ => true

/-- Whether several values are made of what a document can hold. -/
def areDocument : List Value → Bool
  | [] => true
  | x :: xs => isDocument x && areDocument xs

/-- Whether the keys and values of pairs are made of what a document can hold. -/
def pairsDocument : List (Value × Value) → Bool
  | [] => true
  | (k, v) :: ps => isDocument k && isDocument v && pairsDocument ps

end

theorem areDocument_iff {xs : List Value} :
    areDocument xs = true ↔ ∀ x ∈ xs, x.isDocument = true := by
  induction xs with
  | nil => simp [areDocument]
  | cons x xs ih => simp [areDocument, ih]

theorem pairsDocument_iff {ps : List (Value × Value)} :
    pairsDocument ps = true ↔ ∀ p ∈ ps, p.1.isDocument = true ∧ p.2.isDocument = true := by
  induction ps with
  | nil => simp [pairsDocument]
  | cons p ps ih =>
    obtain ⟨k, v⟩ := p
    simp [pairsDocument, ih]

/-- In a document, what counts as a text is one. -/
theorem eq_text_of_isText {v : Value} (hv : v.isDocument = true) (h : v.isText = true) :
    ∃ s, v = .text s := by
  cases v with
  | text s => exact ⟨s, rfl⟩
  | member tag w => cases hv
  | _ => cases h

/-- The value of a field is made of what the map is made of. -/
theorem isDocument_of_field? {name : String} {ps : List (Value × Value)} {v : Value}
    (hps : pairsDocument ps = true) (h : field? name ps = some v) : v.isDocument = true := by
  obtain ⟨p, hp, -, rfl⟩ := Assoc.mem_of_get? h
  exact (pairsDocument_iff.mp hps p hp).2

end Value

namespace Yaml

open Value

/-! ## Several readings -/

theorem both_ok {α β : Type} {r : Reading α} {s : Reading β} {p : α × β} (h : both r s = .ok p) :
    r = .ok p.1 ∧ s = .ok p.2 := by
  cases r with
  | error e => cases s <;> cases h
  | ok a =>
    cases s with
    | error f => cases h
    | ok b =>
      cases h
      exact ⟨rfl, rfl⟩

theorem all_ok {α : Type} {rs : List (Reading α)} {xs : List α} (h : all rs = .ok xs) :
    ∀ x ∈ xs, .ok x ∈ rs := by
  induction rs generalizing xs with
  | nil =>
    cases h
    simp
  | cons r rs ih =>
    have hboth : Ensures (all (r :: rs)) fun xs => ∀ x ∈ xs, .ok x ∈ r :: rs := by
      refine .map fun p hp x hx => ?_
      obtain ⟨hr, hrs⟩ := both_ok hp
      rcases List.mem_cons.mp hx with rfl | hx
      · exact hr ▸ List.mem_cons_self
      · exact List.mem_cons_of_mem r (ih hrs x hx)
    exact hboth xs h

/-- A pair that is put into a map leaves the map as it was, its own key and value aside. -/
theorem pairsDocument_put {k v : Value} {ps : List (Value × Value)} (hk : k.isDocument = true)
    (hv : v.isDocument = true) (hps : pairsDocument ps = true) :
    pairsDocument (Assoc.put k v ps) = true := by
  induction ps with
  | nil => simp [Assoc.put, pairsDocument, hk, hv]
  | cons p ps ih =>
    obtain ⟨j, w⟩ := p
    simp only [pairsDocument, Bool.and_eq_true] at hps
    obtain ⟨⟨hj, hw⟩, hrest⟩ := hps
    rw [Assoc.put]
    split
    · simp [pairsDocument, hj, hv, hrest]
    · simp [pairsDocument, hj, hw, ih hrest]

/-- Pairs that are put together from what documents hold are made of it. -/
theorem ensures_foldl_putPair {rs : List (Reading Value × Reading Value)}
    (h : ∀ r ∈ rs, Ensures r.1 (fun v => v.isDocument = true) ∧
      Ensures r.2 (fun v => v.isDocument = true)) {m : Reading (List (Value × Value))}
    (hm : Ensures m fun ps => pairsDocument ps = true) :
    Ensures (rs.foldl putPair m) fun ps => pairsDocument ps = true := by
  induction rs generalizing m with
  | nil => exact hm
  | cons r rs ih =>
    obtain ⟨hkey, hvalue⟩ := h r (by simp)
    refine ih (fun s hs => h s (by simp [hs])) (.map fun p hp => ?_)
    obtain ⟨hmap, hpair⟩ := both_ok hp
    obtain ⟨hk, hv⟩ := both_ok hpair
    exact pairsDocument_put (hkey _ hk) (hvalue _ hv) (hm _ hmap)

/-! ## Scalars -/

theorem ensures_atDepth {α : Type} {P : α → Prop} {depth : Nat} {x : Except Unreadable α}
    (h : Ensures x P) : Ensures (atDepth depth x) P := by
  intro a ha
  cases x with
  | error e => cases ha
  | ok b =>
    cases ha
    exact h a rfl

theorem ensures_failAt {α : Type} {P : α → Prop} (depth : Nat) (reason : Unreadable) :
    Ensures (failAt depth reason : Reading α) P := by
  intro a ha
  cases ha

/-- What the text of a node stands for, at its depth. -/
def scalarAt (depth : Nat) (n : Node) (f : String → Except Unreadable Value) : Reading Value :=
  match n.text? with
  | some t => atDepth depth (f t)
  | none => failAt depth .malformed

theorem ensures_scalarAt {P : Value → Prop} {f : String → Except Unreadable Value} (depth : Nat)
    (n : Node) (h : ∀ t, Ensures (f t) P) : Ensures (scalarAt depth n f) P := by
  rw [scalarAt]
  split
  · exact ensures_atDepth (h _)
  · exact ensures_failAt _ _

theorem ensures_momentOf (text : String) :
    Ensures (momentOf text) fun v => v.isDocument = true := by
  unfold momentOf
  dsimp only
  split
  · exact .throw _
  · split
    · exact .throw _
    · exact .pure rfl

/-! ## Nodes -/

/-- What is read with some fuel is made of what documents can hold. -/
structure ReadsDocuments (fuel : Nat) : Prop where
  /-- single values are -/
  value : ∀ depth n, Ensures (Node.valueAt fuel depth n) fun v => v.isDocument = true
  /-- the pairs of a mapping are -/
  pairs : ∀ depth n, Ensures (Node.mapAt fuel depth n) fun ps => pairsDocument ps = true
  /-- single pairs are -/
  pair : ∀ depth n, Ensures (Node.pairAt fuel depth n) fun v => v.isDocument = true

section Step

variable {fuel : Nat} (h : ReadsDocuments fuel)
include h

theorem ensures_valueAt (depth : Nat) (n : Node) :
    Ensures (Node.valueAt (fuel + 1) depth n) fun v => v.isDocument = true := by
  have hlist : ∀ (f : Node → Reading Value) (items : List Node),
      (∀ i, Ensures (f i) fun v => v.isDocument = true) →
      Ensures ((all (items.map f)).map Value.list) fun v => v.isDocument = true := by
    intro f items hf
    refine .map fun xs hxs => areDocument_iff.mpr fun x hx => ?_
    obtain ⟨i, -, hi⟩ := List.mem_map.mp (all_ok hxs x hx)
    exact hf i x hi
  unfold Node.valueAt
  cases n.tag <;> dsimp only
  case null => exact ensures_scalarAt _ _ fun _ => .pure rfl
  case bool => exact ensures_scalarAt _ _ fun _ => .map fun _ _ => rfl
  case int => exact ensures_scalarAt _ _ fun _ => .map fun _ _ => rfl
  case float => exact ensures_scalarAt _ _ fun _ => .map fun _ _ => rfl
  case timestamp => exact ensures_scalarAt _ _ ensures_momentOf
  case str => exact ensures_scalarAt _ _ fun _ => .pure rfl
  case binary =>
    refine ensures_scalarAt _ _ fun t => ?_
    split
    · split
      · exact .pure rfl
      · exact .throw _
    · exact .throw _
  case seq =>
    split
    · exact hlist _ _ (h.value _)
    · exact ensures_failAt _ _
  case map => exact .map (h.pairs _ _)
  case set =>
    refine .map fun ps hps => areDocument_iff.mpr fun k hk => ?_
    obtain ⟨p, hp, rfl⟩ := List.mem_map.mp hk
    exact (pairsDocument_iff.mp (h.pairs _ _ ps hps) p hp).1
  case omap | pairs =>
    split
    · exact hlist _ _ (h.pair _)
    · exact ensures_failAt _ _
  case merge | value | other => exact ensures_failAt _ _

theorem ensures_mapAt (depth : Nat) (n : Node) :
    Ensures (Node.mapAt (fuel + 1) depth n) fun ps => pairsDocument ps = true := by
  unfold Node.mapAt
  split
  · split
    · exact ensures_failAt _ _
    · refine ensures_foldl_putPair (fun r hr => ?_) (.pure rfl)
      obtain ⟨p, -, rfl⟩ := List.mem_map.mp hr
      refine ⟨?_, h.value _ _⟩
      dsimp only
      split
      · exact ensures_failAt _ _
      · exact h.value _ _
  · exact ensures_failAt _ _

theorem ensures_pairAt (depth : Nat) (n : Node) :
    Ensures (Node.pairAt (fuel + 1) depth n) fun v => v.isDocument = true := by
  unfold Node.pairAt
  split
  · refine .map fun p hp => ?_
    obtain ⟨hk, hv⟩ := both_ok hp
    simp [isDocument, areDocument, h.value _ _ _ hk, h.value _ _ _ hv]
  · exact ensures_failAt _ _

end Step

theorem readsDocuments (fuel : Nat) : ReadsDocuments fuel := by
  induction fuel with
  | zero =>
    refine ⟨fun depth n => ?_, fun depth n => ?_, fun depth n => ?_⟩
    · rw [Node.valueAt]
      exact ensures_failAt _ _
    · rw [Node.mapAt]
      exact ensures_failAt _ _
    · rw [Node.pairAt]
      exact ensures_failAt _ _
  | succ fuel ih => exact ⟨ensures_valueAt ih, ensures_mapAt ih, ensures_pairAt ih⟩

/-- Whatever is read from a text is made of what documents can hold. -/
theorem isDocument_of_read {s : String} {v : Value} (h : read s = .ok v) : v.isDocument = true := by
  rw [read] at h
  split at h
  · cases h
  · cases h
    rfl
  · next n _ =>
    rw [Node.value] at h
    split at h
    · next w hw =>
      cases h
      exact (readsDocuments _).value _ n v hw
    · cases h

end Yaml

end EnumExport
