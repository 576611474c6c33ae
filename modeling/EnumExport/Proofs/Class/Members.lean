import EnumExport.Class.Basic
import EnumExport.Proofs.Outcome

/-!
# Members of a class

What holds of the members of every class that has come into being, whatever it is made of: no two
have one name, and no two of those that are gone through have equal values, as a member whose value
is there already is but another name. Each step of building the table keeps this
(`MemberTable.add_wellFormed`), and so the table of the class has it
(`ClassDef.table_wellFormed`).
-/

namespace EnumExport

/-! ## Names -/

theorem nodup_concat {α : Type} {xs : List α} {x : α} (h : xs.Nodup) (hx : x ∉ xs) :
    (xs ++ [x]).Nodup := by
  rw [List.nodup_append]
  refine ⟨h, by simp, ?_⟩
  rintro a ha b hb rfl
  exact hx (List.mem_singleton.mp hb ▸ ha)

/-- A declaration assigns each name once. -/
theorem assignFrom_nodup (counting : Counting) (before : List (String × Value))
    (members : List (String × MemberValue)) (h : (Assoc.keys before).Nodup) :
    Ensures (assignFrom counting before members) fun assigned => (Assoc.keys assigned).Nodup := by
  induction members generalizing before with
  | nil => exact .pure h
  | cons m rest ih =>
    obtain ⟨name, declared⟩ := m
    have hnext : ∀ v, Assoc.has name before = false →
        Ensures (assignFrom counting (before ++ [(name, v)]) rest) fun assigned =>
          (Assoc.keys assigned).Nodup := by
      intro v hnew
      refine ih _ ?_
      have hkeys : Assoc.keys (before ++ [(name, v)]) = Assoc.keys before ++ [name] :=
        List.map_append
      rw [hkeys]
      refine nodup_concat h fun hmem => ?_
      rw [← Assoc.has_iff_mem_keys, hnew] at hmem
      cases hmem
    -- a name that is there already, or that is reserved, ends the assignment
    unfold assignFrom
    dsimp only
    split
    · exact .throw_bind _ _
    · split
      · exact .throw_bind _ _
      · next hnew =>
        have hnew := Bool.eq_false_iff.mpr hnew
        cases declared with
        | given v => exact hnext v hnew
        | auto => exact .bind fun v _ => hnext v hnew

/-- The members of an enumeration bear names of their own. -/
theorem ClassDef.membersOf_nodup (d : ClassDecl) (counting : Counting) :
    Ensures (membersOf d counting) fun assigned => (Assoc.keys assigned).Nodup := by
  refine .bind fun assigned hassigned => ?_
  have hnodup := assignFrom_nodup counting [] _ List.nodup_nil assigned hassigned
  dsimp only
  split
  · exact .throw_bind _ _
  · split
    · exact .throw _
    · exact .pure hnodup

/-! ## The table -/

namespace MemberTable

/-- What holds of every table of members. -/
structure WellFormed (t : MemberTable) : Prop where
  /-- no name stands for two members -/
  distinct : (Assoc.keys t.names).Nodup
  /-- the members that are gone through have names, which are taken in that order -/
  listed : (t.listed.map Member.name).Sublist (Assoc.keys t.names)
  /-- the members that are gone through are among those that are named -/
  named : ∀ m ∈ t.listed, m ∈ t.names.map Prod.snd
  /-- no member that is gone through has the value of a later one -/
  apart : t.listed.Pairwise fun m n => m.value.unhashable? = none → m.value.same n.value = false

theorem wellFormed_empty : WellFormed {} where
  distinct := List.nodup_nil
  listed := .slnil
  named := by simp
  apart := .nil

variable {t : MemberTable} (ofBits : Bool) (name : String) (v : Value)

/-- A value that is not found differs from all values that can be keys. -/
theorem same_of_find?_none (h : t.find? v = none) {m : Member} (hm : m ∈ t.names.map Prod.snd)
    (hkey : m.value.unhashable? = none) : m.value.same v = false := by
  have hmiss := List.find?_eq_none.mp h m hm
  have hne : (m.value == v) = false := by simpa [hkey] using hmiss
  exact hne

theorem keys_add : Assoc.keys (t.add ofBits name v).names = Assoc.keys t.names ++ [name] := by
  rw [add]
  split <;> exact List.map_append

/-- One more member keeps the table well formed. -/
theorem add_wellFormed (h : t.WellFormed) (hname : name ∉ Assoc.keys t.names) :
    (t.add ofBits name v).WellFormed := by
  have hkeys := keys_add (t := t) ofBits name v
  have hdistinct := hkeys ▸ nodup_concat h.distinct hname
  have hlisted : (t.listed.map Member.name).Sublist (Assoc.keys t.names ++ [name]) :=
    h.listed.trans (List.sublist_append_left ..)
  rw [add] at hdistinct hkeys ⊢
  cases hfind : t.find? v with
  | some m =>
    -- another name of a member that is there
    simp only [hfind] at hdistinct hkeys ⊢
    refine ⟨hdistinct, hkeys ▸ hlisted, ?_, h.apart⟩
    intro n hn
    simp [h.named n hn]
  | none =>
    simp only [hfind] at hdistinct hkeys ⊢
    split
    · refine ⟨hdistinct, hkeys ▸ hlisted, ?_, h.apart⟩
      intro n hn
      simp [h.named n hn]
    · refine ⟨hdistinct, ?_, ?_, ?_⟩
      · rw [hkeys, List.map_append]
        exact h.listed.append (List.Sublist.refl _)
      · intro n hn
        rcases List.mem_append.mp hn with hn | hn
        · simp [h.named n hn]
        · simp [List.mem_singleton.mp hn]
      · refine List.pairwise_append.mpr ⟨h.apart, by simp, ?_⟩
        intro m hm n hn hkey
        rw [List.mem_singleton.mp hn]
        exact same_of_find?_none v hfind (h.named m hm) hkey

/-- A table built from members with names of their own is well formed. -/
theorem build_wellFormed (conversion : Conversion) (members : List (String × Value))
    (h : t.WellFormed) (hnames : (Assoc.keys t.names ++ Assoc.keys members).Nodup) :
    Ensures (build ofBits conversion t members) WellFormed := by
  induction members generalizing t with
  | nil => exact .pure h
  | cons m rest ih =>
    obtain ⟨name, declared⟩ := m
    refine .bind fun v _ => ih ?_ ?_
    · refine add_wellFormed ofBits name v h fun hname => ?_
      exact (List.nodup_append.mp hnames).2.2 name hname name (by simp [Assoc.keys]) rfl
    · rw [keys_add, List.append_assoc]
      exact hnames

end MemberTable

namespace ClassDef

/-- The table of every class is well formed. -/
theorem table_wellFormed (known : List ClassDef) (d : ClassDecl) :
    Ensures (ofDeclOver known d) fun c => c.table.WellFormed := by
  unfold ofDeclOver
  dsimp only
  generalize (if d.bases.isEmpty then [Ancestor.object] else d.bases) = bases
  generalize (d.keepsValues || _) = keeps
  split
  · refine .bind fun lines _ => ?_
    split
    · exact .throw_bind _ _
    · -- the members of an enumeration, or none
      split
      all_goals
        refine .bind fun assigned hassigned => ?_
        have hnames : (Assoc.keys assigned).Nodup := by
          first
          | exact membersOf_nodup _ _ assigned hassigned
          | cases hassigned; exact List.nodup_nil
        split
        · refine .bind fun line _ => .bind fun table htable => ?_
          have htable := MemberTable.build_wellFormed _ _ assigned MemberTable.wellFormed_empty
            hnames table htable
          split
          · exact .bind fun notes _ => .pure htable
          · exact .throw_bind _ _
        · exact .throw_bind _ _
  · exact .throw_bind _ _

end ClassDef

end EnumExport
