import EnumExport.Proofs.Class.Description

/-!
# What is said about members

What is said about the members of a class comes in calls. A call is accepted where all its names stand
for members and what it says about each of them can stand, and then each name carries what it says;
any other call leaves the class as it is: `annotatedBy_eq`. As a member has one name of its own and may
have others, which an accepted call may give as well, but the notes of a member are looked up under
its own name only, what is said last about it by another name is lost: `notesFor_annotatedBy` says
what a member carries after any calls, and `keepsNotes_iff` when that is what was said last about it
by whatever name. The case of the member carries the same: `notes_of_entry`.
-/

namespace EnumExport

/-- One call that says something about members: what is said under each name. -/
abbrev Call := List (String × AnnotationSpec)

/-! ## Calls that are accepted -/

/-- The notes that are written under a name. -/
def collect (s : String × AnnotationSpec) : Except AnnotationFault (String × CaseNotes) := do
  return (s.1, ← CaseNotes.ofSpec s.1 s.2)

namespace MemberTable

/-- What a call says, if it is accepted: its names stand for members, and what is written under each
can stand. -/
def said? (t : MemberTable) (call : Call) : Option (List (String × CaseNotes)) :=
  if (Assoc.keys (Assoc.ofList call)).all fun n => Assoc.has n t.names then
    ((Assoc.ofList call).mapM collect).toOption
  else none

/-- All that the accepted ones of some calls say, in order. -/
def said (t : MemberTable) (calls : List Call) : List (String × CaseNotes) :=
  (calls.filterMap t.said?).flatten

/-- Whether a name is a name of a member, its own or another one. -/
def isNameOf (t : MemberTable) (m : Member) (name : String) : Bool :=
  (Assoc.get? name t.names).map Member.name == some m.name

/-- What is said last about a member, with the name that is used. -/
def lastSaid? (t : MemberTable) (calls : List Call) (m : Member) : Option (String × CaseNotes) :=
  ((t.said calls).filter fun s => t.isNameOf m s.1).getLast?

/-- What is said last under a name. -/
def lastUnder? (t : MemberTable) (calls : List Call) (name : String) : Option CaseNotes :=
  ((t.said calls).filter fun s => s.1 == name).getLast?.map Prod.snd

end MemberTable

namespace ClassDef

/-- The class after a call; one that is not accepted leaves it as it is. -/
def annotated (c : ClassDef) (call : Call) : ClassDef :=
  match annotate c.name c.table c.notes (Assoc.ofList call) with
  | .ok notes => { c with notes }
  | .error _ => c

/-- The class after some calls, one after the other. -/
def annotatedBy (c : ClassDef) (calls : List Call) : ClassDef := calls.foldl annotated c

/-- A member that an accepted call names, by whatever name, carries what is said last about it. -/
def KeepsNotes (c : ClassDef) (calls : List Call) : Prop :=
  ∀ name m, name ∈ Assoc.keys (c.table.said calls) → Assoc.get? name c.table.names = some m →
    (c.table.lastSaid? calls m).map Prod.snd = some ((c.annotatedBy calls).notesFor m)

variable {c : ClassDef} {calls : List Call} {m : Member}

theorem foldlM_put (specs : Call) (before : List (String × CaseNotes)) :
    (specs.foldlM (fun notes s => do return Assoc.put s.1 (← CaseNotes.ofSpec s.1 s.2) notes)
      before : Except AnnotationFault _) =
      (specs.mapM collect).map (Assoc.update before) := by
  induction specs generalizing before with
  | nil => rfl
  | cons s rest ih =>
    rw [List.foldlM_cons, List.mapM_cons]
    cases hs : CaseNotes.ofSpec s.1 s.2 with
    | error e =>
      rw [collect, hs]
      rfl
    | ok notes =>
      have hcollect : collect s = .ok (s.1, notes) := by
        rw [collect, hs]
        rfl
      rw [hcollect]
      refine (ih _).trans ?_
      cases rest.mapM collect <;> rfl

/-- No name is unknown where all are known, whatever the order in which the unknown ones are told. -/
theorem isEmpty_unknown (names : List String) (known : String → Bool) :
    ((names.filter fun n => !known n).mergeSort fun a b => decide (a ≤ b)).isEmpty =
      names.all known := by
  rw [Bool.eq_iff_iff, List.isEmpty_iff, ← List.length_eq_zero_iff, List.length_mergeSort,
    List.length_eq_zero_iff, List.filter_eq_nil_iff, List.all_eq_true]
  simp

/-- An accepted call puts what it says into what was said before. -/
theorem toOption_annotate (owner : String) (t : MemberTable) (before : List (String × CaseNotes))
    (call : Call) : (annotate owner t before (Assoc.ofList call)).toOption =
      (t.said? call).map (Assoc.update before) := by
  rw [annotate, MemberTable.said?]
  dsimp only
  rw [isEmpty_unknown]
  cases (Assoc.keys (Assoc.ofList call)).all fun n => Assoc.has n t.names with
  | false => rfl
  | true =>
    rw [if_neg (by simp), if_pos rfl]
    refine (congrArg Except.toOption (foldlM_put _ before)).trans ?_
    cases (Assoc.ofList call).mapM collect <;> rfl

/-- A call is accepted exactly where it says something. -/
theorem annotate_ok_iff {owner : String} {t : MemberTable} {before : List (String × CaseNotes)}
    {call : Call} : (∃ notes, annotate owner t before (Assoc.ofList call) = .ok notes) ↔
      t.said? call ≠ none := by
  have hcall := toOption_annotate owner t before call
  constructor
  · rintro ⟨notes, hnotes⟩ hnone
    rw [hnotes, hnone] at hcall
    cases hcall
  · intro hsome
    obtain ⟨said, hsaid⟩ := Option.ne_none_iff_exists'.mp hsome
    rw [hsaid] at hcall
    cases hannotate : annotate owner t before (Assoc.ofList call) with
    | ok notes => exact ⟨notes, rfl⟩
    | error e =>
      rw [hannotate] at hcall
      cases hcall

/-- A call that is accepted puts what it says into the notes of the class. -/
theorem annotated_eq (c : ClassDef) (call : Call) : c.annotated call =
    { c with notes := Assoc.update c.notes ((c.table.said? call).getD []) } := by
  have hcall := toOption_annotate c.name c.table c.notes call
  rw [annotated]
  cases hannotate : annotate c.name c.table c.notes (Assoc.ofList call) with
  | ok notes =>
    obtain ⟨said, hsaid, rfl⟩ := Option.map_eq_some_iff.mp (hcall.symm.trans (by rw [hannotate]; rfl))
    rw [hsaid]
    rfl
  | error e =>
    have hnone := Option.map_eq_none_iff.mp (hcall.symm.trans (by rw [hannotate]; rfl))
    rw [hnone]
    rfl

/-- After some calls the notes are those of before with all that is said put in. -/
theorem annotatedBy_eq (c : ClassDef) (calls : List Call) :
    c.annotatedBy calls = { c with notes := Assoc.update c.notes (c.table.said calls) } := by
  induction calls generalizing c with
  | nil => rfl
  | cons call rest ih =>
    have hsaid : c.table.said (call :: rest) =
        (c.table.said? call).getD [] ++ c.table.said rest := by
      rw [MemberTable.said, List.filterMap_cons]
      cases c.table.said? call <;> rfl
    refine (ih (c.annotated call)).trans ?_
    rw [annotated_eq, hsaid, Assoc.update, Assoc.update, Assoc.update, List.foldl_append]

/-! ## What members carry -/

/-- A member carries what was said last under its own name, or what it carried before. -/
theorem notesFor_annotatedBy (c : ClassDef) (calls : List Call) (m : Member) :
    (c.annotatedBy calls).notesFor m =
      (c.table.lastUnder? calls m.name).getD (c.notesFor m) := by
  rw [annotatedBy_eq, notesFor, notesFor, Assoc.update, Assoc.get?_foldl_put,
    MemberTable.lastUnder?]
  cases (((c.table.said calls).filter fun s => s.1 == m.name).getLast?.map Prod.snd) <;> rfl

end ClassDef

namespace MemberTable

variable {t : MemberTable} {calls : List Call} {m : Member}

/-- What is said last about a member, if it is said by the member's own name, is what is said last
under this name. -/
theorem lastUnder?_of_lastSaid? {s : String × CaseNotes} (h : t.lastSaid? calls m = some s)
    (hown : s.1 = m.name) : t.lastUnder? calls m.name = some s.2 := by
  obtain ⟨name, notes⟩ := s
  obtain rfl : name = m.name := hown
  rw [lastSaid?] at h
  have hname : t.isNameOf m m.name = true :=
    (List.mem_filter.mp (List.mem_of_getLast? h)).2
  -- what is said under the name is among what is said about the member
  have hamong : ((t.said calls).filter fun s => s.1 == m.name) =
      ((t.said calls).filter fun s => t.isNameOf m s.1).filter fun s => s.1 == m.name := by
    rw [List.filter_filter]
    refine List.filter_congr fun s _ => ?_
    by_cases hs : s.1 = m.name
    · simp [hs, hname]
    · simp [hs]
  obtain ⟨front, hfront⟩ := List.getLast?_eq_some_iff.mp h
  rw [lastUnder?, hamong, hfront, List.filter_append, List.filter_cons_of_pos (by simp),
    List.getLast?_append]
  rfl

theorem isNameOf_of_get? {name : String} (h : Assoc.get? name t.names = some m) :
    t.isNameOf m name = true := by
  rw [isNameOf, h]
  exact beq_self_eq_true _

/-- About a member that an accepted call names, something is said last. -/
theorem exists_lastSaid? {name : String} (hsaid : name ∈ Assoc.keys (t.said calls))
    (hname : Assoc.get? name t.names = some m) : ∃ s, t.lastSaid? calls m = some s := by
  obtain ⟨s, hs, rfl⟩ := List.mem_map.mp hsaid
  have hmem : s ∈ (t.said calls).filter fun s => t.isNameOf m s.1 :=
    List.mem_filter.mpr ⟨hs, isNameOf_of_get? hname⟩
  apply Option.ne_none_iff_exists'.mp
  intro hnone
  exact List.ne_nil_of_mem hmem (List.getLast?_eq_none_iff.mp hnone)

end MemberTable

namespace ClassDef

variable {c : ClassDef} {calls : List Call}

/-- What is said by another name than a member's own is kept only where the member carries the same
anyway, and nothing else is lost. -/
theorem keepsNotes_iff : c.KeepsNotes calls ↔
    ∀ name m s, name ∈ Assoc.keys (c.table.said calls) →
      Assoc.get? name c.table.names = some m → c.table.lastSaid? calls m = some s →
        s.1 ≠ m.name → s.2 = (c.table.lastUnder? calls m.name).getD (c.notesFor m) := by
  constructor
  · intro hkeeps name m s hsaid hname hlast _
    have hcarries := hkeeps name m hsaid hname
    rw [hlast, notesFor_annotatedBy] at hcarries
    exact Option.some.inj hcarries
  · intro hothers name m hsaid hname
    obtain ⟨s, hlast⟩ := MemberTable.exists_lastSaid? hsaid hname
    rw [hlast, notesFor_annotatedBy]
    by_cases hown : s.1 = m.name
    · rw [MemberTable.lastUnder?_of_lastSaid? hlast hown]
      rfl
    · exact congrArg some (hothers name m s hsaid hname hlast hown)

/-- The cases of an entry carry what is said about the members, the labels as they are resolved. -/
theorem notes_of_entry {files : FileTree} {r : LabelResolver} {locale : Value}
    {qualifiedName : Option String} {entry : Entry}
    (h : (c.entry files r locale qualifiedName).2 = .ok entry) :
    (entry.cases.map fun x => (x.key, x.data)) =
        (c.members.map fun m => (m.name, (c.notesFor m).metadata)) ∧
      (entry.cases.map fun x => (.ok x.label : Except Wording.Fault Label)) =
        c.members.map fun m => r.resolve files m.name (c.notesFor m) c.name locale := by
  obtain ⟨rows, hrows, hcases, -⟩ := rows_of_entry h
  rw [hcases, List.map_map, List.map_map]
  refine ⟨Ensures.mapM (fun m _ p hp => ?_) rows hrows, Ensures.mapM (fun m _ p hp => ?_) rows hrows⟩
  all_goals obtain ⟨label, hlabel, rfl⟩ := c.rowOf_ensures files r locale m p hp
  · rfl
  · exact hlabel.symm

/-- **Notes of members.** After any calls a member carries what the accepted ones say last under its
own name, and so does its case. That is what they say last about the member by whatever name, except
where the last to speak of it uses another name and says something else. -/
theorem notes_of_calls (c : ClassDef) (calls : List Call) :
    (∀ call, (∃ notes, annotate c.name c.table c.notes (Assoc.ofList call) = .ok notes) ↔
        c.table.said? call ≠ none) ∧
      (∀ m, (c.annotatedBy calls).notesFor m =
        (c.table.lastUnder? calls m.name).getD (c.notesFor m)) ∧
      (c.KeepsNotes calls ↔ ∀ name m s, name ∈ Assoc.keys (c.table.said calls) →
        Assoc.get? name c.table.names = some m → c.table.lastSaid? calls m = some s →
          s.1 ≠ m.name → s.2 = (c.table.lastUnder? calls m.name).getD (c.notesFor m)) ∧
      ∀ files r locale qualifiedName entry,
        ((c.annotatedBy calls).entry files r locale qualifiedName).2 = .ok entry →
          (entry.cases.map fun x => (x.key, x.data)) = (c.members.map fun m =>
              (m.name, ((c.annotatedBy calls).notesFor m).metadata)) ∧
            (entry.cases.map fun x => (.ok x.label : Except Wording.Fault Label)) =
              c.members.map fun m =>
                r.resolve files m.name ((c.annotatedBy calls).notesFor m) c.name locale := by
  refine ⟨fun call => annotate_ok_iff, notesFor_annotatedBy c calls, keepsNotes_iff, ?_⟩
  intro files r locale qualifiedName entry hentry
  have hmembers : (c.annotatedBy calls).members = c.members := by
    rw [annotatedBy_eq]
    rfl
  have hname : (c.annotatedBy calls).name = c.name := by rw [annotatedBy_eq]
  rw [← hmembers, ← hname]
  exact notes_of_entry hentry

end ClassDef

/-! ## A label under another name of a member -/

/-- A call that gives a label to `Hearts`, by its other name. -/
def redCall : Call := [("Reds", .one (.label (.fixed "Red")))]

/-- The call is accepted, but `Hearts` does not carry the label. -/
theorem suit_loses_label : ClassDef.ofDeclOver [] suit = .ok suitClass ∧
    suitClass.table.said [redCall] = [("Reds", { label := some (.fixed "Red") })] ∧
    (suitClass.annotatedBy [redCall]).notesFor ⟨"Hearts", .text "H"⟩ = {} ∧
    ¬ suitClass.KeepsNotes [redCall] := by
  have hsaid : suitClass.table.said [redCall] = [("Reds", { label := some (.fixed "Red") })] := rfl
  have hcarries : (suitClass.annotatedBy [redCall]).notesFor ⟨"Hearts", .text "H"⟩ = {} := by
    rw [ClassDef.notesFor_annotatedBy]
    rfl
  refine ⟨suit_built, hsaid, hcarries, fun hkeeps => ?_⟩
  have hlost := hkeeps "Reds" ⟨"Hearts", .text "H"⟩ (by rw [hsaid]; simp [Assoc.keys]) rfl
  rw [hcarries] at hlost
  cases hlost

end EnumExport
