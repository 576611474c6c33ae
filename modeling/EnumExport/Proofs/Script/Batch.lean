import EnumExport.Proofs.Class.Generation

/-!
# Generating all modules of a manifest

A batch goes through a manifest entry by entry.

* Unless it is ended, what it makes of an entry is what the entry gives alone (`attempt`), so the
  sources and the failures are two parts of one list: `generateAll_eq_ok_iff`.
* It is ended by an entry with an error about a name, and then gives nothing for the others either.
* What it gives for an entry does not depend on the others: `accounts_of_ok`.

For entries of classes that pass the tests, `batch_accounts` says which manifests have a batch:
those in which the metadata of every well-formed entry is named by texts.
-/

namespace EnumExport.Script

/-! ## What a batch is made of -/

/-- What a batch makes of an entry: its module, or its failure. -/
def attempt (options : Options) (p : String × Entry) : Except Failure String :=
  (generate p.1 p.2 options).mapError (failureOf p.1 p.2)

/-- The entry ends a batch. -/
def EndsBatch (options : Options) (p : String × Entry) : Prop :=
  ∃ kind, generate p.1 p.2 options = .error (.nameless kind)

/-- The batch of a manifest that no entry ends. -/
def Batch.of (options : Options) (manifest : Manifest) : Batch where
  sources := manifest.filterMap (valueOf? Prod.fst (attempt options))
  failures := manifest.filterMap (errorOf? Prod.fst (attempt options))

variable {options : Options} {manifest : Manifest} {batch : Batch}

/-- A source stands in front of those of the other entries. -/
theorem Batch.of_cons_ok {p : String × Entry} {text : String}
    (h : generate p.1 p.2 options = .ok text) (rest : Manifest) :
    Batch.of options (p :: rest) =
      { Batch.of options rest with sources := (p.1, text) :: (Batch.of options rest).sources } := by
  have hattempt : attempt options p = .ok text := by rw [attempt, h]; rfl
  simp [Batch.of, valueOf?, errorOf?, hattempt]

/-- And so does a failure. -/
theorem Batch.of_cons_error {p : String × Entry} {e : GenerateError}
    (h : generate p.1 p.2 options = .error e) (rest : Manifest) :
    Batch.of options (p :: rest) =
      { Batch.of options rest with
        failures := (p.1, failureOf p.1 p.2 e) :: (Batch.of options rest).failures } := by
  have hattempt : attempt options p = .error (failureOf p.1 p.2 e) := by rw [attempt, h]; rfl
  simp [Batch.of, valueOf?, errorOf?, hattempt]

theorem not_endsBatch_of_ok {name : String} {entry : Entry} {text : String}
    (h : generate name entry options = .ok text) : ¬ EndsBatch options (name, entry) := by
  rintro ⟨kind, hkind⟩
  cases h.symm.trans hkind

theorem not_endsBatch_of_error {name : String} {entry : Entry} {e : GenerateError}
    (h : generate name entry options = .error e) (he : ∀ kind, e ≠ .nameless kind) :
    ¬ EndsBatch options (name, entry) := by
  rintro ⟨kind, hkind⟩
  exact he kind (Except.error.inj (h.symm.trans hkind))

/-- A manifest has a batch unless one of its entries ends it. -/
theorem generateAll_eq_ok_iff : generateAll options manifest = .ok batch ↔
    (∀ p ∈ manifest, ¬ EndsBatch options p) ∧ batch = Batch.of options manifest := by
  induction manifest generalizing batch with
  | nil =>
    rw [generateAll, Except.ok.injEq, eq_comm]
    exact ⟨fun h => ⟨by simp, h⟩, fun h => h.2⟩
  | cons p rest ih =>
    obtain ⟨name, entry⟩ := p
    rw [generateAll]
    split
    · next text htext =>
      rw [Batch.of_cons_ok htext]
      simp only [List.forall_mem_cons, not_endsBatch_of_ok htext, not_false_eq_true, true_and]
      exact bind_ok_iff (fun _ => ih) fun b => { b with sources := (name, text) :: b.sources }
    · next kind hkind =>
      constructor
      · intro h
        cases h
      · intro h
        exact absurd ⟨kind, hkind⟩ (h.1 (name, entry) (by simp))
    · next e hnameless he =>
      rw [Batch.of_cons_error he]
      simp only [List.forall_mem_cons, not_endsBatch_of_error he hnameless, not_false_eq_true,
        true_and]
      exact bind_ok_iff (fun _ => ih) fun b =>
        { b with failures := (name, failureOf name entry e) :: b.failures }

/-! ## Accounts -/

/-- What a batch says of the entries of other names. -/
def Batch.without (batch : Batch) (name : String) : Batch where
  sources := batch.sources.filter fun p => p.1 != name
  failures := batch.failures.filter fun p => p.1 != name

/-- What a batch gives for the names of a manifest. -/
structure Batch.Accounts (options : Options) (manifest : Manifest) (batch : Batch) : Prop where
  /-- the sources are the modules that entries give alone -/
  sources : ∀ name text, (name, text) ∈ batch.sources ↔
    ∃ entry, (name, entry) ∈ manifest ∧ generate name entry options = .ok text
  /-- the failures are those of entries that give none -/
  failures : ∀ name failure, (name, failure) ∈ batch.failures ↔
    ∃ entry e, (name, entry) ∈ manifest ∧ generate name entry options = .error e ∧
      failure = failureOf name entry e
  /-- every name is among the sources or among the failures, and not among both -/
  once : ∀ name ∈ Assoc.keys manifest,
    (name ∈ Assoc.keys batch.sources ↔ name ∉ Assoc.keys batch.failures)
  /-- the sources are in the order of the manifest -/
  sources_order : (Assoc.keys batch.sources).Sublist (Assoc.keys manifest)
  /-- and so are the failures -/
  failures_order : (Assoc.keys batch.failures).Sublist (Assoc.keys manifest)
  /-- without an entry, the others get the same -/
  removed : ∀ name, generateAll options (manifest.filter fun p => p.1 != name) =
    .ok (batch.without name)
  /-- with another entry in its place, the others get the same -/
  replaced : ∀ name entry other, generateAll options (Assoc.put name entry manifest) = .ok other →
    other.without name = batch.without name

theorem mem_sources {name text : String} : (name, text) ∈ (Batch.of options manifest).sources ↔
    ∃ entry, (name, entry) ∈ manifest ∧ generate name entry options = .ok text := by
  rw [Batch.of, List.mem_filterMap]
  constructor
  · rintro ⟨⟨n, entry⟩, hp, hvalue⟩
    rw [valueOf?, attempt] at hvalue
    cases hgenerate : generate n entry options with
    | error e => simp [hgenerate, Except.mapError] at hvalue
    | ok t =>
      simp only [hgenerate, Except.mapError, Option.some.injEq, Prod.mk.injEq] at hvalue
      obtain ⟨rfl, rfl⟩ := hvalue
      exact ⟨entry, hp, hgenerate⟩
  · rintro ⟨entry, hp, hgenerate⟩
    exact ⟨(name, entry), hp, by rw [valueOf?, attempt, hgenerate]; rfl⟩

theorem mem_failures {name : String} {failure : Failure} :
    (name, failure) ∈ (Batch.of options manifest).failures ↔
      ∃ entry e, (name, entry) ∈ manifest ∧ generate name entry options = .error e ∧
        failure = failureOf name entry e := by
  rw [Batch.of, List.mem_filterMap]
  constructor
  · rintro ⟨⟨n, entry⟩, hp, herror⟩
    rw [errorOf?, attempt] at herror
    cases hgenerate : generate n entry options with
    | ok t => simp [hgenerate, Except.mapError] at herror
    | error e =>
      simp only [hgenerate, Except.mapError, Option.some.injEq, Prod.mk.injEq] at herror
      obtain ⟨rfl, rfl⟩ := herror
      exact ⟨entry, e, hp, hgenerate, rfl⟩
  · rintro ⟨entry, e, hp, hgenerate, rfl⟩
    exact ⟨(name, entry), hp, by rw [errorOf?, attempt, hgenerate]; rfl⟩

/-- The keys of what is kept of some items are in the order of the items. -/
theorem keys_filterMap_sublist {β : Type} {f : String × Entry → Option (String × β)}
    (hf : ∀ p q, f p = some q → q.1 = p.1) :
    (Assoc.keys (manifest.filterMap f)).Sublist (Assoc.keys manifest) := by
  induction manifest with
  | nil => exact .slnil
  | cons p rest ih =>
    rw [List.filterMap_cons]
    split
    · exact ih.cons _
    · next q hq =>
      rw [Assoc.keys, List.map_cons, hf p q hq]
      exact ih.cons_cons _

/-- The batch of the entries of other names. -/
theorem Batch.of_without (name : String) :
    Batch.of options (manifest.filter fun p => p.1 != name) =
      (Batch.of options manifest).without name := by
  rw [Batch.of, Batch.of, Batch.without]
  congr 1
  · exact filterMap_filter_keys (fun _ _ => key_of_valueOf?) (· != name) _
  · exact filterMap_filter_keys (fun _ _ => key_of_errorOf?) (· != name) _

section Names

variable (hnames : (Assoc.keys manifest).Nodup) {name : String} {entry : Entry}
  (hp : (name, entry) ∈ manifest)
include hnames hp

theorem entry_unique {other : Entry} (h : (name, other) ∈ manifest) : other = entry := by
  have hget := (Assoc.get?_eq_some_iff hnames).mpr hp
  rw [(Assoc.get?_eq_some_iff hnames).mpr h] at hget
  exact Option.some.inj hget

/-- The names of the sources are those of the entries with a module. -/
theorem mem_keys_sources : name ∈ Assoc.keys (Batch.of options manifest).sources ↔
    ∃ text, generate name entry options = .ok text := by
  constructor
  · intro h
    obtain ⟨⟨n, text⟩, hsource, rfl⟩ := List.mem_map.mp h
    obtain ⟨other, hother, htext⟩ := mem_sources.mp hsource
    obtain rfl := entry_unique hnames hp hother
    exact ⟨text, htext⟩
  · rintro ⟨text, htext⟩
    exact List.mem_map.mpr ⟨_, mem_sources.mpr ⟨entry, hp, htext⟩, rfl⟩

/-- The names of the failures are those of the entries without one. -/
theorem mem_keys_failures : name ∈ Assoc.keys (Batch.of options manifest).failures ↔
    ∃ e, generate name entry options = .error e := by
  constructor
  · intro h
    obtain ⟨⟨n, failure⟩, hfailure, rfl⟩ := List.mem_map.mp h
    obtain ⟨other, e, hother, he, -⟩ := mem_failures.mp hfailure
    obtain rfl := entry_unique hnames hp hother
    exact ⟨e, he⟩
  · rintro ⟨e, he⟩
    exact List.mem_map.mpr ⟨_, mem_failures.mpr ⟨entry, e, hp, he, rfl⟩, rfl⟩

end Names

/-- Where every name occurs once, a batch gives for each entry what it gives alone. -/
theorem accounts_of_ok (hnames : (Assoc.keys manifest).Nodup)
    (h : generateAll options manifest = .ok batch) : batch.Accounts options manifest := by
  obtain ⟨hnone, rfl⟩ := generateAll_eq_ok_iff.mp h
  refine ⟨fun _ _ => mem_sources, fun _ _ => mem_failures, ?once,
    keys_filterMap_sublist fun _ _ => key_of_valueOf?,
    keys_filterMap_sublist fun _ _ => key_of_errorOf?, ?removed, ?replaced⟩
  case once =>
    intro name hname
    obtain ⟨⟨n, entry⟩, hp, rfl⟩ := List.mem_map.mp hname
    rw [mem_keys_sources hnames hp, mem_keys_failures hnames hp]
    cases generate n entry options <;> simp
  case removed =>
    intro name
    refine generateAll_eq_ok_iff.mpr ⟨fun p hp => hnone p (List.mem_filter.mp hp).1, ?_⟩
    exact (Batch.of_without name).symm
  case replaced =>
    intro name entry other hother
    obtain ⟨-, rfl⟩ := generateAll_eq_ok_iff.mp hother
    rw [← Batch.of_without, ← Batch.of_without, Assoc.filter_put]

/-! ## Entries of classes -/

/-- **Batches of entries of classes.** A manifest of entries of classes that pass the tests has a
batch exactly when the metadata of every well-formed entry is named by texts. And then the batch
gives for each entry what it gives alone. -/
theorem batch_accounts (options : Options) (manifest : Manifest)
    (hnames : (Assoc.keys manifest).Nodup) (hclasses : ∀ p ∈ manifest, p.2.IsOfClass) :
    ((∃ batch, generateAll options manifest = .ok batch) ↔
      ∀ p ∈ manifest, p.2.check = .ok () → p.2.IsNamed) ∧
    ∀ batch, generateAll options manifest = .ok batch → batch.Accounts options manifest := by
  refine ⟨⟨?_, fun hnamed => ?_⟩, fun batch => accounts_of_ok hnames⟩
  · rintro ⟨batch, hbatch⟩ p hp hcheck
    by_cases hnamed : p.2.IsNamed
    · exact hnamed
    · have hends := ((hclasses p hp).nameless_iff p.1 options).mpr ⟨hcheck, hnamed⟩
      exact absurd hends ((generateAll_eq_ok_iff.mp hbatch).1 p hp)
  · refine ⟨_, generateAll_eq_ok_iff.mpr ⟨fun p hp hends => ?_, rfl⟩⟩
    obtain ⟨hcheck, hnot⟩ := ((hclasses p hp).nameless_iff p.1 options).mp hends
    exact hnot (hnamed p hp hcheck)

/-- The entry of the class of `suit`. -/
def suitEntry : Entry where
  name := "Suit"
  qualifiedName := "app.Suit"
  backing := some .string
  cases :=
    [{ key := "Hearts", value := .text "H", label := .text "Hearts", data := [], extra := [] },
     { key := "Nothing", value := .null, label := .text "Nothing", data := [], extra := [] }]
  choices := [⟨.text "H", "Hearts"⟩, ⟨.text "Nothing", "Nothing"⟩]

theorem suitEntry_isOfClass : suitEntry.IsOfClass :=
  ⟨[], suit, suitClass, [], .class suitClass, {}, {}, .null, none, suit_built, rfl, rfl⟩

theorem suitEntry_isNamed : suitEntry.IsNamed where
  data := by simp [suitEntry]
  extra := by simp [suitEntry]

theorem batch_accounts_suit : ∃ batch, generateAll {} [("Suit", suitEntry)] = .ok batch ∧
    batch.Accounts {} [("Suit", suitEntry)] := by
  have hclasses : ∀ p ∈ [("Suit", suitEntry)], p.2.IsOfClass := by
    intro p hp
    rw [List.mem_singleton.mp hp]
    exact suitEntry_isOfClass
  obtain ⟨hexists, haccounts⟩ := batch_accounts {} [("Suit", suitEntry)] (by decide) hclasses
  obtain ⟨batch, hbatch⟩ := hexists.mpr fun p hp _ => by
    rw [List.mem_singleton.mp hp]
    exact suitEntry_isNamed
  exact ⟨batch, hbatch, haccounts batch hbatch⟩

/-- A declaration with metadata under a number. -/
def dial : ClassDecl where
  name := "Dial"
  qualifiedName := "Dial"
  module := "app"
  bases := [.marker, .enumeration]
  members := [("One", .given (.int 1))]
  notes := [[("One", .one (.data [(.int 1, .text "first")]))]]

/-- The class of that declaration. -/
def dialClass : ClassDef where
  name := "Dial"
  qualifiedName := "Dial"
  module := "app"
  line := [{ self := .declared "Dial" }, { self := .marker }, { self := .enumeration },
    { self := .object }]
  table := { names := [("One", ⟨"One", .int 1⟩)], listed := [⟨"One", .int 1⟩] }
  notes := [("One", { data := some [(.int 1, .text "first")] })]
  keepsValues := false

theorem dial_notes : ClassDef.notesOf dial true dialClass.table = .ok dialClass.notes := by
  have hunknown : ((Assoc.keys [("One", AnnotationSpec.one (.data [(.int 1, .text "first")]))]).filter
      fun n => !(Assoc.has n dialClass.table.names)) = [] := rfl
  have hannotate : ClassDef.notesOf dial true dialClass.table =
      (ClassDef.annotate "Dial" dialClass.table []
        [("One", .one (.data [(.int 1, .text "first")]))] >>= fun n => .ok n) := rfl
  rw [hannotate, ClassDef.annotate, hunknown, List.mergeSort_nil]
  rfl

/-- The class with the notes that are read for it. -/
def dialWith : Except AnnotationFault (List (String × CaseNotes)) → Except ClassFault ClassDef
  | .ok notes => .ok { dialClass with notes := notes }
  | .error e => .error (.notes e)

theorem dial_built : ClassDef.ofDeclOver [] dial = .ok dialClass := by
  have hbuild : ClassDef.ofDeclOver [] dial =
      dialWith (ClassDef.notesOf dial true dialClass.table) := rfl
  rw [hbuild, dial_notes, dialWith]

/-- Its entry. -/
def dialEntry : Entry where
  name := "Dial"
  qualifiedName := "app.Dial"
  backing := none
  cases := [{ key := "One", value := .null, label := .text "One"
              data := [(.int 1, .text "first")], extra := [] }]
  choices := [⟨.text "One", "One"⟩]

theorem dialEntry_isOfClass : dialEntry.IsOfClass :=
  ⟨[], dial, dialClass, [], .class dialClass, {}, {}, .null, none, dial_built, rfl, rfl⟩

/-- The entry with metadata under a number leaves the other one without its module. -/
theorem no_batch_with_dial : suitEntry.IsOfClass ∧ dialEntry.IsOfClass ∧
    (∃ text, generate "Suit" suitEntry {} = .ok text) ∧
    ∀ batch, generateAll {} [("Suit", suitEntry), ("Dial", dialEntry)] ≠ .ok batch := by
  refine ⟨suitEntry_isOfClass, dialEntry_isOfClass, ⟨_, rfl⟩, fun batch hbatch => ?_⟩
  obtain ⟨hnone, -⟩ := generateAll_eq_ok_iff.mp hbatch
  exact hnone ("Dial", dialEntry) (by simp) ⟨"int", rfl⟩

end EnumExport.Script
