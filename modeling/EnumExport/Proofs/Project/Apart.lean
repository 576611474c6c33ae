import EnumExport.Proofs.Project.Locales

/-!
# Exports that do not disturb each other

Where exports for several locales have ended well, each of them had what it needs of the tree at the
start, `canExport_of_run`. So each result is that of an export alone, in whatever order they come:
`exportAll_apart`. Some ways in which one export can disturb another are left: `locales_disturb`.
-/

namespace EnumExport.Project

variable {p : Project} {base : Path} {types : Option Bool} {t s u : FileTree}
  {locales : List String}

/-! ## What a run tells -/

section Told

variable (hwf : t.WellFormed) (hreads : p.ReadsSteadily locales t)
  (hsegments : ∀ l ∈ locales, Path.IsSegment l)
  (hnames : ∀ l ∈ locales, ∀ name ∈ Assoc.keys (p.builtFor (localeRequest types l) t).manifest,
    '/' ∉ name.toList)
include hwf hreads hsegments hnames

/-- Where exports have ended well, each of them had what it needs. -/
theorem canExport_of_run {ls : List String} {results : List ExportResult} (hls : ls ⊆ locales)
    (hgrown : FileTree.Grown (p.Puts locales) t s)
    (hrun : p.exportLocales base types ls s = .ok results u)
    (hunread : ∀ q, t.at? q = none → u.at? q = some .folder → p.Puts locales q .folder) :
    ∀ l ∈ ls, p.CanExport base types t locales l := by
  induction ls generalizing s results with
  | nil =>
    intro l hl
    cases hl
  | cons l ls ih =>
    obtain ⟨hl, hrest⟩ := List.cons_subset.mp hls
    have hback := (hsegments l hl).back
    rw [exportLocales] at hrun
    obtain ⟨result, s', hone, hrun⟩ := OnDisk.bind_ok hrun
    obtain ⟨more, s'', hmore, hdone⟩ := OnDisk.bind_ok hrun
    cases hdone
    obtain ⟨hbatch, hway, hfree, -, rfl⟩ :=
      (exportTo_locale_iff hwf hreads hsegments hnames hgrown hl).mp hone
    have hmade : ∀ q ∈ p.localeFolders base types t l,
        (s.addFolders (p.localeFolders base types t l)).at? q = some .folder :=
      fun q hq => FileTree.at?_addFolders_of_mem hway hq
    have hcan : p.CanExport base types t locales l := by
      refine ⟨hbatch, ?way, ?free, ?apart, ?unread⟩
      case way =>
        -- a file that was in the way at the start still is
        intro q hq content hfile
        obtain ⟨c, hc⟩ := hgrown.file hfile
        exact hway q hq c hc
      case free =>
        intro f hf hfolder
        refine hfree f hf ?_
        rw [FileTree.at?_addFolders, hgrown.keepsFolders _ hfolder]
        rfl
      case apart => exact fun f hf hmem => hfree f hf (hmade _ hmem)
      case unread =>
        intro q hq hnone
        have hnofile : q ∉ (p.localeWrites base types t l).map Prod.fst := by
          intro hmem
          obtain ⟨f, hf, rfl⟩ := List.mem_map.mp hmem
          exact hfree f hf (hmade _ hq)
        -- a folder that this export makes is still there at the end of the run
        refine hunread q hnone (exportLocales_keeps p base types ls _ _ _ hmore q ?_)
        rw [at?_localeLeft hback, lastAt_eq_none hnofile, ← FileTree.at?_addFolders]
        exact hmade q hq
    have hnext : FileTree.Grown (p.Puts locales) t (p.localeLeft base types t s l) := by
      refine hgrown.trans (grown_localeLeft (hgrown.wellFormed hwf) hback hway hfree ?_ ?_)
      · exact fun q hq hnone => hcan.unread q hq (hgrown.none_of_none hnone)
      · intro f hf
        obtain ⟨⟨name, hplace⟩, -⟩ := mem_localeWrites hback hf
        exact ⟨_, name, hplace⟩
    intro k hk
    rcases List.mem_cons.mp hk with rfl | hk
    · exact hcan
    · exact ih hrest hnext hmore k hk

end Told

/-! ## Exports for all of some locales -/

theorem exportAll_eq_ok_iff {path : String} {result : LocalesResult} (hsome : locales ≠ []) :
    p.exportAll locales path types t = .ok result u ↔
      ∃ results, p.exportLocales (p.outputFor path) types locales t = .ok results u ∧
        result = { base := p.outputFor path, results } := by
  have hempty : locales.isEmpty = false := by simpa using hsome
  have hrun : p.exportAll locales path types t =
      (p.exportLocales (p.outputFor path) types
        (if locales.isEmpty then p.locales t else locales) >>=
          fun results => pure { base := p.outputFor path, results }) t := rfl
  rw [hrun, hempty]
  simp only [Bool.false_eq_true, if_false]
  constructor
  · intro h
    obtain ⟨results, s, hresults, hdone⟩ := OnDisk.bind_ok h
    cases hdone
    exact ⟨results, hresults, rfl⟩
  · rintro ⟨results, hresults, rfl⟩
    simp only [bind, EStateM.bind, hresults]
    rfl

/-- Where each of the exports has what it needs, they end well, and no folder is made where a
language file is looked for. -/
theorem exportAll_of_canExport {path : String} (hwf : t.WellFormed) (hsome : locales ≠ [])
    (hsegments : ∀ l ∈ locales, Path.IsSegment l) (hreads : p.ReadsSteadily locales t)
    (hnames : ∀ l ∈ locales, ∀ name ∈ Assoc.keys (p.builtFor (localeRequest types l) t).manifest,
      '/' ∉ name.toList)
    (hcan : ∀ l ∈ locales, p.CanExport (p.outputFor path) types t locales l) :
    ∃ result u, p.exportAll locales path types t = .ok result u ∧
      ∀ place, t.at? place = none → u.at? place = some .folder →
        ∀ l ∈ locales ++ p.settings.output.locales, ¬ Wording.LooksAt p.langFolder l place := by
  obtain ⟨hrun, hgrown⟩ :=
    exportLocales_of_canExport hwf hreads hsegments hnames hcan (List.Subset.refl _) .same
  refine ⟨_, _, (exportAll_eq_ok_iff hsome).mpr ⟨_, hrun, rfl⟩, fun place hnone hfolder => ?_⟩
  -- what has come is what the exports bring
  rcases hgrown.at?_cases place with heq | ⟨n, hn, ⟨hputs, -⟩, -⟩
  · rw [heq, hnone] at hfolder
    cases hfolder
  · rw [hfolder] at hn
    cases hn
    exact hputs

theorem at?_emptyHome {q : Place} {n : FileNode} (h : emptyHome.at? q = some n) :
    n = .folder ∧ (q = [] ∨ q = ["home"]) := by
  rw [FileTree.at?] at h
  split at h
  · next hroot => exact ⟨(Option.some.inj h).symm, .inl (List.isEmpty_iff.mp hroot)⟩
  · rw [emptyHome, Assoc.get?] at h
    split at h
    · next heq => exact ⟨(Option.some.inj h).symm, .inr (by simpa using Eq.symm (eq_of_beq heq))⟩
    · cases h

theorem emptyHome_wellFormed : emptyHome.WellFormed :=
  FileTree.wellFormed_of_nodes (by decide) (by decide)

section Suit

variable {l : String} (hl : l ∈ ["en", "fr"])
include hl

theorem suit_entry_locale : (((single suitClass).registry emptyHome).entryOf
    ((single suitClass).localeFor (localeRequest none l)) ("app." ++ suitClass.qualifiedName)
      suitClass).2 = .ok Script.suitEntry := by
  rcases List.mem_pair.mp hl with rfl | rfl <;> rfl

theorem suit_segment : Path.IsSegment l := by
  rcases List.mem_pair.mp hl with rfl | rfl <;> decide

theorem suit_reads : Wording.LooksSteadily emptyHome (single suitClass).langFolder l := by
  rcases List.mem_pair.mp hl with rfl | rfl <;>
    exact ⟨FileTree.steady_of_forward (by decide +kernel),
      FileTree.steady_of_forward (by decide +kernel)⟩

/-- The texts of the locale are looked for in the folder of language files. -/
theorem suit_looksAt {q : Place} (h : Wording.LooksAt (single suitClass).langFolder l q) :
    q[1]? = some "lang" := by
  rcases List.mem_pair.mp hl with rfl | rfl <;>
  · rcases h with rfl | ⟨name, -, rfl⟩ <;> rfl

theorem suit_hasBatch : (single suitClass).HasBatch (localeRequest none l) emptyHome := by
  obtain ⟨text, htext⟩ : ∃ text, Script.generate suitClass.name Script.suitEntry
      ((single suitClass).optionsFor (localeRequest none l)) = .ok text := by
    rcases List.mem_pair.mp hl with rfl | rfl <;> exact ⟨_, rfl⟩
  have hbatch := generateAll_single (by decide) rfl (suit_entry_locale hl) htext
  rw [HasBatch, batchFor, hbatch]

/-- Into another folder than that of the language files, the class can be exported. -/
theorem suit_canExport : (single suitClass).CanExport { parts := ["home", "out"] } none emptyHome
    ["en", "fr"] l := by
  have hback := (suit_segment hl).back
  refine ⟨suit_hasBatch hl, ?way, ?free, ?apart, ?unread⟩
  case way =>
    intro q _ content hfile
    cases (at?_emptyHome hfile).1
  case free =>
    intro f hf hfolder
    obtain ⟨⟨name, hplace⟩, -⟩ := mem_localeWrites hback hf
    rcases (at?_emptyHome hfolder).2 with hroot | hhome
    · rw [hplace] at hroot
      simp at hroot
    · rw [hplace] at hhome
      exact absurd (congrArg List.length hhome) (by simp [Path.place, Path.placeFrom, Path.step])
  case apart =>
    intro f hf hfolder
    obtain ⟨⟨name, hplace⟩, -⟩ := mem_localeWrites hback hf
    rcases mem_localeFolders hback hfolder with hbase | hown
    · have hlength : ∀ q ∈ ({ parts := ["home", "out"] } : Path).places, q.length < 4 := by decide
      have hshort := hlength f.1 hbase
      rw [hplace] at hshort
      exact absurd hshort (by simp [Path.place, Path.placeFrom, Path.step])
    · rw [hplace] at hown
      exact absurd (congrArg List.length hown) (by simp)
  case unread =>
    intro q hq _ k hk hlooks
    have hlang := suit_looksAt (by simpa [single] using hk) hlooks
    rcases mem_localeFolders hback hq with hbase | rfl
    · have hsecond : ∀ q ∈ ({ parts := ["home", "out"] } : Path).places,
          q[1]? ≠ some "lang" := by decide
      exact hsecond q hbase hlang
    · have hout : (({ parts := ["home", "out"] } : Path).place ++ [l])[1]? = some "out" := rfl
      rw [hout] at hlang
      exact absurd hlang (by decide)

end Suit

/-- The project of a class, with its language files in some folder. -/
def singleWith (c : ClassDef) (langPath : String) : Project :=
  { single c with settings := { (single c).settings with langPath } }

section Single

variable {c : ClassDef} {langPath : String} {request : ExportRequest}

theorem candidates_singleWith (c : ClassDef) (langPath : String) (t : FileTree) :
    ((singleWith c langPath).registry t).candidates = [.named ("app." ++ c.qualifiedName)] :=
  candidates_single c t

variable (hdot : '.' ∉ c.qualifiedName.toList)
  (hcheck : Modules.checkClass ("app." ++ c.qualifiedName) c = .ok c)
include hdot hcheck

theorem builtFor_singleWith {entry : Entry}
    (hentry : (((singleWith c langPath).registry t).entryOf
      ((singleWith c langPath).localeFor request) ("app." ++ c.qualifiedName) c).2 = .ok entry) :
    ((singleWith c langPath).builtFor request t).manifest = [(c.name, entry)] ∧
      ((singleWith c langPath).builtFor request t).errors = [] :=
  Registry.build_of_single (candidates_singleWith c langPath t)
    ((validate_single hdot).trans hcheck) hentry

theorem builtFor_singleWith_fault {fault : EntryFault}
    (hentry : (((singleWith c langPath).registry t).entryOf
      ((singleWith c langPath).localeFor request) ("app." ++ c.qualifiedName) c).2 =
        .error fault) :
    ((singleWith c langPath).builtFor request t).manifest = [] ∧
      ((singleWith c langPath).builtFor request t).errors =
        [("app." ++ c.qualifiedName, .noEntry c.name fault)] :=
  Registry.build_of_single_fault (candidates_singleWith c langPath t)
    ((validate_single hdot).trans hcheck) hentry

variable {output : Path}

/-- A single class that has a module is written. -/
theorem exportTo_singleWith {entry : Entry} {text : String}
    (hentry : (((singleWith c langPath).registry t).entryOf
      ((singleWith c langPath).localeFor request) ("app." ++ c.qualifiedName) c).2 = .ok entry)
    (htext : Script.generate c.name entry ((singleWith c langPath).optionsFor request) = .ok text) :
    (singleWith c langPath).exportTo output request t =
      (singleWith c langPath).writeBatch output request t ⟨[(c.name, text)], []⟩ t := by
  have hbatch : Script.generateAll ((singleWith c langPath).optionsFor request)
      [(c.name, entry)] = .ok ⟨[(c.name, text)], []⟩ := by simp [Script.generateAll, htext]
  rw [exportTo_eq, (builtFor_singleWith hdot hcheck hentry).1, hbatch]
  rfl

/-- A single class that has no entry is reported. -/
theorem exportTo_singleWith_fault {fault : EntryFault}
    (hentry : (((singleWith c langPath).registry t).entryOf
      ((singleWith c langPath).localeFor request) ("app." ++ c.qualifiedName) c).2 =
        .error fault) :
    ∃ result, (singleWith c langPath).exportTo output request t = .ok result t ∧
      result.errors ≠ [] := by
  obtain ⟨hmanifest, herrors⟩ := builtFor_singleWith_fault hdot hcheck hentry
  have hbatch : Script.generateAll ((singleWith c langPath).optionsFor request) [] =
      .ok ⟨[], []⟩ := rfl
  rw [exportTo_eq, hmanifest, hbatch]
  refine ⟨_, rfl, ?_⟩
  rw [resultFor, herrors]
  exact List.cons_ne_nil _ _

end Single

/-- Of two exports that both end well, for different locales, the second one does not do what it
does alone. -/
def SecondDiffers (p : Project) (t : FileTree) (path a b : String) : Prop :=
  t.WellFormed ∧ a ≠ b ∧ Path.IsSegment a ∧ Path.IsSegment b ∧ ∃ r r' u,
    p.exportAll [a, b] path none t = .ok { base := p.outputFor path, results := [r, r'] } u ∧
      ∀ v, p.exportTo ((p.outputFor path).join b) (localeRequest none b) t ≠ .ok r' v

theorem exportAll_pair {path a b : String} {r r' : ExportResult}
    (h : p.exportTo ((p.outputFor path).join a) (localeRequest none a) t = .ok r s)
    (h' : p.exportTo ((p.outputFor path).join b) (localeRequest none b) s = .ok r' u) :
    p.exportAll [a, b] path none t = .ok { base := p.outputFor path, results := [r, r'] } u := by
  refine (exportAll_eq_ok_iff (List.cons_ne_nil _ _)).mpr ⟨_, ?_, rfl⟩
  have hrun : p.exportLocales (p.outputFor path) none [a, b] t =
      (p.exportTo ((p.outputFor path).join a) (localeRequest none a) >>= fun r =>
        (p.exportTo ((p.outputFor path).join b) (localeRequest none b) >>= fun r' =>
          pure [] >>= fun more => pure (r' :: more)) >>= fun more => pure (r :: more)) t := rfl
  rw [hrun]
  simp only [bind, EStateM.bind, h, h']
  rfl

/-- A label that cannot be looked up any more makes the difference. -/
theorem secondDiffers_of_fault {langPath path a b text : String} {entry : Entry}
    {fault : EntryFault} {r : ExportResult} (hwf : t.WellFormed) (hne : a ≠ b)
    (ha : Path.IsSegment a) (hb : Path.IsSegment b)
    (hfirst : (singleWith suitClass langPath).exportTo
      (((singleWith suitClass langPath).outputFor path).join a) (localeRequest none a) t = .ok r s)
    (hbefore : (((singleWith suitClass langPath).registry t).entryOf
      ((singleWith suitClass langPath).localeFor (localeRequest none b))
        ("app." ++ suitClass.qualifiedName) suitClass).2 = .ok entry)
    (htext : Script.generate suitClass.name entry
      ((singleWith suitClass langPath).optionsFor (localeRequest none b)) = .ok text)
    (hafter : (((singleWith suitClass langPath).registry s).entryOf
      ((singleWith suitClass langPath).localeFor (localeRequest none b))
        ("app." ++ suitClass.qualifiedName) suitClass).2 = .error fault) :
    SecondDiffers (singleWith suitClass langPath) t path a b := by
  obtain ⟨r', hsecond, herrors⟩ := exportTo_singleWith_fault (by decide) rfl hafter
  refine ⟨hwf, hne, ha, hb, r, r', s, exportAll_pair hfirst hsecond, fun v halone => herrors ?_⟩
  -- alone there is no error to tell
  rw [exportTo_singleWith (by decide) rfl hbefore htext] at halone
  obtain ⟨-, -, -, -, -, -, -, rfl⟩ := writeBatch_ok (by simp; decide) halone
  obtain ⟨hmanifest, hnone⟩ := @builtFor_singleWith t suitClass langPath (localeRequest none b)
    (by decide) rfl entry hbefore
  simp only [resultFor, hmanifest, hnone]
  rfl

/-- The files of a module of `suit` in a folder. -/
def suitWrites (output : Path) (text : String) : List (Place × List UInt8) :=
  batchWrites output.place .shared ⟨[("Suit", text)], []⟩

/-- In a tree of folders, the class can be written where none of them is in its place. -/
theorem fits_suit {output : Path} (text : String) (hfolders : ∀ n ∈ t.nodes, n.2 = .folder)
    (hfree : ∀ name ∈ ["Suit.ts", "EnumRuntime.ts"],
      (t.addFolders output.places).at? (output.place ++ [name]) ≠ some .folder) :
    Fits t output (suitWrites output text) := by
  refine ⟨fun q _ content hfile => ?_, fun f hf => ?_⟩
  · rw [FileTree.at?] at hfile
    split at hfile
    · cases hfile
    · obtain ⟨n, hn, -, hcontent⟩ := Assoc.mem_of_get? hfile
      rw [hfolders n hn] at hcontent
      cases hcontent
  · rcases List.mem_append.mp hf with hf | hf
    · rcases List.mem_singleton.mp hf with rfl
      exact hfree "Suit.ts" (by simp)
    · rcases List.mem_singleton.mp hf with rfl
      exact hfree "EnumRuntime.ts" (by simp)

/-- Where nothing stands in the way, the class is written. -/
theorem exportTo_suit {langPath l text : String} {output : Path}
    (hentry : (((singleWith suitClass langPath).registry t).entryOf
      ((singleWith suitClass langPath).localeFor (localeRequest none l))
        ("app." ++ suitClass.qualifiedName) suitClass).2 = .ok Script.suitEntry)
    (htext : Script.generate suitClass.name Script.suitEntry
      ((singleWith suitClass langPath).optionsFor (localeRequest none l)) = .ok text)
    (hfits : Fits t output (suitWrites output text)) :
    ∃ r, (singleWith suitClass langPath).exportTo output (localeRequest none l) t =
      .ok r (withFiles t output (suitWrites output text)) := by
  rw [exportTo_singleWith (by decide) rfl hentry htext]
  exact ⟨_, writeBatch_of_fits (by simp; decide) hfits⟩

/-- An export into the folder of language files makes a folder with the name of one. -/
theorem suit_differs_by_folder :
    SecondDiffers (singleWith suitClass "lang") emptyHome "lang" "fr.yaml" "fr" := by
  obtain ⟨text, htext⟩ : ∃ text, Script.generate suitClass.name Script.suitEntry
    ((singleWith suitClass "lang").optionsFor (localeRequest none "fr.yaml")) = .ok text := ⟨_, rfl⟩
  obtain ⟨text', htext'⟩ : ∃ text, Script.generate suitClass.name Script.suitEntry
    ((singleWith suitClass "lang").optionsFor (localeRequest none "fr")) = .ok text := ⟨_, rfl⟩
  obtain ⟨r, hr⟩ := @exportTo_suit emptyHome "lang" "fr.yaml" text
    { parts := ["home", "lang", "fr.yaml"] } rfl htext (fits_suit text (by decide) (by decide))
  exact secondDiffers_of_fault emptyHome_wellFormed (by decide) (by decide) (by decide) hr rfl
    htext' rfl

/-- A folder with a folder of language files, where a folder has the name of one. -/
def homeWithLang : FileTree where
  nodes := [(["home"], .folder), (["home", "lang"], .folder),
    (["home", "lang", "fr.yaml"], .folder)]

/-- An export makes the folder that the path to the language files leads out of. -/
theorem suit_differs_by_path :
    SecondDiffers (singleWith suitClass "out/en/../../lang") homeWithLang "out" "en" "fr" := by
  obtain ⟨text, htext⟩ : ∃ text, Script.generate suitClass.name Script.suitEntry
    ((singleWith suitClass "out/en/../../lang").optionsFor (localeRequest none "en")) = .ok text :=
      ⟨_, rfl⟩
  obtain ⟨text', htext'⟩ : ∃ text, Script.generate suitClass.name Script.suitEntry
    ((singleWith suitClass "out/en/../../lang").optionsFor (localeRequest none "fr")) = .ok text :=
      ⟨_, rfl⟩
  obtain ⟨r, hr⟩ := @exportTo_suit homeWithLang "out/en/../../lang" "en" text
    { parts := ["home", "out", "en"] } rfl htext (fits_suit text (by decide) (by decide))
  exact secondDiffers_of_fault (FileTree.wellFormed_of_nodes (by decide) (by decide)) (by decide)
    (by decide) (by decide) hr rfl htext' rfl

/-- A declaration with a name that leads out of the folder of its locale. -/
def wanderer : ClassDecl := { suit with name := "../en/Suit" }

/-- The class of that declaration. -/
def wandererClass : ClassDef :=
  { suitClass with
    name := "../en/Suit"
    line := { self := .declared "../en/Suit" } :: suitClass.line.tail }

/-- Its entry. -/
def wandererEntry : Entry := { Script.suitEntry with name := "../en/Suit" }

theorem wanderer_built : ClassDef.ofDeclOver [] wanderer = .ok wandererClass := by
  have hbuild : ClassDef.ofDeclOver [] wanderer =
      (MemberTable.build false .part {}
        [("Hearts", .text "H"), ("Reds", .text "H"), ("Nothing", .null)] >>= fun t =>
          .ok { wandererClass with table := t }) := rfl
  rw [hbuild, suit_table]
  rfl

section Wanderer

variable {request : ExportRequest} {output : Path} {made : FileTree} {name text : String}
  {place : Place}

/-- A module is written wherever its name leads. -/
theorem writeBatch_one {file : Path} (hstrategy : p.strategyFor request = .shared)
    (hmade : s.makeFolders output = .ok made)
    (hlocate : made.locate (output.join (name ++ ".ts")) = .ok place)
    (hfree : made.at? place ≠ some .folder)
    (hhelper : writeHelper output (made.put place (.file (bytesOfText text))) = .ok file u) :
    ∃ r, p.writeBatch output request t ⟨[(name, text)], []⟩ s = .ok r u := by
  have hwrite : made.writeText (output.join (name ++ ".ts")) text =
    .ok (made.put place (.file (bytesOfText text))) := FileTree.write_of_locate hlocate hfree
  have hmodules : writeModules output [(name, text)] made =
      .ok [(name, output.join (name ++ ".ts"))] (made.put place (.file (bytesOfText text))) := by
    rw [writeModules]
    simp only [bind, EStateM.bind, OnDisk.change, hwrite]
    rfl
  unfold writeBatch
  simp only [bind, EStateM.bind, OnDisk.change, hmade, hmodules, hstrategy, hhelper]
  exact ⟨_, rfl⟩

/-- Where its name leads nowhere, no module is written. -/
theorem writeBatch_nowhere {e : FileFault} (hmade : s.makeFolders output = .ok made)
    (hlocate : made.locate (output.join (name ++ ".ts")) = .error e) (r : ExportResult)
    (u : FileTree) : p.writeBatch output request t ⟨[(name, text)], []⟩ s ≠ .ok r u := by
  intro h
  rw [writeBatch] at h
  obtain ⟨_, made', hmade', h⟩ := OnDisk.bind_ok h
  rw [OnDisk.change_ok hmade'] at hmade
  obtain rfl := Except.ok.inj hmade
  obtain ⟨files, s', hmodules, -⟩ := OnDisk.bind_ok h
  rw [writeModules] at hmodules
  obtain ⟨_, s'', hwrite, -⟩ := OnDisk.bind_ok hmodules
  obtain ⟨place, hplace, -⟩ := FileTree.write_ok (OnDisk.change_ok hwrite)
  rw [hlocate] at hplace
  cases hplace

end Wanderer

/-- The tree that the export for the first locale leaves. -/
def wandererHome (text : String) : FileTree where
  nodes := [(["home"], .folder), (["home", "out"], .folder), (["home", "out", "en"], .folder),
    (["home", "out", "en", "Suit.ts"], .file (bytesOfText text)),
    (["home", "out", "en", "EnumRuntime.ts"], .file (bytesOfText Script.helperText))]

section WandererRuns

variable {l : String} (hl : l ∈ ["en", "fr"])
include hl

theorem wanderer_text : ∃ text, Script.generate wandererClass.name wandererEntry
    ((singleWith wandererClass "lang").optionsFor (localeRequest none l)) = .ok text := by
  rcases List.mem_pair.mp hl with rfl | rfl <;> exact ⟨_, rfl⟩

theorem wanderer_entry : (((singleWith wandererClass "lang").registry emptyHome).entryOf
    ((singleWith wandererClass "lang").localeFor (localeRequest none l))
      ("app." ++ wandererClass.qualifiedName) wandererClass).2 = .ok wandererEntry := by
  rcases List.mem_pair.mp hl with rfl | rfl <;> rfl

end WandererRuns

/-- The first export writes into the folder that it has just made. -/
theorem wanderer_first : ∃ text r, (singleWith wandererClass "lang").exportTo
    { parts := ["home", "out", "en"] } (localeRequest none "en") emptyHome =
      .ok r (wandererHome text) := by
  obtain ⟨text, htext⟩ := wanderer_text (l := "en") (by simp)
  refine ⟨text, ?_⟩
  have hmade : emptyHome.makeFolders { parts := ["home", "out", "en"] } =
    .ok (emptyHome.addFolders [["home"], ["home", "out"], ["home", "out", "en"]]) := rfl
  have hhelper : writeHelper { parts := ["home", "out", "en"] }
      ((emptyHome.addFolders [["home"], ["home", "out"], ["home", "out", "en"]]).put
        ["home", "out", "en", "Suit.ts"] (.file (bytesOfText text))) =
      .ok { parts := ["home", "out", "en", "EnumRuntime.ts"] } (wandererHome text) :=
    @writeHelper_of_free _ _ ["home", "out", "en"] rfl rfl fun h => by cases h
  rw [exportTo_singleWith (by decide) rfl (wanderer_entry (by simp)) htext]
  exact writeBatch_one rfl hmade rfl (by decide) hhelper

/-- So does the second one. -/
theorem wanderer_second (text : String) : ∃ r u, (singleWith wandererClass "lang").exportTo
    { parts := ["home", "out", "fr"] } (localeRequest none "fr") (wandererHome text) =
      .ok r u := by
  obtain ⟨text', htext⟩ := wanderer_text (l := "fr") (by simp)
  have hentry : (((singleWith wandererClass "lang").registry (wandererHome text)).entryOf
      ((singleWith wandererClass "lang").localeFor (localeRequest none "fr"))
        ("app." ++ wandererClass.qualifiedName) wandererClass).2 = .ok wandererEntry := by
    have hcatalog : (singleWith wandererClass "lang").resolver.translator.catalog
        (wandererHome text) (.text "fr") =
      (singleWith wandererClass "lang").resolver.translator.catalog emptyHome (.text "fr") := rfl
    have hsame := @entry_congr emptyHome (wandererHome text)
      (singleWith wandererClass "lang").resolver (.text "fr") (by intro l hl; cases hl) hcatalog
      wandererClass (some ("app." ++ wandererClass.qualifiedName))
    have hbefore := wanderer_entry (l := "fr") (by simp)
    rw [Registry.entryOf, if_pos (show wandererClass.isMarked = true by decide)] at hbefore ⊢
    exact (congrArg Prod.snd hsame).trans hbefore
  have hmade : (wandererHome text).makeFolders { parts := ["home", "out", "fr"] } =
    .ok ((wandererHome text).addFolders [["home"], ["home", "out"], ["home", "out", "fr"]]) := rfl
  obtain ⟨u, hhelper⟩ : ∃ u, writeHelper { parts := ["home", "out", "fr"] }
      (((wandererHome text).addFolders [["home"], ["home", "out"], ["home", "out", "fr"]]).put
        ["home", "out", "en", "Suit.ts"] (.file (bytesOfText text'))) =
      .ok { parts := ["home", "out", "fr", "EnumRuntime.ts"] } u :=
    ⟨_, @writeHelper_of_free _ _ ["home", "out", "fr"] rfl rfl fun h => by cases h⟩
  rw [exportTo_singleWith (by decide) rfl hentry htext]
  obtain ⟨r, hr⟩ := @writeBatch_one (singleWith wandererClass "lang") (wandererHome text)
    (wandererHome text) u (localeRequest none "fr") { parts := ["home", "out", "fr"] } _
    "../en/Suit" text' ["home", "out", "en", "Suit.ts"] _ rfl hmade rfl (fun h => by cases h)
    hhelper
  exact ⟨r, u, hr⟩

/-- Alone it writes nothing: the name of the class leads into a folder that is not there. -/
theorem wanderer_alone (r : ExportResult) (u : FileTree) :
    (singleWith wandererClass "lang").exportTo { parts := ["home", "out", "fr"] }
      (localeRequest none "fr") emptyHome ≠ .ok r u := by
  obtain ⟨text, htext⟩ := wanderer_text (l := "fr") (by simp)
  rw [exportTo_singleWith (by decide) rfl (wanderer_entry (by simp)) htext]
  exact writeBatch_nowhere (e := .missing) rfl rfl r u

/-- An export makes the folder to which a name leads. -/
theorem wanderer_differs :
    SecondDiffers (singleWith wandererClass "lang") emptyHome "out" "en" "fr" := by
  obtain ⟨text, r, hfirst⟩ := wanderer_first
  obtain ⟨r', u, hsecond⟩ := wanderer_second text
  exact ⟨emptyHome_wellFormed, by decide, by decide, by decide, r, r', u,
    exportAll_pair hfirst hsecond, wanderer_alone r'⟩

end EnumExport.Project
