import EnumExport.Proofs.Script.Fields
import EnumExport.Proofs.Script.OneLine

/-!
# Lines of the types

The types of the metadata and of the records have a line for each name that occurs among the fields
of the cases. This is about which lines these are.

* The types are collected in a map by going through the fields of all cases, one by one. Whatever has
  been collected before, a name carries the types of what stands under it, in order:
  `getD_collectNamed`, by induction on the fields. So what is collected is, name by name, what stands
  under the name: `collectNamed_eq`, and `fieldTypes_named` for fields that are named by texts.
* `metaBody_named` and `entryFields_named` say which fields the two types get, and `field_lines` says
  it line by line.
-/

namespace EnumExport

/-- The values that stand under a name among some fields. -/
def Value.under (s : String) (ps : List (Value × Value)) : List Value :=
  ps.filterMap fun p => if p.1.asText? = some s then some p.2 else none

namespace Assoc

variable {α β : Type} [BEq α] [LawfulBEq α]

/-- Where no key occurs twice, a map is told by its keys and their values. -/
theorem eq_map_keys {m : List (α × β)} (h : (keys m).Nodup) (default : β) :
    m = (keys m).map fun k => (k, (get? k m).getD default) := by
  have hpair : ∀ p ∈ m, (p.1, (get? p.1 m).getD default) = p := by
    intro p hp
    rw [(get?_eq_some_iff h).mpr hp]
    rfl
  rw [keys, List.map_map]
  exact (List.map_id m).symm.trans (List.map_congr_left fun p hp => (hpair p hp).symm)

theorem nodup_eraseDups (ks : List α) : ks.eraseDups.Nodup := by
  have hkeys : keys (ks.map fun k => (k, ())) = ks := by
    rw [keys, List.map_map]
    exact List.map_id ks
  rw [← hkeys, ← keys_ofList]
  exact nodup_keys_ofList _

end Assoc

namespace Script

/-- The types of the values that stand under a name in some bags of fields, each once, in the order
in which they first occur. -/
def typesUnder (s : String) (bags : List (List (Value × Value))) : List TypeExpr :=
  ((bags.flatMap (Value.under s)).map infer).eraseDups

/-- The line of a field with a name, a mark behind it, and the alternatives of its type. -/
def fieldLine (s mark : String) (types : List TypeExpr) : String :=
  "  readonly " ++ propertyName s ++ mark ++ ": " ++
    " | ".intercalate (types.map TypeExpr.text) ++ ";"

/-! ## What is collected -/

theorem getD_collectNamed (s : String) (qs : List (String × Value))
    (found : List (String × List TypeExpr)) :
    (Assoc.get? s (collectNamed qs found)).getD [] =
      (Assoc.get? s found).getD [] ++ (qs.filter fun q => q.1 == s).map fun q => infer q.2 := by
  induction qs generalizing found with
  | nil => simp [collectNamed]
  | cons q qs ih =>
    rw [collectNamed, List.foldl_cons, ← collectNamed, ih]
    by_cases hq : q.1 = s
    · subst hq
      simp [Assoc.get?_put_self]
    · simp [Assoc.get?_put_ne hq, hq]

/-- What is collected are the types of what stands under each name. -/
theorem collectNamed_eq (qs : List (String × Value)) :
    collectNamed qs [] = (qs.map Prod.fst).eraseDups.map fun s =>
      (s, (qs.filter fun q => q.1 == s).map fun q => infer q.2) := by
  have hkeys := keys_collectNamed qs
  have hnodup : (Assoc.keys (collectNamed qs [])).Nodup := by
    rw [hkeys]
    exact Assoc.nodup_eraseDups _
  rw [Assoc.eq_map_keys hnodup [], hkeys]
  refine List.map_congr_left fun s _ => ?_
  rw [getD_collectNamed]
  rfl

theorem under_spelled (s : String) (qs : List (String × Value)) :
    Value.under s (qs.map spelled) = (qs.filter fun q => q.1 == s).map Prod.snd := by
  induction qs with
  | nil => rfl
  | cons q qs ih =>
    rw [Value.under] at ih ⊢
    rw [List.map_cons, List.filterMap_cons, List.filter_cons, ih]
    by_cases hq : q.1 = s <;> simp [spelled, Value.asText?, hq]

/-- Where fields are named by texts, each name has the types of what stands under it. -/
theorem fieldTypes_named {bags : List (List (Value × Value))}
    (h : ∀ bag ∈ bags, ∀ p ∈ bag, ∃ s, p.1 = .text s) :
    fieldTypes bags = (bags.flatMap Value.names).eraseDups.map fun s =>
      (.text s, typesUnder s bags) := by
  have hflat : ∀ p ∈ bags.flatten, ∃ s, p.1 = .text s := by
    intro p hp
    obtain ⟨bag, hbag, hp⟩ := List.mem_flatten.mp hp
    exact h bag hbag p hp
  obtain ⟨qs, hqs, hnames⟩ := exists_spelled hflat
  have hall : Value.names bags.flatten = bags.flatMap Value.names := by
    rw [Value.names, List.filterMap_flatten, List.flatMap_def]
    rfl
  have hunder : ∀ s, (qs.filter fun q => q.1 == s).map Prod.snd = bags.flatMap (Value.under s) := by
    intro s
    rw [← under_spelled, ← hqs, Value.under, List.filterMap_flatten, List.flatMap_def]
    rfl
  have hcollect : collectTypes bags = (collectNamed qs []).map spelled := by
    rw [collectTypes, hqs]
    exact foldl_spelled qs []
  rw [fieldTypes, hcollect, collectNamed_eq, hnames, hall, List.map_map, List.map_map]
  refine List.map_congr_left fun s _ => ?_
  rw [typesUnder, ← hunder s, List.map_map]
  rfl

/-! ## Types that are told apart -/

theorem getLast?_text_array (t : TypeExpr) :
    (TypeExpr.array t).text.toList.getLast? = some ']' := by
  simp [TypeExpr.text]

/-- Types that are written the same are the same. -/
theorem text_injective : Function.Injective TypeExpr.text := by
  intro t
  induction t with
  | array t ih =>
    intro u heq
    have hlast := getLast?_text_array t
    rw [heq] at hlast
    cases u with
    | array u =>
      have hitem : t.text = u.text := by simpa [TypeExpr.text, String.ext_iff] using heq
      rw [ih hitem]
    | _ => simp [TypeExpr.text] at hlast
  | _ =>
    intro u heq
    cases u with
    | array u =>
      have hlast := getLast?_text_array u
      rw [← heq] at hlast
      simp [TypeExpr.text] at hlast
    | _ => first | rfl | exact absurd heq (by decide)

/-! ## Lines -/

section Lines

variable {entry : Entry} (hdata : ∀ c ∈ entry.cases, ∀ p ∈ c.data, ∃ s, p.1 = .text s)
  (hextra : ∀ c ∈ entry.cases, ∀ p ∈ c.extra, ∃ s, p.1 = .text s)

theorem has_text_iff {ps : List (Value × Value)} (h : ∀ p ∈ ps, ∃ s, p.1 = .text s) {s : String} :
    Assoc.has (.text s) ps = true ↔ s ∈ Value.names ps := by
  obtain ⟨qs, rfl, hnames⟩ := exists_spelled h
  have hget : Assoc.get? (.text s) (qs.map spelled) = Assoc.get? s qs :=
    Assoc.get?_map Value.same_text s qs
  rw [← hnames, Assoc.has, hget]
  exact Assoc.has_iff_mem_keys

/-- The fields that the record of every case has. -/
def coreTypes (name : String) (entry : Entry) : List Field :=
  [⟨"key", false, [name ++ "Key"]⟩, ⟨"value", false, valueTypes entry.backing entry.cases⟩,
    ⟨"label", false, labelTypes entry.cases⟩, ⟨"meta", false, [name ++ "Meta"]⟩]

/-- The field of a metadata key. -/
def dataField (entry : Entry) (s : String) : Field :=
  ⟨propertyName s, false, (typesUnder s (entry.cases.map Case.data)).map TypeExpr.text⟩

/-- The field of a further property. -/
def furtherField (entry : Entry) (s : String) : Field :=
  ⟨propertyName s, decide (∃ c ∈ entry.cases, s ∉ Value.names c.extra),
    (typesUnder s (entry.cases.map Case.extra)).map TypeExpr.text⟩

include hdata in
theorem metaBody_named : metaBody entry.cases =
    .ok (if entry.dataNames = [] then .union ["Record<string, unknown>"]
      else .record (entry.dataNames.map (dataField entry))) := by
  have htext : ∀ bag ∈ entry.cases.map Case.data, ∀ p ∈ bag, ∃ s, p.1 = .text s := by
    intro bag hbag
    obtain ⟨c, hc, rfl⟩ := List.mem_map.mp hbag
    exact hdata c hc
  have hnames : ((entry.cases.map Case.data).flatMap Value.names).eraseDups = entry.dataNames := by
    rw [List.flatMap_map]
    rfl
  have hfields : (entry.dataNames.map fun s =>
      (Value.text s, typesUnder s (entry.cases.map Case.data))).mapM metaField =
        .ok (entry.dataNames.map (dataField entry)) := by
    rw [List.mapM_map]
    exact mapM_eq_ok fun s _ => rfl
  rw [metaBody, metaTypes, fieldTypes_named htext, hnames, hfields]
  cases entry.dataNames <;> rfl

include hextra in
theorem entryFields_named (name : String) : entryFields name entry =
    .ok (coreTypes name entry ++ entry.extraNames.map (furtherField entry)) := by
  have htext : ∀ bag ∈ entry.cases.map Case.extra, ∀ p ∈ bag, ∃ s, p.1 = .text s := by
    intro bag hbag
    obtain ⟨c, hc, rfl⟩ := List.mem_map.mp hbag
    exact hextra c hc
  have hnames : ((entry.cases.map Case.extra).flatMap Value.names).eraseDups =
      entry.extraNames := by
    rw [List.flatMap_map]
    rfl
  have hfields : (entry.extraNames.map fun s =>
      (Value.text s, typesUnder s (entry.cases.map Case.extra))).mapM (extraField entry.cases) =
        .ok (entry.extraNames.map (furtherField entry)) := by
    rw [List.mapM_map]
    refine mapM_eq_ok fun s _ => ?_
    have hlacks : (!entry.cases.all fun c => Assoc.has (.text s) c.extra) =
        decide (∃ c ∈ entry.cases, s ∉ Value.names c.extra) := by
      rw [Bool.eq_iff_iff, decide_eq_true_iff, Bool.not_eq_true', List.all_eq_false]
      refine exists_congr fun c => and_congr_right fun hc => ?_
      rw [has_text_iff (hextra c hc)]
    rw [Function.comp_apply, extraField, hlacks]
    rfl
  rw [entryFields, extraTypes, fieldTypes_named htext, hnames, hfields]
  rfl

theorem line_dataField (s : String) : (dataField entry s).line =
    fieldLine s "" (typesUnder s (entry.cases.map Case.data)) := rfl

theorem line_furtherField (s : String) : (furtherField entry s).line =
    fieldLine s (if ∃ c ∈ entry.cases, s ∉ Value.names c.extra then "?" else "")
      (typesUnder s (entry.cases.map Case.extra)) := by
  rw [Field.line, furtherField, fieldLine, unionText]
  simp only [decide_eq_true_iff]

end Lines

theorem nodup_typesUnder (s : String) (bags : List (List (Value × Value))) :
    ((typesUnder s bags).map TypeExpr.text).Nodup :=
  List.pairwise_map.mpr ((Assoc.nodup_eraseDups _).imp fun hne heq => hne (text_injective heq))

theorem newline_not_mem_fieldLine (s : String) {mark : String} (hmark : '\n' ∉ mark.toList)
    (types : List TypeExpr) : '\n' ∉ (fieldLine s mark types).toList := by
  have hname := newline_not_mem_propertyName s
  have htypes : '\n' ∉ (" | ".intercalate (types.map TypeExpr.text)).toList := by
    refine newline_not_mem_intercalate (by decide) fun t ht => ?_
    obtain ⟨u, -, rfl⟩ := List.mem_map.mp ht
    exact newline_not_mem_typeExpr u
  simp only [fieldLine, String.toList_append, List.mem_append, not_or]
  exact ⟨⟨⟨⟨⟨by decide, hname⟩, hmark⟩, by decide⟩, htypes⟩, by decide⟩

/-- **Lines of the types.** Where the fields of the cases are named by texts, the type of the
metadata has one line for each key that occurs in a case, and the type of the records, behind the
lines of the core fields, one for each further property, both in the order in which the names first
occur. On the line of a name stand the types of the values that the cases have under it, in the order
in which they first occur and none twice; a further property is marked just where some case lacks
it. -/
theorem field_lines (name : String) (entry : Entry) (exported : Bool)
    (hdata : ∀ c ∈ entry.cases, ∀ p ∈ c.data, ∃ s, p.1 = .text s)
    (hextra : ∀ c ∈ entry.cases, ∀ p ∈ c.extra, ∃ s, p.1 = .text s) :
    ∃ data record : Item,
      typeItems name entry exported = (valueBody name entry).map (fun value =>
        [.typeAlias exported (name ++ "Key") (.union (keyAlternatives entry.cases)),
          .typeAlias exported (name ++ "Value") value, .blank, data, .blank, record, .blank,
          .typeAlias exported (name ++ "Option")
            (.record [⟨"value", false, choiceTypes name entry⟩, ⟨"label", false, ["string"]⟩]),
          .blank]) ∧
      data.lines = (if entry.dataNames = [] then
          [Item.opening exported
            ("type " ++ (name ++ "Meta") ++ " = " ++ unionText ["Record<string, unknown>"] ++ ";")]
        else Item.opening exported ("type " ++ (name ++ "Meta") ++ " = \x7b") ::
          (entry.dataNames.map fun s =>
            fieldLine s "" (typesUnder s (entry.cases.map Case.data))) ++ ["\x7d;"]) ∧
      record.lines = Item.opening exported ("type " ++ (name ++ "Entry") ++ " = \x7b") ::
        ((coreTypes name entry).map Field.line ++ entry.extraNames.map fun s =>
          fieldLine s (if ∃ c ∈ entry.cases, s ∉ Value.names c.extra then "?" else "")
            (typesUnder s (entry.cases.map Case.extra))) ++ ["\x7d;"] ∧
      (entry.dataNames.Nodup ∧
        ∀ s, s ∈ entry.dataNames ↔ ∃ c ∈ entry.cases, s ∈ Value.names c.data) ∧
      (entry.extraNames.Nodup ∧
        ∀ s, s ∈ entry.extraNames ↔ ∃ c ∈ entry.cases, s ∈ Value.names c.extra) ∧
      ∀ s bags, ((typesUnder s bags).map TypeExpr.text).Nodup ∧
        ∀ mark ∈ ["", "?"], '\n' ∉ (fieldLine s mark (typesUnder s bags)).toList := by
  refine ⟨.typeAlias exported (name ++ "Meta") (if entry.dataNames = []
      then .union ["Record<string, unknown>"] else .record (entry.dataNames.map (dataField entry))),
    .typeAlias exported (name ++ "Entry")
      (.record (coreTypes name entry ++ entry.extraNames.map (furtherField entry))),
    ?_, ?_, ?_, ⟨Assoc.nodup_eraseDups _, fun s => ?_⟩, ⟨Assoc.nodup_eraseDups _, fun s => ?_⟩,
    fun s bags => ⟨nodup_typesUnder s bags, fun mark hmark => ?_⟩⟩
  · rw [typeItems, metaBody_named hdata, entryFields_named hextra]
    cases valueBody name entry <;> rfl
  · split
    · rfl
    · rw [Item.lines, List.map_map]
      simp only [Function.comp_def, line_dataField]
  · rw [Item.lines, List.map_append, List.map_map]
    simp only [Function.comp_def, line_furtherField]
  · rw [Entry.dataNames, List.mem_eraseDups, List.mem_flatMap]
  · rw [Entry.extraNames, List.mem_eraseDups, List.mem_flatMap]
  · refine newline_not_mem_fieldLine s ?_ _
    simp only [List.mem_cons, List.not_mem_nil, or_false] at hmark
    rcases hmark with rfl | rfl <;> decide

/-- Lamps whose first has no limit and no glow, and whose last has a null for a limit. -/
def lamp : Entry where
  name := "Lamp"
  qualifiedName := "app.Lamp"
  backing := none
  cases := [⟨"Hall", .null, .text "Hall", [(.text "hue", .text "red")], []⟩,
    ⟨"Desk", .null, .text "Desk", [(.text "max-limit", .int 10), (.text "hue", .int 3)],
      [(.text "glow", .bool true)]⟩,
    ⟨"Yard", .null, .text "Yard", [(.text "max-limit", .null), (.text "hue", .text "blue")],
      [(.text "dim", .list [.int 4]), (.text "glow", .bool false)]⟩]
  choices := []

/-- The lines of the lamps: the types in the order in which they occur, and a mark on what the first
lamp lacks. -/
theorem field_lines_lamp : ∃ items, typeItems "Lamp" lamp true = .ok items ∧
    ∃ data ∈ items, ∃ record ∈ items,
      data.lines = ["export type LampMeta = \x7b", "  readonly hue: string | number;",
        "  readonly 'max-limit': number | null;", "\x7d;"] ∧
      record.lines = ["export type LampEntry = \x7b", "  readonly key: LampKey;",
        "  readonly value: null;", "  readonly label: string;", "  readonly meta: LampMeta;",
        "  readonly glow?: boolean;", "  readonly dim?: number[];", "\x7d;"] := by
  obtain ⟨data, record, hitems, hdata, hrecord, -⟩ := field_lines "Lamp" lamp true
    (by intro c hc p hp; grind [lamp]) (by intro c hc p hp; grind [lamp])
  have hvalue : valueBody "Lamp" lamp = .ok (.union ["LampKey"]) := rfl
  rw [hvalue] at hitems
  refine ⟨_, hitems, data, by simp, record, by simp, ?_, ?_⟩
  · rw [hdata]
    decide +kernel
  · rw [hrecord]
    decide +kernel

end Script

end EnumExport
