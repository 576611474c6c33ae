import EnumExport.Manifest.Problem
import EnumExport.Script.Doc

/-!
# Generated modules

A module exposes one enumeration as a frozen object with its cases, collections and lookups. Either
the module builds the object itself (`inline`), or it holds the data and leaves the building to a
shared helper (`shared`).
-/

namespace EnumExport.Script

/-- How a module builds its object. -/
inductive Strategy
  /-- by itself -/
  | inline
  /-- with a helper that all modules share -/
  | shared
  deriving DecidableEq, Repr

/-- How a strategy is spelled. -/
def Strategy.text : Strategy → String
  | .inline => "inline"
  | .shared => "shared"

/-- The strategy with a spelling. -/
def Strategy.ofText? : String → Option Strategy
  | "inline" => some .inline
  | "shared" => some .shared
  | _ => none

/-- Where the shared helper is found unless said otherwise. -/
def defaultHelperSource : String := "./EnumRuntime"

/-- How a module is generated. -/
structure Options where
  /-- whether its types are exported -/
  exportTypes : Bool := false
  /-- how it builds its object -/
  strategy : Strategy := .inline
  /-- the locale that its head names -/
  locale : Option String := none
  /-- where the shared helper is found -/
  helperSource : String := defaultHelperSource
  deriving Repr

/-- The first line of every module. -/
def headLine : String := "This file is auto-generated. Do not edit manually."

/-- A value as an expression: a text by a single-quoted literal, the rest by JSON. -/
def literalExpr (v : Value) : Except GenerateError Expr :=
  match v.asText? with
  | some s => .ok (.text s)
  | none => match Json.ofValue v with
    | .ok j => .ok (.json j)
    | .error e => .error (.unwritable e)

/-- A value as an expression in JSON. -/
def jsonExpr (v : Value) : Except GenerateError Expr :=
  match Json.ofValue v with
  | .ok j => .ok (.json j)
  | .error e => .error (.unwritable e)

/-- A label as an expression. -/
def labelExpr : Label → Expr
  | .text s => .text s
  | .localized texts => .json (.object (texts.map fun p => (p.1, .text p.2)))

/-- The properties of a case. -/
def caseProperties (c : Case) : Except GenerateError (List Property) := do
  let value ← literalExpr c.value
  let data ← jsonExpr (.map c.data)
  let extra ← c.extra.mapM fun p => do
    let name ← fieldName p.1
    return (⟨name, ← jsonExpr p.2⟩ : Property)
  return [⟨"key", .text c.key⟩, ⟨"value", value⟩, ⟨"label", labelExpr c.label⟩,
    ⟨"meta", .frozen data⟩] ++ extra

/-- The properties of a choice. -/
def choiceProperties (c : Choice) : Except GenerateError (List Property) := do
  return [⟨"value", ← literalExpr c.value⟩, ⟨"label", .text c.label⟩]

/-- The constant that holds the cases. -/
def entryItems (name : String) (entry : Entry) : Except GenerateError (List Item) := do
  return [.records "ENTRIES" (← entry.cases.mapM caseProperties), .blank,
    .typeAlias false (name ++ "Record") (.union ["(typeof ENTRIES)[number]"]), .blank]

/-- The collections derived from the cases. -/
def collectionItems (name : String) (entry : Entry) : Except GenerateError (List Item) := do
  let values :=
    if entry.backing.isNone then "KEYS"
    else if hasNullValue entry.cases then
      "Object.freeze(ENTRIES.flatMap((e) => (e.value === null ? [] : [e.value])))"
    else "Object.freeze(ENTRIES.map((e) => e.value))"
  let labels : List Item :=
    if hasLocalizedLabel entry.cases then []
    else [.constant "LABELS" (some "readonly string[]")
      "Object.freeze(ENTRIES.map((e) => e.label))"]
  let rows ← entry.choices.mapM choiceProperties
  return [.comment "Derived collections",
      .constant "KEYS" (some ("readonly " ++ name ++ "Key[]"))
        "Object.freeze(ENTRIES.map((e) => e.key))",
      .constant "VALUES" (some ("readonly " ++ name ++ "Value[]")) values] ++ labels ++
    [.choices "OPTIONS" ("readonly " ++ name ++ "Option[]") rows, .blank]

/-- The maps for looking cases up. -/
def lookupItems (name : String) (entry : Entry) : List Item :=
  let record := name ++ "Record"
  let source :=
    if hasNullValue entry.cases then
      "ENTRIES.flatMap((e) => (e.value === null ? [] : [[e.value, e] as const]))"
    else "ENTRIES.map((e) => [e.value, e] as const)"
  let byValue : List Item :=
    if entry.backing.isSome then
      [.constant "BY_VALUE"
        (some ("ReadonlyMap<" ++ baseType entry.backing ++ ", " ++ record ++ ">"))
        ("new Map(" ++ source ++ ")")]
    else []
  [.comment "Precomputed lookup maps for O(1) access",
    .constant "BY_KEY" (some ("ReadonlyMap<string, " ++ record ++ ">"))
      "new Map(ENTRIES.map((e) => [e.key, e] as const))"] ++ byValue ++ [.blank]

/-- The function that picks a label by locale. -/
def labelItems : List Item :=
  [.comment "Locale-aware label resolution",
    .function "resolveLabel"
      ["function resolveLabel(label: string | Readonly<Record<string, string>>, " ++
          "locale?: string): string \x7b",
        "  if (typeof label === 'string') return label;",
        "  if (locale && label[locale]) return label[locale];",
        "  if (label.en) return label.en;",
        "  const firstKey = Object.keys(label)[0];",
        "  return firstKey !== undefined ? label[firstKey] : '';",
        "\x7d"],
    .blank]

/-- The lines of the object's head: its name, its kind and its cases. -/
def objectHead (name : String) (entry : Entry) : List String :=
  let backing := match entry.backing with
    | some k => textLiteral k.text ++ " as const"
    | none => "null"
  ["  name: " ++ textLiteral name ++ " as const,",
    "  fqcn: " ++ textLiteral entry.qualifiedName ++ " as const,",
    "  backingType: " ++ backing ++ ",",
    "  count: " ++ toString entry.cases.length ++ ",",
    "",
    "  // Entry constants"] ++
  entry.cases.zipIdx.flatMap (fun (c, i) =>
    ["  /** " ++ commentText c.label.shown ++ " */",
      "  " ++ c.key ++ ": ENTRIES[" ++ toString i ++ "],"]) ++
  [""]

/-- The lines of the object's collections. -/
def objectCollections (name : String) (entry : Entry) : List String :=
  ["  // Collections (derived from ENTRIES)",
    "  entries: ENTRIES,",
    "  options: OPTIONS,",
    "  keys(): readonly " ++ name ++ "Key[] \x7b",
    "    return KEYS;",
    "  \x7d,",
    "  values(): readonly " ++ name ++ "Value[] \x7b",
    "    return VALUES;",
    "  \x7d,"] ++
  (if hasLocalizedLabel entry.cases then
    ["  labels(locale?: string): readonly string[] \x7b",
      "    return Object.freeze(ENTRIES.map((e) => resolveLabel(e.label, locale)));"]
  else
    ["  labels(_locale?: string): readonly string[] \x7b",
      "    return LABELS;"]) ++
  ["  \x7d,", ""]

/-- The lines of the object's lookups and tests. -/
def objectLookups (name : String) (entry : Entry) : List String :=
  let record := name ++ "Record"
  let scalar := match entry.backing with
    | some .int => "number"
    | _ => "string"
  let lookup := if entry.backing.isSome then "BY_VALUE" else "BY_KEY"
  let guarded := if entry.backing.isSome then name ++ "Value" else name ++ "Key"
  ["  // Lookup methods",
    "  from(value: " ++ scalar ++ " | null | undefined): " ++ record ++ " | null \x7b",
    "    if (value == null) return null;",
    "    return " ++ lookup ++ ".get(value) ?? null;",
    "  \x7d,",
    "  fromKey(key: string | null | undefined): " ++ record ++ " | null \x7b",
    "    if (key == null) return null;",
    "    return BY_KEY.get(key) ?? null;",
    "  \x7d,",
    "",
    "  // Type guards",
    "  isValid(value: unknown): value is " ++ guarded ++ " \x7b",
    "    return typeof value === '" ++ scalar ++ "' && " ++ lookup ++ ".has(value);",
    "  \x7d,",
    "  hasKey(key: unknown): key is " ++ name ++ "Key \x7b",
    "    return typeof key === 'string' && BY_KEY.has(key);",
    "  \x7d,",
    "\x7d);"]

/-- The exported object with its comment. -/
def objectItems (name : String) (entry : Entry) : Except GenerateError (List Item) := do
  return [.docComment (← docLines name entry),
    .object name "Object.freeze(\x7b"
      (objectHead name entry ++ objectCollections name entry ++ objectLookups name entry),
    .blank]

/-- The body of a module that builds its object itself. -/
def inlineItems (name : String) (entry : Entry) : Except GenerateError (List Item) := do
  let entries ← entryItems name entry
  let collections ← collectionItems name entry
  let object ← objectItems name entry
  let labels := if hasLocalizedLabel entry.cases then labelItems else []
  return entries ++ collections ++ lookupItems name entry ++ labels ++ object

/-- The body of a module that leaves building its object to the shared helper. -/
def sharedItems (name : String) (entry : Entry) : Except GenerateError (List Item) := do
  let data ← match Json.ofValue entry.toValue with
    | .ok j => pure j
    | .error e => throw (GenerateError.unwritable e)
  return [.data "DATA" data, .blank, .docComment (← docLines name entry),
    .object name "buildEnum(DATA);" [], .blank]

/-- The head of a module. -/
def headItems (options : Options) : List Item :=
  [Item.comment headLine] ++
  (match options.locale with
    | some l => if l = "" then [] else [.comment ("Locale: " ++ l)]
    | none => []) ++
  (match options.strategy with
    | .shared => [.helperImport "buildEnum" options.helperSource]
    | .inline => []) ++
  [.blank]

/-- The module of an enumeration. -/
def moduleItems (name : String) (entry : Entry) (options : Options) :
    Except GenerateError (List Item) := do
  entry.check
  let types ← typeItems name entry options.exportTypes
  let body ← match options.strategy with
    | .inline => inlineItems name entry
    | .shared => sharedItems name entry
  return headItems options ++ types ++ body ++ [.defaultExport name]

/-- The text of the module of an enumeration. -/
def generate (name : String) (entry : Entry) (options : Options) : Except GenerateError String := do
  return render (← moduleItems name entry options)

/-- Why the module of an enumeration was not generated. -/
structure Failure where
  /-- the name the failure is reported under -/
  name : String
  /-- what went wrong -/
  error : GenerateError
  deriving Repr

/-- What is told of a failure. -/
def Failure.problem (f : Failure) : Problem := .ofGeneration f.name f.error.reason

/-- The message of a failure. -/
def Failure.message (f : Failure) : String := f.problem.message

/-- The outcome of generating the modules of a manifest. -/
structure Batch where
  /-- the texts, by name -/
  sources : List (String × String)
  /-- the failures, by name -/
  failures : List (String × Failure)
  deriving Repr

/-- The failure of an enumeration in a batch: an entry that is not well formed is reported under its
own name, anything else under its name in the manifest. -/
def failureOf (name : String) (entry : Entry) : GenerateError → Failure
  | .rejected r => ⟨entry.name, .rejected r⟩
  | e => ⟨name, e⟩

/-- Generates every module of a manifest; one that fails does not keep the others from being
generated. Only a property that is named by no text ends the whole batch. -/
def generateAll (options : Options) : Manifest → Except GenerateError Batch
  | [] => .ok ⟨[], []⟩
  | (name, entry) :: rest =>
    match generate name entry options with
    | .ok source => do
      let batch ← generateAll options rest
      return { batch with sources := (name, source) :: batch.sources }
    | .error (.nameless kind) => .error (.nameless kind)
    | .error e => do
      let batch ← generateAll options rest
      return { batch with failures := (name, failureOf name entry e) :: batch.failures }

end EnumExport.Script
