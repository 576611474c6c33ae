import EnumExport.Manifest.Basic
import EnumExport.Value.Text

/-!
# Entries as data

`Entry.toValue` writes an entry as one nested value, in which the extra properties of a case follow
its four core fields. `LooseEntry.ofValue` reads such a value back; as nothing in the value is
bound to be a text, it yields an entry whose texts may be anything.
-/

namespace EnumExport

/-- A case whose texts may be any values. -/
structure LooseCase where
  /-- the name of the case -/
  key : Value
  /-- the scalar behind it, or null -/
  value : Value
  /-- its label -/
  label : Value
  /-- its metadata -/
  data : List (Value × Value)
  /-- its further properties -/
  extra : List (Value × Value)
  deriving Repr, Inhabited

/-- An entry whose texts may be any values. -/
structure LooseEntry where
  /-- its name -/
  name : Value
  /-- its name with the module it is declared in -/
  qualifiedName : Value
  /-- the scalar kind behind its cases, if they have one -/
  backing : Option BackingKind
  /-- its cases in order -/
  cases : List LooseCase
  /-- the pairs of its choice list in order: value and label -/
  choices : List (Value × Value)
  deriving Repr, Inhabited

/-- The names of the fields that every case has. -/
def coreFields : List String := ["key", "value", "label", "meta"]

/-- Whether a key is the name of a core field. -/
def isCoreField (k : Value) : Bool :=
  coreFields.any fun f => (Value.text f).same k

/-- The case with its texts forgotten to be texts. -/
def Case.loose (c : Case) : LooseCase :=
  { key := .text c.key, value := c.value, label := c.label.toValue, data := c.data
    extra := c.extra }

/-- The entry with its texts forgotten to be texts. -/
def Entry.loose (e : Entry) : LooseEntry :=
  { name := .text e.name, qualifiedName := .text e.qualifiedName, backing := e.backing
    cases := e.cases.map Case.loose
    choices := e.choices.map fun c => (c.value, .text c.label) }

/-- The fields of a case: the core ones, then the further ones that are not named like one of
those. -/
def LooseCase.fields (c : LooseCase) : List (Value × Value) :=
  c.extra.foldl (fun fields p => Assoc.putNew p.1 p.2 fields)
    [(.text "key", c.key), (.text "value", c.value), (.text "label", c.label),
     (.text "meta", .map c.data)]

/-- The fields of a pair of a choice list. -/
def choiceFields (c : Value × Value) : List (Value × Value) :=
  [(.text "value", c.1), (.text "label", c.2)]

/-- The kind as a data value. -/
def BackingKind.toValue : Option BackingKind → Value
  | none => .null
  | some k => .text k.text

/-- The entry as one nested value. -/
def LooseEntry.toValue (e : LooseEntry) : Value :=
  .map [(.text "name", e.name), (.text "fqcn", e.qualifiedName),
    (.text "backingType", BackingKind.toValue e.backing),
    (.text "entries", .list (e.cases.map fun c => .map c.fields)),
    (.text "options", .list (e.choices.map fun c => .map (choiceFields c)))]

/-- The fields of a case of an entry. -/
def Case.fields (c : Case) : List (Value × Value) := c.loose.fields

/-- The entry as one nested value. -/
def Entry.toValue (e : Entry) : Value := e.loose.toValue

/-- Why a value is not the data of an entry. -/
inductive Malformed
  /-- something that should be a map has no fields -/
  | notMap
  /-- something cannot be gone through, or its items cannot be asked for a field -/
  | notItems
  /-- a field is missing -/
  | missing (field : String)
  /-- an item that should be a pair has another number of parts -/
  | notPair (index length : Nat)
  /-- this is no spelling of a scalar kind -/
  | notBacking (v : Value)
  deriving Repr

/-- The message of the error, where it has one. -/
def Malformed.message? : Malformed → Option String
  | .notMap | .notItems => none
  | .missing field => some (Text.quoted field)
  | .notPair i n => some ("dictionary update sequence element #" ++ toString i ++ " has length " ++
      toString n ++ "; 2 is required")
  | .notBacking v => some (v.quoted ++ " is not a valid BackingKind")

/-- The value of a field that must be there, of something that may be no map. -/
def item (v : Value) (field : String) : Except Malformed Value :=
  match v with
  | .map ps =>
    match Value.field? field ps with
    | some x => .ok x
    | none => .error (.missing field)
  | _ => .error .notItems

/-- Pairs read from items that have two parts each. -/
def pairsOfItems (index : Nat) : List Value → Except Malformed (List (Value × Value))
  | [] => .ok []
  | x :: xs =>
    match x.items? with
    | none => .error .notItems
    | some [k, v] =>
      if (k.unhashable?).isSome then .error .notItems
      else do return (k, v) :: (← pairsOfItems (index + 1) xs)
    | some parts => .error (.notPair index parts.length)

/-- The pairs of a value that is a map or a row of pairs; nothing at all counts as no pairs. -/
def pairsOf (v : Option Value) : Except Malformed (List (Value × Value)) :=
  match v with
  | none => .ok []
  | some v =>
    if !v.truthy then .ok []
    else match v with
      | .map ps => .ok ps
      | v => match v.items? with
        | none => .error .notItems
        | some xs => (pairsOfItems 0 xs).map Assoc.ofList

/-- A case read from its data. -/
def LooseCase.ofValue (v : Value) : Except Malformed LooseCase := do
  let key ← item v "key"
  let fields := v.pairs?.getD []
  let label ← item v "label"
  let data ← pairsOf (Value.field? "meta" fields)
  return { key, value := (Value.field? "value" fields).getD .null, label, data
           extra := fields.filter fun p => !isCoreField p.1 }

/-- The items of a field that counts as empty when it is missing. -/
def itemsField (name : String) (fields : List (Value × Value)) : Except Malformed (List Value) :=
  match Value.field? name fields with
  | none => .ok []
  | some v => match v.items? with
    | some xs => .ok xs
    | none => .error .notItems

/-- A kind read from its spelling; what counts as false is no kind. -/
def BackingKind.ofData (v : Value) : Except Malformed (Option BackingKind) :=
  if !v.truthy then .ok none
  else match v.asText?.bind BackingKind.ofText? with
    | some k => .ok (some k)
    | none => .error (.notBacking v)

/-- An entry read from its data. -/
def LooseEntry.ofValue (v : Value) : Except Malformed LooseEntry :=
  match v with
  | .map fields => do
    let cases ← (← itemsField "entries" fields).mapM LooseCase.ofValue
    let choices ← (← itemsField "options" fields).mapM fun o => do
      let value ← item o "value"
      let label ← item o "label"
      return (value, label)
    let name ← item v "name"
    let backing ← BackingKind.ofData ((Value.field? "backingType" fields).getD .null)
    return { name, qualifiedName := (Value.field? "fqcn" fields).getD name, backing, cases
             choices }
  | _ => .error .notMap

end EnumExport
