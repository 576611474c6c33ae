import EnumExport.Manifest.Structure
import EnumExport.Script.Item
import EnumExport.Script.Shape

/-!
# Types of a module

The type aliases that a module derives from the cases: those of its keys, values, metadata, entries
and choices.
-/

namespace EnumExport.Script

/-- How a field named by a value is written. Only texts name fields. A member that counts as a text
and is an identifier is written as it shows itself. -/
def fieldName (k : Value) : Except GenerateError String :=
  match k with
  | .text s => .ok (propertyName s)
  | k => match k.asText? with
    | some s => .ok (if Text.isIdentifier s && Text.isAscii s then k.display else textLiteral s)
    | none => .error (.nameless k.kindName)

/-- The field of a metadata key. -/
def metaField (p : Value × List TypeExpr) : Except GenerateError Field := do
  return { name := ← fieldName p.1, optional := false, alternatives := p.2.map TypeExpr.text }

/-- The field of an extra property, optional when some case lacks it. -/
def extraField (cases : List Case) (p : Value × List TypeExpr) : Except GenerateError Field := do
  return { name := ← fieldName p.1
           optional := !cases.all fun c => Assoc.has p.1 c.extra
           alternatives := p.2.map TypeExpr.text }

/-- What the metadata type stands for. -/
def metaBody (cases : List Case) : Except GenerateError TypeBody := do
  let types := metaTypes cases
  if types.isEmpty then return .union [TypeExpr.unknownRecord.text]
  else return .record (← types.mapM metaField)

/-- What the value type of an enumeration stands for. -/
def valueBody (name : String) (entry : Entry) : Except GenerateError TypeBody :=
  match entry.backing with
  | none => .ok (.union [name ++ "Key"])
  | some _ =>
    match valueAlternatives entry.cases with
    | .ok literals => .ok (.union (if literals.isEmpty then ["never"] else literals))
    | .error e => .error (.unwritable e)

/-- The fields of the entry type: the four of every case and the extra ones. -/
def entryFields (name : String) (entry : Entry) : Except GenerateError (List Field) := do
  let extra ← (extraTypes entry.cases).mapM (extraField entry.cases)
  return [⟨"key", false, [name ++ "Key"]⟩,
    ⟨"value", false, valueTypes entry.backing entry.cases⟩,
    ⟨"label", false, labelTypes entry.cases⟩,
    ⟨"meta", false, [name ++ "Meta"]⟩] ++ extra

/-- The alternatives of what a choice stands for: a choice without a value carries its key. -/
def choiceTypes (name : String) (entry : Entry) : List String :=
  if entry.backing.isSome && hasNullValue entry.cases then [name ++ "Value", name ++ "Key"]
  else [name ++ "Value"]

/-- The type aliases of a module. -/
def typeItems (name : String) (entry : Entry) (exported : Bool) :
    Except GenerateError (List Item) := do
  let value ← valueBody name entry
  let data ← metaBody entry.cases
  let fields ← entryFields name entry
  return [.typeAlias exported (name ++ "Key") (.union (keyAlternatives entry.cases)),
    .typeAlias exported (name ++ "Value") value, .blank,
    .typeAlias exported (name ++ "Meta") data, .blank,
    .typeAlias exported (name ++ "Entry") (.record fields), .blank,
    .typeAlias exported (name ++ "Option")
      (.record [⟨"value", false, choiceTypes name entry⟩, ⟨"label", false, ["string"]⟩]), .blank]

end EnumExport.Script
