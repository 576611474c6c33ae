import EnumExport.Manifest.Record
import EnumExport.Text.Identifier
import EnumExport.Json.Basic

/-!
# Well-formed entries

An entry can be written out only when its cases do not collide: there is at least one, the keys are
distinct identifiers that keep clear of the names of the generated object, and no two values of one
kind are equal. `check` finds the first case that breaks a rule.
-/

namespace EnumExport

/-- The property names that every generated object has. -/
def reservedProperties : List String :=
  ["name", "fqcn", "backingType", "count", "entries", "options", "keys", "values", "labels",
   "from", "fromKey", "isValid", "hasKey"]

/-- Why an entry cannot be written out. -/
inductive Rejection
  /-- it has no cases -/
  | noCases
  /-- two cases have this key -/
  | duplicateKey (key : String)
  /-- this key is a name of the generated object -/
  | reservedKey (key : String)
  /-- this key is no identifier -/
  | notIdentifier (key : String)
  /-- two cases have this value -/
  | duplicateValue (value : Value)
  deriving Repr

/-- The reason in words. -/
def Rejection.reason : Rejection → String
  | .noCases => "enum has no cases"
  | .duplicateKey key => "duplicate case key '" ++ key ++ "'"
  | .reservedKey key => "case key '" ++ key ++ "' collides with the enum API"
  | .notIdentifier key => "case key '" ++ key ++ "' is not an identifier"
  | .duplicateValue v => "duplicate case value " ++ v.quoted

/-- What can go wrong while one enumeration is written out. -/
inductive GenerateError
  /-- the entry is not well formed -/
  | rejected (reason : Rejection)
  /-- a case value of this kind cannot be looked up -/
  | unhashable (kind : String)
  /-- a value has no JSON form -/
  | unwritable (reason : Json.Unwritable)
  /-- a property is named by something of this kind that is no text -/
  | nameless (kind : String)
  deriving Repr

/-- The reason in words. -/
def GenerateError.reason : GenerateError → String
  | .rejected r => r.reason
  | .unhashable kind => "unhashable type: '" ++ kind ++ "'"
  | .unwritable r => r.message
  | .nameless kind => "'" ++ kind ++ "' object has no attribute 'isidentifier'"

/-- The message of a failure to write out the enumeration of that name. -/
def generationMessage (name reason : String) : String :=
  "Failed to generate enum '" ++ name ++ "': " ++ reason

/-- Whether two values are of one kind. -/
def Value.sameKind : Value → Value → Bool
  | .member t _, .member u _ => t.owner == u.owner && t.data == u.data
  | .member _ _, _ | _, .member _ _ => false
  | v, w => v.kindName == w.kindName

/-- Whether two values are of one kind and equal, so that they cannot both be looked up. -/
def Value.collides (v w : Value) : Bool :=
  v.sameKind w && v.same w

/-- Checks the cases in order against the keys and values of those before. -/
def checkCases (keys : List String) (values : List Value) :
    List Case → Except GenerateError Unit
  | [] => .ok ()
  | c :: rest =>
    if keys.contains c.key then .error (.rejected (.duplicateKey c.key))
    else if reservedProperties.contains c.key then .error (.rejected (.reservedKey c.key))
    else if !Text.isIdentifier c.key then .error (.rejected (.notIdentifier c.key))
    else match c.value with
      | .null => checkCases (c.key :: keys) values rest
      | v => match v.unhashable? with
        | some kind => .error (.unhashable kind)
        | none =>
          if values.any fun w => v.collides w then .error (.rejected (.duplicateValue v))
          else checkCases (c.key :: keys) (v :: values) rest

/-- Checks that an entry can be written out. -/
def Entry.check (e : Entry) : Except GenerateError Unit :=
  if e.cases.isEmpty then .error (.rejected .noCases) else checkCases [] [] e.cases

end EnumExport
