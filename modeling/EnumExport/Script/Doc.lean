import EnumExport.Script.Types

/-!
# The comment of a module

The block comment above the exported object: examples of what can be asked of it, filled in with
the cases at hand. Every text of the entry passes through `commentText`.
-/

namespace EnumExport.Script

/-- The value as a literal inside a comment. -/
def literalComment (v : Value) : Except GenerateError String :=
  match literal v with
  | .ok s => .ok (commentText s)
  | .error e => .error (.unwritable e)

/-- The value as compact JSON inside a comment. -/
def jsonComment (v : Value) : Except GenerateError String :=
  match jsonText v with
  | .ok s => .ok (commentText s)
  | .error e => .error (.unwritable e)

/-- The lines about looking a case up by its value. -/
def lookupLines (name : String) (entry : Entry) : Except GenerateError (List String) :=
  if entry.backing.isSome then do
    let found ← (entry.cases.filter fun c => !(c.value matches .null)).mapM fun c => do
      return name ++ ".from(" ++ (← literalComment c.value) ++ ") // " ++ c.key ++ " entry"
    return ["", "// Lookup by value"] ++ found
  else .ok []

/-- The line about the values. -/
def valuesLine (name keys : String) (entry : Entry) : Except GenerateError String :=
  if entry.backing.isSome then do
    let values ← (presentValues entry.cases).mapM jsonComment
    return name ++ ".values() // [" ++ ", ".intercalate values ++ "] - excludes nulls"
  else .ok (name ++ ".values() // [" ++ keys ++ "] - same as keys for pure enums")

/-- The lines about testing values and keys, from the first case. -/
def guardLines (name : String) (entry : Entry) : Except GenerateError (List String) :=
  match entry.cases with
  | [] => .ok []
  | first :: _ => do
    let probe ← match entry.backing, first.value with
      | some _, .null => pure []
      | some _, v => do pure [name ++ ".isValid(" ++ (← literalComment v) ++ ") // true"]
      | none, _ => do
        pure [name ++ ".isValid(" ++ (← literalComment (.text first.key)) ++ ") // true"]
    return ["", "// Validation (type guards)"] ++ probe ++
      [name ++ ".hasKey(" ++ textLiteral first.key ++ ") // true"]

/-- The inner lines of the block comment. -/
def docLines (name : String) (entry : Entry) : Except GenerateError (List String) := do
  let access := entry.cases.map fun c =>
    name ++ "." ++ c.key ++ ".label // \"" ++ commentText c.label.shown ++ "\""
  let lookup ← lookupLines name entry
  let keys := ", ".intercalate (entry.cases.map fun c => "\"" ++ c.key ++ "\"")
  let values ← valuesLine name keys entry
  let guards ← guardLines name entry
  return [name ++ " enum generated from " ++ commentText entry.qualifiedName, "", "@example",
      "// Access enum entries"] ++ access ++ lookup ++
    ["", "// Core utilities", name ++ ".keys() // [" ++ keys ++ "]", values,
      name ++ ".options // [\x7b value, label \x7d, ...] - for dropdowns",
      name ++ ".labels() // [...]"] ++ guards

end EnumExport.Script
