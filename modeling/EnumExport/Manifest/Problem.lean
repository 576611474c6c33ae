import EnumExport.Manifest.Structure

/-!
# Problems

A problem is what is told to others of something that went wrong: its kind, a message for people,
and the parts of the message as data. `Problem.toValue` is the map that it is passed on as.
-/

namespace EnumExport

/-- What is told of something that went wrong. -/
structure Problem where
  /-- the kind -/
  kind : String
  /-- the message -/
  message : String
  /-- what goes with it -/
  details : Value := .map []
  deriving Repr

namespace Problem

/-- The problem as a map. -/
def toValue (p : Problem) : Value :=
  .map [(.text "error_type", .text p.kind), (.text "message", .text p.message),
    (.text "details", p.details)]

/-- The problem of a kind with a message. Where nothing goes with it, that is an empty map. -/
def ofKind (kind message : String) (details : Value) : Problem where
  kind
  message
  details := if details.truthy then details else .map []

/-- What is told where the enumeration of a name cannot be written out. -/
def ofGeneration (name reason : String) : Problem where
  kind := "GenerationError"
  message := generationMessage name reason
  details := .map [(.text "enum", .text name), (.text "cause", .text reason)]

/-- What is told where settings do not allow what is asked for. -/
def ofSetting (message setting : String) : Problem where
  kind := "ConfigurationError"
  message
  details := .map [(.text "setting", .text setting)]

end Problem

end EnumExport
