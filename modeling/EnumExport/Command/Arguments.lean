/-!
# Arguments of a command line

Options begin with a dash. An option that takes a value finds it behind an equals sign (long names),
in the rest of its own argument (short names) or in the next argument, whatever that looks like.
Behind two dashes alone there are no options.
-/

namespace EnumExport.Command

/-- An option. -/
structure OptionSpec where
  /-- what it sets -/
  key : String
  /-- its long name, with its dashes -/
  long : String
  /-- its short name, without a dash -/
  short : Option Char := none
  /-- what it sets its key to; nothing when it takes a value -/
  flag : Option String := none
  deriving Repr

/-- What is read of a row of arguments. -/
structure Reading where
  /-- what the options set, in order -/
  settings : List (String × String) := []
  /-- the other arguments -/
  others : List String := []
  /-- what the next argument is the value of -/
  pending : Option String := none
  /-- whether there are no more options -/
  isOver : Bool := false
  deriving Repr

namespace Reading

/-- Sets a key. -/
def set (r : Reading) (key value : String) : Reading :=
  { r with settings := r.settings ++ [(key, value)], pending := none }

/-- Reads an option given by its long name, perhaps with its value. -/
def readLong (r : Reading) (spec : OptionSpec) (value : Option String) : Option Reading :=
  match spec.flag, value with
  | some v, none => some (r.set spec.key v)
  | some _, some _ => none
  | none, some v => some (r.set spec.key v)
  | none, none => some { r with pending := some spec.key }

/-- Reads options given by their short names, one after the other. -/
def readShort (specs : List OptionSpec) (r : Reading) : List Char → Option Reading
  | [] => some r
  | c :: rest =>
    match specs.find? fun s => s.short == some c with
    | none => none
    | some spec =>
      match spec.flag with
      | some v => readShort specs (r.set spec.key v) rest
      | none =>
        if rest.isEmpty then some { r with pending := some spec.key }
        else some (r.set spec.key (String.ofList rest))

/-- Reads an argument that begins with a dash. -/
def readOption (specs : List OptionSpec) (r : Reading) (argument : String) : Option Reading :=
  let cs := argument.toList
  let name := String.ofList (cs.takeWhile (· ≠ '='))
  let value := match cs.dropWhile (· ≠ '=') with
    | '=' :: rest => some (String.ofList rest)
    | _ => none
  match specs.find? fun s => s.long == name with
  | some spec => r.readLong spec value
  | none => if argument.startsWith "--" then none else readShort specs r (cs.drop 1)

/-- Reads an argument. Where options and other arguments do not mix, the first other argument ends
the options. -/
def readArgument (specs : List OptionSpec) (mixed : Bool) (r : Reading) (argument : String) :
    Option Reading :=
  match r.pending with
  | some key => some (r.set key argument)
  | none =>
    if r.isOver then some { r with others := r.others ++ [argument] }
    else if argument = "--" then some { r with isOver := true }
    else if argument.startsWith "-" && argument.length > 1 then r.readOption specs argument
    else some { r with others := r.others ++ [argument], isOver := !mixed }

/-- Reads a row of arguments; nothing where an option is not known, or has a value where it takes
none or none where it takes one. -/
def ofArguments (specs : List OptionSpec) (mixed : Bool) (arguments : List String) :
    Option Reading := do
  let r ← arguments.foldlM (readArgument specs mixed) {}
  if r.pending.isSome then none else return r

/-- The last value of a key. -/
def value? (r : Reading) (key : String) : Option String :=
  (r.settings.reverse.find? fun s => s.1 == key).map Prod.snd

/-- All values of a key. -/
def values (r : Reading) (key : String) : List String :=
  (r.settings.filter fun s => s.1 == key).map Prod.snd

/-- Whether a key is set. -/
def has (r : Reading) (key : String) : Bool := (r.value? key).isSome

end Reading

end EnumExport.Command
