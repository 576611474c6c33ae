import EnumExport.Command.Arguments

/-!
# Invocations

What a command line asks for: a command on the project in a directory. Spellings of formats and
strategies are only looked at when the command gets to them.
-/

namespace EnumExport.Command

/-- A command. -/
inductive Action
  /-- export the enumerations -/
  | exportOnce (path locale : Option String) (types : Option Bool) (strategy : Option String)
    (format : String)
  /-- export the enumerations for several locales -/
  | exportAll (locales : List String) (base : Option String) (types : Option Bool)
    (format : String)
  /-- list the enumerations that are discovered -/
  | discover (format : String)
  /-- test the candidates -/
  | validate (format : String)
  /-- start a project -/
  | init
  /-- check the settings and the language files -/
  | checkFiles (format : String)
  deriving DecidableEq, Repr

/-- A command with the directory that it works in. -/
structure Invocation where
  /-- the directory, as it is given -/
  directory : String
  /-- the command -/
  action : Action
  deriving DecidableEq, Repr

/-- What a command line asks for. -/
inductive Request
  /-- a command -/
  | invoke (i : Invocation)
  /-- help -/
  | help
  /-- nothing that is known -/
  | unknown
  deriving DecidableEq, Repr

/-- The option that asks for help. -/
def helpOption : OptionSpec := { key := "help", long := "--help", flag := some "" }

/-- The options before a command. -/
def globalOptions : List OptionSpec :=
  [helpOption, { key := "verbose", long := "--verbose", short := some 'v', flag := some "" }]

/-- The option for the directory. -/
def directoryOption : OptionSpec := { key := "directory", long := "--directory", short := some 'd' }

/-- The option for the format of the report. -/
def formatOption : OptionSpec := { key := "format", long := "--format", short := some 'f' }

/-- The options for whether types are exported. -/
def typesOptions : List OptionSpec :=
  [{ key := "types", long := "--types", flag := some "yes" },
    { key := "types", long := "--no-types", flag := some "no" }]

/-- The options of the export. -/
def exportOptions : List OptionSpec :=
  [helpOption, directoryOption, formatOption,
    { key := "path", long := "--path", short := some 'p' },
    { key := "locale", long := "--locale", short := some 'l' },
    { key := "strategy", long := "--strategy", short := some 's' }] ++ typesOptions

/-- The options of the export for several locales. -/
def exportAllOptions : List OptionSpec :=
  [helpOption, directoryOption, formatOption,
    { key := "locales", long := "--locales", short := some 'l' },
    { key := "base", long := "--base-path" }] ++ typesOptions

/-- The options of the commands that only report. -/
def reportOptions : List OptionSpec := [helpOption, directoryOption, formatOption]

/-- The format of the report. -/
def formatOf (r : Reading) : String := (r.value? "format").getD "text"

/-- Whether types are exported. -/
def typesOf (r : Reading) : Option Bool := (r.value? "types").map (· == "yes")

/-- What a command asks for, given its options and how it is made of them. -/
def Request.ofCommand (specs : List OptionSpec) (action : Reading → Action)
    (arguments : List String) : Request :=
  match Reading.ofArguments specs true arguments with
  | none => .unknown
  | some r =>
    if r.has "help" then .help
    else if !r.others.isEmpty then .unknown
    else .invoke { directory := (r.value? "directory").getD ".", action := action r }

/-- What the commands on the settings ask for. -/
def Request.ofConfig (arguments : List String) : Request :=
  match Reading.ofArguments [helpOption] false arguments with
  | none => .unknown
  | some r =>
    if r.has "help" then .help
    else match r.others with
      | "validate" :: rest => .ofCommand reportOptions (fun r => .checkFiles (formatOf r)) rest
      | _ => .unknown

/-- What a command line asks for. -/
def Request.ofArguments (arguments : List String) : Request :=
  match Reading.ofArguments globalOptions false arguments with
  | none => .unknown
  | some r =>
    if r.has "help" then .help
    else match r.others with
      | "export" :: rest =>
        .ofCommand exportOptions (fun r => .exportOnce (r.value? "path") (r.value? "locale")
          (typesOf r) (r.value? "strategy") (formatOf r)) rest
      | "export-all-locales" :: rest =>
        .ofCommand exportAllOptions (fun r => .exportAll (r.values "locales") (r.value? "base")
          (typesOf r) (formatOf r)) rest
      | "discover" :: rest => .ofCommand reportOptions (fun r => .discover (formatOf r)) rest
      | "validate" :: rest => .ofCommand reportOptions (fun r => .validate (formatOf r)) rest
      | "init" :: rest => .ofCommand [helpOption, directoryOption] (fun _ => .init) rest
      | "config" :: rest => .ofConfig rest
      | _ => .unknown

end EnumExport.Command
