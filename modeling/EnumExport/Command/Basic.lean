import EnumExport.Command.Invocation
import EnumExport.Report.Check
import EnumExport.Report.Export

/-!
# Commands

Runs a command line on the files of a disk. The outcome is the exit code with what was printed and
the files as they are left, whether the command came to its end or failed on the way.
-/

namespace EnumExport.Command

/-- Why a command fails. -/
inductive Fault
  /-- something cannot be done with the project -/
  | project (fault : ProjectFault)
  /-- the report cannot be printed -/
  | print (fault : PrintFault)
  /-- no format is spelled like this -/
  | noFormat (spelling : String)
  /-- no strategy is spelled like this -/
  | noStrategy (spelling : String)
  deriving Repr

/-- What is said of a fault in the spelling of an option. -/
def Fault.message? : Fault → Option String
  | .noFormat s => some (Text.quoted s ++ " is not a valid OutputFormat")
  | .noStrategy s => some (Text.quoted s ++ " is not a valid RuntimeStrategy")
  | _ => none

/-- What a command works on: the files and what it has printed. -/
structure State where
  /-- the files -/
  files : FileTree
  /-- what was printed -/
  output : String := ""
  deriving Repr

/-- A command that is running. It ends early by an exit code or a fault. -/
abbrev Running (α : Type) := EStateM (Nat ⊕ Fault) State α

/-- What became of a command. -/
structure Outcome where
  /-- the exit code -/
  code : Nat
  /-- why it failed, unless it ended by itself -/
  fault : Option Fault := none
  /-- what it printed -/
  output : String
  /-- the files as it leaves them -/
  files : FileTree
  deriving Repr

namespace Running

/-- Ends early with an exit code. -/
def exit {α : Type} (code : Nat) : Running α := throw (.inl code)

/-- Fails. -/
def fail {α : Type} (f : Fault) : Running α := throw (.inr f)

/-- Does something with a project. -/
def onDisk {α : Type} (x : OnDisk α) : Running α := fun s =>
  match x s.files with
  | .ok a t => .ok a { s with files := t }
  | .error e t => .error (.inr (.project e)) { s with files := t }

/-- Reads the files. -/
def reading {α : Type} (f : FileTree → Except ProjectFault α) : Running α :=
  onDisk (OnDisk.reading id f)

/-- Prints. -/
def printing (x : Printing Unit) : Running Unit := fun s =>
  match x s.output with
  | .ok () out => .ok () { s with output := out }
  | .error e out => .error (.inr (.print e)) { s with output := out }

/-- The format with a spelling. -/
def askedFormat (spelling : String) : Running ReportFormat :=
  match ReportFormat.ofName? spelling with
  | some f => return f
  | none => fail (.noFormat spelling)

/-- The strategy with a spelling; none is asked for by an empty one. -/
def askedStrategy (spelling : Option String) : Running (Option Script.Strategy) :=
  match spelling with
  | none | some "" => return none
  | some s => match Script.Strategy.ofText? s with
    | some x => return some x
    | none => fail (.noStrategy s)

end Running

open Running

/-- What commands may use. -/
structure Surroundings where
  /-- the directory that a relative one is seen from -/
  cwd : Path
  /-- the modules that can be imported -/
  modules : Modules := []
  /-- the variables -/
  environment : List (Value × Value) := []
  deriving Repr

variable (around : Surroundings)

/-- The project in a directory. Settings that are malformed end the command. -/
def projectIn (dir : Path) : Running Project := fun s =>
  match Project.load dir around.modules around.environment s.files with
  | .ok p t => .ok p { s with files := t }
  | .error (.settings (.load (.text .malformed))) t =>
    (do
      printing (Console.print
        (Report.styled "red" "Invalid .enumshare/config.yaml: malformed document"))
      exit 1) { s with files := t }
  | .error e t => .error (.inr (.project e)) { s with files := t }

/-- The project in a directory, with default settings where they are malformed. -/
def projectOrDefault (dir : Path) : Running Project := fun s =>
  match Project.load dir around.modules around.environment s.files with
  | .ok p t => .ok p { s with files := t }
  | .error (.settings (.load (.text .malformed))) t =>
    .ok { dir, modules := around.modules } { s with files := t }
  | .error e t => .error (.inr (.project e)) { s with files := t }

/-- Runs a command in a directory. -/
def perform (dir : Path) : Action → Running Unit
  | .exportOnce path locale types strategy format => do
    let p ← projectIn around dir
    let strategy ← askedStrategy strategy
    let r ← onDisk (p.exportEnums { path := path.getD "", locale, types, strategy })
    printing (r.report (← askedFormat format) dir)
  | .exportAll locales base types format => do
    let p ← projectIn around dir
    let r ← onDisk (p.exportAll locales (base.getD "") types)
    printing (r.report (← askedFormat format) dir)
  | .discover format => do
    let p ← projectIn around dir
    if !p.settings.discovery.enabled then
      printing (Console.print (Report.styled "red" Project.notDiscoveringMessage))
      exit 1
    let enums ← reading p.discover
    let r : FoundResult := { paths := p.discovery.paths, enums }
    printing (r.report (← askedFormat format) dir)
  | .validate format => do
    let p ← projectIn around dir
    let r ← reading fun t => .ok (p.validate t)
    printing (r.summary.report (← askedFormat format))
    if !r.report.ok then exit 1
  | .init => do
    let r ← onDisk (Project.start dir)
    printing (r.report dir)
    if !r.isNew then exit 1
  | .checkFiles format => do
    let p ← projectOrDefault around dir
    let r ← reading p.checkFiles
    printing (r.report (← askedFormat format) dir)
    if !r.ok then exit 1

/-- A few words of help. -/
def helpText : String := Text.join "\n" [
  "Usage: enumshare COMMAND [OPTIONS]",
  "",
  "Commands:",
  "  export              Export enums to TypeScript files.",
  "  export-all-locales  Export enums once per locale, each into its own directory.",
  "  discover            List the enums found by autodiscovery.",
  "  validate            Check every configured and discovered enum for export problems.",
  "  init                Initialize .enumshare/ with a default configuration.",
  "  config validate     Validate .enumshare/config.yaml and the translation files.",
  ""]

/-- Runs what is asked for. -/
def runRequest (files : FileTree) : Request → Outcome
  | .unknown => { code := 2, output := "", files }
  | .help => { code := 0, output := helpText, files }
  | .invoke i =>
    let dir := (around.cwd.join i.directory).normal
    match perform around dir i.action { files } with
    | .ok () s => { code := 0, output := s.output, files := s.files }
    | .error (.inl code) s => { code, output := s.output, files := s.files }
    | .error (.inr f) s => { code := 1, fault := some f, output := s.output, files := s.files }

/-- Runs a command line. -/
def run (arguments : List String) (files : FileTree) : Outcome :=
  runRequest around files (Request.ofArguments arguments)

end EnumExport.Command
