import EventFilter.Command.Arguments
import EventFilter.Event.Reader
import EventFilter.Filter

/-!
# The command

What the command prints for its arguments and what it is given to read, as one value: the lines of
its standard output, its log, and how it ends. For every event there is one line of output, a JSON
object with the value, the verdict or the error. An event whose evaluation fails is counted and the
next one follows; an event that cannot be read ends the run, and the lines before it stay.
-/

namespace EventFilter.Command

/-- The levels of log messages. -/
inductive LogLevel
  | debug
  | info
  | warn
  deriving DecidableEq, Inhabited

/-- The name of a level. -/
def LogLevel.name : LogLevel → String
  | .debug => "DEBUG"
  | .info => "INFO"
  | .warn => "WARN"

/-- A log message. -/
structure LogLine where
  level : LogLevel
  message : String
  deriving DecidableEq, Inhabited

/-- How a run of the command ends. -/
inductive Ending
  | done
  | fatal (message : String)
  | misused (e : UsageError)
  deriving DecidableEq, Inhabited

/-- The exit code that tells how a run ended. -/
def Ending.exitCode : Ending → Nat
  | .done => 0
  | .fatal _ => 1
  | .misused _ => 2

/-- **Everything that a run of the command leaves behind.** -/
structure Report where
  output : List String
  log : List LogLine
  ending : Ending
  deriving DecidableEq, Inhabited

/-- **The standard output of a run**: its lines, each with a line feed at its end. -/
def Report.standardOutput (report : Report) : String :=
  String.join (report.output.map (· ++ "\n"))

/-- What the command can read: the standard input, and files by their names. -/
structure Inputs where
  stdin : ByteArray
  file : String → Option ByteArray

/-- The name and the version that the command answers with when it is asked. -/
def versionLine : String := "cesql 0.1.0"

/-- An evaluation error as a JSON object. -/
def errorJson (e : EvalError) : Json :=
  .ofMembers [("error", .ofMembers [
    ("kind", .string e.kind.name),
    ("message", .string e.message),
    ("start", .integer e.span.start),
    ("end", .integer e.span.stop),
    ("text", .string e.span.text)])]

/-- What the command prints for an event: the value of the filter, or its verdict. -/
def answerFor (filter : Filter) (onlyMatches : Bool) (event : Event) : Except EvalError Json :=
  let env := Environment.ofEvent event .builtins
  if onlyMatches then
    (filter.verdict env).map fun b => .ofMembers [("matches", .boolean b)]
  else
    (filter.evaluate env).map fun v => .ofMembers [("result", v.toJson)]

/-- **How far a run has come**: the lines that it has written, how many events it has evaluated, and
how many of them failed. -/
structure Progress where
  output : Array String
  evaluated : Nat
  failed : Nat
  deriving DecidableEq, Inhabited

namespace Progress

/-- Where a run begins. -/
def start : Progress := { output := #[], evaluated := 0, failed := 0 }

/-- **One more event.** -/
def step (filter : Filter) (onlyMatches : Bool) (p : Progress) (event : Event) : Progress :=
  match answerFor filter onlyMatches event with
  | .ok json => {
      output := p.output.push json.text
      evaluated := p.evaluated + 1
      failed := p.failed }
  | .error e => {
      output := p.output.push (errorJson e).text
      evaluated := p.evaluated + 1
      failed := p.failed + 1 }

/-- **The events up to the first error of reading**, and that error. -/
def through (filter : Filter) (onlyMatches : Bool) (p : Progress) :
    List (Except EventError Event) → Progress × Option EventError
  | [] => (p, none)
  | .error e :: _ => (p, some e)
  | .ok event :: rest => through filter onlyMatches (p.step filter onlyMatches event) rest

/-- The last log message of a run. -/
def summary (p : Progress) : LogLine :=
  if 0 < p.failed then ⟨.warn, s!"{p.failed} of {p.evaluated} event(s) failed to evaluate"⟩
  else ⟨.info, s!"Evaluated {p.evaluated} event(s)"⟩

end Progress

/-- The events that the command reads, with the messages that go with them, or the fatal error. -/
def eventsOf (args : Arguments) (inputs : Inputs) :
    Except String (List LogLine × List (Except EventError Event)) :=
  match args.event with
  | none => .ok ([], Event.ofLines (Event.linesOfBytes inputs.stdin))
  | some path =>
    match Event.listOfFile (inputs.file path) with
    | .error _ => .error s!"Failed to load events from {path}"
    | .ok events =>
      .ok ([⟨.debug, s!"Loaded {events.length} event(s) from {path}"⟩], events.map .ok)

/-- The messages that are shown: those for debugging only if they are wanted. -/
def shown (debug : Bool) (log : List LogLine) : List LogLine :=
  log.filter fun line => debug || line.level ≠ .debug

/-- **The report of a run** that evaluates an expression on events. -/
def evaluate (args : Arguments) (inputs : Inputs) : Report :=
  match Filter.compile .builtins args.expression with
  | .error _ => {
      output := []
      log := []
      ending := .fatal ("Failed to parse expression `" ++ args.expression ++ "`") }
  | .ok filter =>
    let compiled : LogLine := ⟨.debug, "Compiled filter `" ++ args.expression ++ "`"⟩
    match eventsOf args inputs with
    | .error message =>
      { output := [], log := shown args.debug [compiled], ending := .fatal message }
    | .ok (loaded, outcomes) =>
      let log := compiled :: loaded
      match Progress.start.through filter args.onlyMatches outcomes with
      | (progress, some _) => {
          output := progress.output.toList
          log := shown args.debug log
          ending := .fatal "Failed to read event" }
      | (progress, none) => {
          output := progress.output.toList
          log := shown args.debug (log ++ [progress.summary])
          ending := .done }

/-- How the command is used. -/
def usage : List String := [
  "Usage: cesql [OPTIONS] --expression <EXPRESSION>",
  "",
  "Options:",
  "  -e, --expression <EXPRESSION>  the filter expression",
  "      --event <EVENT>            a file with an object, an array or an object on each line",
  "  -m, --matches                  print whether each event matches",
  "  -d, --debug                    log more",
  "  -h, --help                     print this text",
  "  -V, --version                  print the version"]

/-- **The report of the command** for its arguments. -/
def run (args : List String) (inputs : Inputs) : Report :=
  match Request.ofArguments args with
  | .error e => { output := [], log := [], ending := .misused e }
  | .ok .help => { output := usage, log := [], ending := .done }
  | .ok .version => { output := [versionLine], log := [], ending := .done }
  | .ok (.evaluate args) => evaluate args inputs

end EventFilter.Command
