/-!
# Arguments of the command

The command takes options only. A long option begins with two dashes and may carry its value behind
an equals sign; short options begin with one dash and may be written together, the last of them with
its value attached. A value that stands alone may not look like an option. No option may be given
twice, and the expression has to be given. Asking for help or for the version ends the reading of
the arguments, but not before an error that stands further left.
-/

namespace EventFilter.Command

/-- The options of the command. -/
inductive Switch
  | expression
  | event
  | onlyMatches
  | debug
  | help
  | version
  deriving DecidableEq, Inhabited

/-- The long name of an option. -/
def Switch.name : Switch → String
  | .expression => "expression"
  | .event => "event"
  | .onlyMatches => "matches"
  | .debug => "debug"
  | .help => "help"
  | .version => "version"

/-- The short name of an option. -/
def Switch.letter? : Switch → Option Char
  | .expression => some 'e'
  | .event => none
  | .onlyMatches => some 'm'
  | .debug => some 'd'
  | .help => some 'h'
  | .version => some 'V'

/-- Whether an option has a value. -/
def Switch.takesValue : Switch → Bool
  | .expression | .event => true
  | .onlyMatches | .debug | .help | .version => false

/-- All options. -/
def Switch.all : List Switch := [.expression, .event, .onlyMatches, .debug, .help, .version]

/-- What the command is told to do: evaluate an expression on events, which come from a file or from
the standard input, printing the value or only whether it is true. -/
structure Arguments where
  expression : String
  event : Option String
  onlyMatches : Bool
  debug : Bool
  deriving DecidableEq, Inhabited

/-- What the arguments ask for. -/
inductive Request
  | evaluate (args : Arguments)
  | help
  | version
  deriving DecidableEq, Inhabited

/-- What is wrong with the arguments. -/
inductive UsageError
  | unexpected (arg : String)
  | repeated (s : Switch)
  | missingValue (s : Switch)
  | unexpectedValue (s : Switch)
  | missing (s : Switch)
  deriving DecidableEq, Inhabited

/-- What a usage error says. -/
def UsageError.message : UsageError → String
  | .unexpected arg => s!"unexpected argument '{arg}'"
  | .repeated s => s!"the option --{s.name} is given twice"
  | .missingValue s => s!"the option --{s.name} needs a value"
  | .unexpectedValue s => s!"the option --{s.name} takes no value"
  | .missing s => s!"the option --{s.name} has to be given"

/-- The options read so far, with their values. -/
abbrev Given := List (Switch × String)

/-- What reading an argument comes to: going on with more options, or an answer at once. -/
inductive Step
  | next (given : Given)
  | answer (request : Request)

/-- One more option without a value. -/
def Given.flag (given : Given) (s : Switch) : Except UsageError Step :=
  match s with
  | .help => .ok (.answer .help)
  | .version => .ok (.answer .version)
  | s => if (given.lookup s).isSome then .error (.repeated s) else .ok (.next ((s, "") :: given))

/-- One more option with a value. The name of a file cannot be empty. -/
def Given.value (given : Given) (s : Switch) (value : String) : Except UsageError Step :=
  if (given.lookup s).isSome then .error (.repeated s)
  else if s = .event ∧ value = "" then .error (.missingValue s)
  else .ok (.next ((s, value) :: given))

/-- The request that some options make. -/
def Given.finish (given : Given) : Except UsageError Request :=
  match given.lookup .expression with
  | none => .error (.missing .expression)
  | some expression => .ok <| .evaluate {
      expression
      event := given.lookup .event
      onlyMatches := (given.lookup .onlyMatches).isSome
      debug := (given.lookup .debug).isSome }

/-- What the options of one argument come to: a step, or an option that waits for its value. -/
inductive Found
  | step (s : Step)
  | waiting (given : Given) (s : Switch)

/-- The options of one argument that begins with a single dash. -/
def shorts (arg : String) (given : Given) : List Char → Except UsageError Found
  | [] => .ok (.step (.next given))
  | c :: cs =>
    match Switch.all.find? (·.letter? == some c) with
    | none => .error (.unexpected arg)
    | some s =>
      if s.takesValue then
        match cs with
        | [] => .ok (.waiting given s)
        | '=' :: value => (given.value s (String.ofList value)).map .step
        | value => (given.value s (String.ofList value)).map .step
      else
        match given.flag s with
        | .error e => .error e
        | .ok (.answer request) => .ok (.step (.answer request))
        | .ok (.next given) => shorts arg given cs

/-- The option of one argument that begins with two dashes, given what follows them. -/
def long (arg : String) (given : Given) (cs : List Char) : Except UsageError Found :=
  let name := String.ofList (cs.takeWhile (· != '='))
  let value? := (cs.dropWhile (· != '=')).tail?
  match Switch.all.find? (·.name == name) with
  | none => .error (.unexpected arg)
  | some s =>
    match s.takesValue, value? with
    | true, some value => (given.value s (String.ofList value)).map .step
    | true, none => .ok (.waiting given s)
    | false, some _ => .error (.unexpectedValue s)
    | false, none => (given.flag s).map .step

/-- Whether an argument can be the value of the option before it. -/
def isValue (arg : String) : Bool :=
  match arg.toList with
  | '-' :: _ :: _ => false
  | _ => true

/-- What one argument that is not a value comes to. -/
def argument (given : Given) (arg : String) : Except UsageError Found :=
  match arg.toList with
  | '-' :: '-' :: cs => long arg given cs
  | '-' :: c :: cs => shorts arg given (c :: cs)
  | _ => .error (.unexpected arg)

/-- The request that some more arguments make. -/
def readFrom (given : Given) : List String → Except UsageError Request
  | [] => given.finish
  | "--" :: [] => given.finish
  | "--" :: arg :: _ => .error (.unexpected arg)
  | arg :: args =>
    match argument given arg with
    | .error e => .error e
    | .ok (.step (.answer request)) => .ok request
    | .ok (.step (.next given)) => readFrom given args
    | .ok (.waiting given s) =>
      match args with
      | [] => .error (.missingValue s)
      | value :: args =>
        if isValue value then
          match given.value s value with
          | .error e => .error e
          | .ok (.answer request) => .ok request
          | .ok (.next given) => readFrom given args
        else .error (.missingValue s)

/-- **The request that the arguments make.** -/
def Request.ofArguments (args : List String) : Except UsageError Request := readFrom [] args

end EventFilter.Command
