import EventFilter.Command
import EventFilter.Proofs.Event.RoundTrip
import EventFilter.Proofs.Filter
import EventFilter.Proofs.Text.Lines
import Mathlib.Data.List.Forall2

/-!
# The output of the command

A run of the command goes through the events up to the first that cannot be read, and after each of
them there is one more line of output, which is read back as what the filter came to on the event
(`IsLineFor`). The two counters of a run follow the lines: one counts them, and the other counts
those that tell an error (`Progress.AccountsFor`). With and without verdicts an event has the same
line if the filter fails to have a value.
Main statement: a run accounts for the events that it reads, in its output, its exit code and its
summary, and the two modes agree (`run_accounts`).
-/

namespace EventFilter.Command

/-! ### What a line tells -/

/-- What a filter fails with on an event, where it is to have a verdict, or else a value. -/
def Fails (filter : Filter) (event : Event) (e : EvalError) : Bool → Prop
  | true => filter.verdict (.ofEvent event .builtins) = .error e
  | false => filter.evaluate (.ofEvent event .builtins) = .error e

/-- **What an object tells** of a filter on an event, with verdicts or without. -/
inductive Tells (filter : Filter) (event : Event) : Bool → Json → Prop
  /-- the value of the filter -/
  | value {v} : filter.evaluate (.ofEvent event .builtins) = .ok v →
      Tells filter event false (.ofMembers [("result", v.toJson)])
  /-- its verdict -/
  | verdict {b} : filter.verdict (.ofEvent event .builtins) = .ok b →
      Tells filter event true (.ofMembers [("matches", .boolean b)])
  /-- the error, with its sort, its message, its place and the text there -/
  | failure {onlyMatches e} : Fails filter event e onlyMatches →
      Tells filter event onlyMatches (.ofMembers [("error", .ofMembers [
        ("kind", .string e.kind.name),
        ("message", .string e.message),
        ("start", .integer e.span.start),
        ("end", .integer e.span.stop),
        ("text", .string e.span.text)])])

/-- **A line for an event** has no control characters, and so no line breaks, and is read back as an
object that tells what the filter comes to. -/
structure IsLineFor (filter : Filter) (onlyMatches : Bool) (event : Event) (line : String) :
    Prop where
  noControl : ∀ c ∈ line.toList, 0x20 ≤ c.toNat
  readBack : ∃ json, Json.ofText? line = some json ∧ Tells filter event onlyMatches json

/-- Whether a line is an object that tells an error. -/
def tellsError (line : String) : Bool := ((Json.ofText? line).bind (Json.get? "error")).isSome

/-- The line that is written for an event. -/
def lineFor (filter : Filter) (onlyMatches : Bool) (event : Event) : String :=
  match answerFor filter onlyMatches event with
  | .ok json => json.text
  | .error e => (errorJson e).text

variable {filter : Filter} {onlyMatches : Bool} {event : Event} {events : List Event} {json : Json}
  {e : EvalError}

/-- An answer is an error where the filter fails. -/
theorem answerFor_eq_error_iff :
    answerFor filter onlyMatches event = .error e ↔ Fails filter event e onlyMatches := by
  cases onlyMatches <;> exact map_eq_error_iff

/-- An answer that is no error tells a value or a verdict. -/
theorem tells_of_answerFor (h : answerFor filter onlyMatches event = .ok json) :
    Tells filter event onlyMatches json ∧ Json.Plain Json.maxDepth json ∧
      json.get? "error" = none := by
  have hplain {key : String} {j : Json} (hj : Json.Plain 126 j) :
      Json.Plain Json.maxDepth (.ofMembers [(key, j)]) :=
    .ofMembers (List.forall_mem_singleton.mpr hj)
  cases onlyMatches with
  | true =>
    obtain ⟨b, hverdict, rfl⟩ := map_eq_ok_iff.mp h
    exact ⟨.verdict hverdict, hplain (.boolean b), rfl⟩
  | false =>
    obtain ⟨v, hvalue, rfl⟩ := map_eq_ok_iff.mp h
    exact ⟨.value hvalue, hplain (Event.plain_toJson_value 126 v), rfl⟩

/-! ### The offsets of errors -/

/-- **The offsets of the errors of a filter** fit in words of 64 bits, which is what is read back as
an integer. -/
def HasSmallOffsets (filter : Filter) : Prop :=
  ∀ event onlyMatches e, Fails filter event e onlyMatches →
    e.span.start < UInt64.size ∧ e.span.stop < UInt64.size

/-- A filter that was compiled from a text of fewer bytes has small offsets. -/
theorem hasSmallOffsets_of_compile {functions : Registry} {text : String}
    (hfilter : Filter.compile functions text = .ok filter)
    (hsize : text.utf8ByteSize < UInt64.size) : HasSmallOffsets filter := by
  intro event onlyMatches e h
  have hverdict : filter.verdict (.ofEvent event .builtins) = .error e := by
    cases onlyMatches with
    | true => exact h
    | false => exact Filter.verdict_eq_error h
  have hplace := Filter.start_lt_stop_and_stop_le_of_verdict hfilter hverdict
  omega

/-- An error with small offsets is written as a plain object. -/
theorem plain_errorJson (h : e.span.start < UInt64.size ∧ e.span.stop < UInt64.size) :
    Json.Plain Json.maxDepth (errorJson e) := by
  have hsize : UInt64.size = 18446744073709551616 := rfl
  have hinteger {n : Nat} (hn : n < UInt64.size) : Json.Plain 125 (.integer n) :=
    .integer (by omega) (by omega)
  refine .ofMembers (List.forall_mem_singleton.mpr (.ofMembers ?_))
  simp only [List.forall_mem_cons]
  exact ⟨.string _, .string _, hinteger h.1, hinteger h.2, .string _, nofun⟩

/-! ### The line for an event -/

/-- The text of a plain object is read back from a line without control characters. -/
theorem noControl_and_readBack {j : Json} (h : Json.Plain Json.maxDepth j) :
    (∀ c ∈ j.text.toList, 0x20 ≤ c.toNat) ∧ Json.ofText? j.text = some j := by
  refine ⟨fun c hc => ?_, Json.ofText?_text h⟩
  rw [Json.text, String.toList_ofList] at hc
  exact h.le_toNat_of_mem_render c hc

/-- The line of an answer is a line for the event and tells no error. -/
theorem isLineFor_of_ok (h : answerFor filter onlyMatches event = .ok json) :
    IsLineFor filter onlyMatches event json.text ∧ tellsError json.text = false := by
  obtain ⟨htells, hplain, hkey⟩ := tells_of_answerFor h
  obtain ⟨hcontrol, hread⟩ := noControl_and_readBack hplain
  refine ⟨⟨hcontrol, json, hread, htells⟩, ?_⟩
  rw [tellsError, hread, Option.bind_some, hkey]
  rfl

/-- The line of an error is a line for the event and tells an error. -/
theorem isLineFor_of_error (hfilter : HasSmallOffsets filter)
    (h : answerFor filter onlyMatches event = .error e) :
    IsLineFor filter onlyMatches event (errorJson e).text ∧
      tellsError (errorJson e).text = true := by
  have hfails := answerFor_eq_error_iff.mp h
  have hplain := plain_errorJson (hfilter event onlyMatches e hfails)
  obtain ⟨hcontrol, hread⟩ := noControl_and_readBack hplain
  refine ⟨⟨hcontrol, errorJson e, hread, .failure hfails⟩, ?_⟩
  rw [tellsError, hread]
  rfl

/-- The line of an answer. -/
theorem lineFor_of_ok (h : answerFor filter onlyMatches event = .ok json) :
    lineFor filter onlyMatches event = json.text := by
  rw [lineFor, h]

/-- The line of an error. -/
theorem lineFor_of_error (h : answerFor filter onlyMatches event = .error e) :
    lineFor filter onlyMatches event = (errorJson e).text := by
  rw [lineFor, h]

/-- **What is written for an event** is a line for it. -/
theorem isLineFor_lineFor (hfilter : HasSmallOffsets filter) (onlyMatches : Bool) (event : Event) :
    IsLineFor filter onlyMatches event (lineFor filter onlyMatches event) := by
  cases h : answerFor filter onlyMatches event with
  | ok json =>
    rw [lineFor_of_ok h]
    exact (isLineFor_of_ok h).1
  | error e =>
    rw [lineFor_of_error h]
    exact (isLineFor_of_error hfilter h).1

/-! ### Event after event -/

/-- **A run accounts for some events**: it has written a line for each of them, it has counted them,
and it has counted those whose lines tell an error. -/
structure Progress.AccountsFor (filter : Filter) (onlyMatches : Bool) (events : List Event)
    (p : Progress) : Prop where
  output_eq : p.output.toList = events.map (lineFor filter onlyMatches)
  evaluated_eq : p.evaluated = events.length
  failed_eq : p.failed = p.output.toList.countP tellsError

namespace Progress

variable {p : Progress}

/-- Where a run begins it accounts for no events. -/
theorem accountsFor_start : start.AccountsFor filter onlyMatches [] := ⟨rfl, rfl, rfl⟩

/-- **What a step does**: it writes a line and counts it, and once more if it tells an error. -/
theorem step_eq (hfilter : HasSmallOffsets filter) (p : Progress) (event : Event) :
    p.step filter onlyMatches event = {
      output := p.output.push (lineFor filter onlyMatches event)
      evaluated := p.evaluated + 1
      failed := p.failed + if tellsError (lineFor filter onlyMatches event) then 1 else 0 } := by
  cases h : answerFor filter onlyMatches event with
  | ok json =>
    rw [step, h, lineFor_of_ok h, (isLineFor_of_ok h).2]
    rfl
  | error e =>
    rw [step, h, lineFor_of_error h, (isLineFor_of_error hfilter h).2]
    rfl

/-- **A step accounts for one more event.** -/
theorem AccountsFor.step (h : p.AccountsFor filter onlyMatches events)
    (hfilter : HasSmallOffsets filter) (event : Event) :
    (p.step filter onlyMatches event).AccountsFor filter onlyMatches (events ++ [event]) := by
  rw [step_eq hfilter]
  refine ⟨?_, ?_, ?_⟩
  · rw [Array.toList_push, h.output_eq, List.map_append, List.map_singleton]
  · rw [h.evaluated_eq, List.length_append, List.length_singleton]
  · rw [h.failed_eq, Array.toList_push, List.countP_append, List.countP_singleton]

/-- **A run accounts for the events before the first error of reading**, and ends with that
error. -/
theorem AccountsFor.through {rest : List (Except EventError Event)} {before : List Event}
    (h : p.AccountsFor filter onlyMatches before) (hfilter : HasSmallOffsets filter)
    (hrest : ∀ o ∈ rest.head?, ∃ e, o = .error e) (events : List Event) :
    ∃ q error, p.through filter onlyMatches (events.map .ok ++ rest) = (q, error) ∧
      q.AccountsFor filter onlyMatches (before ++ events) ∧ (error = none ↔ rest = []) := by
  induction events generalizing p before with
  | nil =>
    rw [List.append_nil]
    cases rest with
    | nil => exact ⟨p, none, rfl, h, iff_of_true rfl rfl⟩
    | cons o rest =>
      obtain ⟨e, rfl⟩ := hrest o rfl
      exact ⟨p, some e, rfl, h, iff_of_false nofun nofun⟩
  | cons event events ih =>
    rw [List.append_cons]
    exact ih (h.step hfilter event)

end Progress

/-! ### The report -/

/-- **A report accounts for the events** that were read, given what reading comes to behind them:
the lines of the standard output are lines for the events in their order, the exit code tells
whether everything was read, and if it was, the last message of the log says how many of the lines
tell an error. -/
structure Report.AccountsFor (filter : Filter) (onlyMatches : Bool) (events : List Event)
    (rest : List (Except EventError Event)) (report : Report) : Prop where
  lines : List.Forall₂ (IsLineFor filter onlyMatches) events report.output
  framed : Text.lines '\n' '\r' report.standardOutput.toList = report.output.map String.toList
  exitCode : report.ending.exitCode = 0 ↔ rest = []
  summary : rest = [] → ∃ failed, failed = report.output.countP tellsError ∧
    report.log.getLast? = some (
      if failed = 0 then ⟨.info, s!"Evaluated {events.length} event(s)"⟩
      else ⟨.warn, s!"{failed} of {events.length} event(s) failed to evaluate"⟩)

/-- The standard output has the lines of a report. -/
theorem Report.lines_standardOutput {report : Report}
    (h : ∀ line ∈ report.output, ∀ c ∈ line.toList, 0x20 ≤ c.toNat) :
    Text.lines '\n' '\r' report.standardOutput.toList = report.output.map String.toList := by
  have htext : report.standardOutput.toList =
      (report.output.map String.toList).flatMap (· ++ ['\n']) := by
    rw [standardOutput, String.toList_join, List.flatMap_map, List.flatMap_map]
    refine List.flatMap_congr fun line _ => ?_
    rw [String.toList_append]
    rfl
  have hclean {d : Char} (hd : d.toNat < 0x20) :
      ∀ line ∈ report.output.map String.toList, d ∉ line := by
    refine List.forall_mem_map.mpr fun line hline hmem => ?_
    have := h line hline d hmem
    omega
  rw [htext]
  exact Text.lines_flatMap_feed (hclean (by decide)) (hclean (by decide))

/-- The last message is shown, unless it is one for debugging. -/
theorem getLast?_shown {line : LogLine} (h : line.level ≠ .debug) (debug : Bool)
    (log : List LogLine) : (shown debug (log ++ [line])).getLast? = some line := by
  have hline : shown debug [line] = [line] := by simp [shown, h]
  rw [shown, List.filter_append, ← shown, ← shown, hline, List.getLast?_concat]

/-- The summary of a run is not for debugging. -/
theorem Progress.level_summary_ne (p : Progress) : p.summary.level ≠ .debug := by
  unfold summary
  split <;> exact nofun

/-- **What a run is given**: an expression that is a filter, no file, and on the standard input some
events, behind which reading ends or fails. -/
structure Setting (args : Arguments) (inputs : Inputs) (filter : Filter) (events : List Event)
    (rest : List (Except EventError Event)) : Prop where
  event_eq : args.event = none
  compile_eq : Filter.compile .builtins args.expression = .ok filter
  hasSmallOffsets : HasSmallOffsets filter
  ofLines_eq : Event.ofLines (Event.linesOfBytes inputs.stdin) = events.map .ok ++ rest
  head_rest : ∀ o ∈ rest.head?, ∃ e, o = .error e

variable {args : Arguments} {inputs : Inputs} {rest : List (Except EventError Event)}

namespace Setting

/-- **The report of a run** is that of its progress through the events before the first error of
reading. -/
theorem exists_progress (h : Setting args inputs filter events rest) :
    ∃ p : Progress, p.AccountsFor filter args.onlyMatches events ∧
      (evaluate args inputs).output = p.output.toList ∧
      ((evaluate args inputs).ending.exitCode = 0 ↔ rest = []) ∧
      (rest = [] → (evaluate args inputs).log.getLast? = some p.summary) := by
  obtain ⟨p, error, hrun, haccounts, herror⟩ :=
    Progress.accountsFor_start.through h.hasSmallOffsets h.head_rest events
  refine ⟨p, haccounts, ?_⟩
  unfold evaluate
  simp only [h.compile_eq, eventsOf, h.event_eq, h.ofLines_eq, hrun]
  cases error with
  | none =>
    refine ⟨rfl, iff_of_true rfl (herror.mp rfl), fun _ => ?_⟩
    exact getLast?_shown p.level_summary_ne _ _
  | some e =>
    have hne : rest ≠ [] := fun hnil => Option.some_ne_none e (herror.mpr hnil)
    exact ⟨rfl, iff_of_false nofun hne, fun hnil => absurd hnil hne⟩

/-- The lines of a run are those for the events. -/
theorem output_eq (h : Setting args inputs filter events rest) :
    (evaluate args inputs).output = events.map (lineFor filter args.onlyMatches) := by
  obtain ⟨p, haccounts, houtput, -⟩ := h.exists_progress
  rw [houtput, haccounts.output_eq]

/-- **The report of a run accounts for the events.** -/
theorem accountsFor (h : Setting args inputs filter events rest) :
    (evaluate args inputs).AccountsFor filter args.onlyMatches events rest := by
  have hline (event : Event) := isLineFor_lineFor h.hasSmallOffsets args.onlyMatches event
  obtain ⟨p, haccounts, houtput, hexit, hlog⟩ := h.exists_progress
  refine ⟨?_, Report.lines_standardOutput fun line hmem => ?_, hexit, fun hnil => ?_⟩
  · rw [h.output_eq, List.forall₂_map_right_iff, List.forall₂_same]
    exact fun event _ => hline event
  · rw [h.output_eq] at hmem
    obtain ⟨event, -, rfl⟩ := List.mem_map.mp hmem
    exact (hline event).noControl
  · refine ⟨p.failed, ?_, ?_⟩
    · rw [houtput, haccounts.failed_eq]
    · rw [hlog hnil, Progress.summary, haccounts.evaluated_eq]
      by_cases hfailed : p.failed = 0
      · rw [if_pos hfailed, if_neg (by omega)]
      · rw [if_neg hfailed, if_pos (by omega)]

end Setting

/-! ### The two modes -/

/-- **The two modes agree on some events**: the output with values and the output with verdicts have
the same line for an event, which tells an error, if the filter has no value, and a line is a
verdict exactly if in its place there is a truth value, which is the same. -/
structure ModesAgree (filter : Filter) (events : List Event) (values verdicts : List String) :
    Prop where
  failure : ∀ (i : Nat) event e, events[i]? = some event →
    filter.evaluate (.ofEvent event .builtins) = .error e →
      ∃ line, values[i]? = some line ∧ verdicts[i]? = some line ∧ tellsError line = true
  boolean : ∀ (i : Nat) b,
    verdicts[i]?.bind Json.ofText? = some (.ofMembers [("matches", .boolean b)]) ↔
      values[i]?.bind Json.ofText? = some (.ofMembers [("result", .boolean b)])

/-- A line is a verdict exactly if the filter has it. -/
theorem ofText?_lineFor_verdict (hfilter : HasSmallOffsets filter) (event : Event) (b : Bool) :
    Json.ofText? (lineFor filter true event) = some (.ofMembers [("matches", .boolean b)]) ↔
      filter.verdict (.ofEvent event .builtins) = .ok b := by
  obtain ⟨json, hread, htells⟩ := (isLineFor_lineFor hfilter true event).readBack
  rw [hread, Option.some.injEq]
  cases htells with
  | @verdict b' h =>
    rw [h, Except.ok.injEq]
    constructor
    · intro heq
      have hmember := congrArg (Json.get? "matches") heq
      cases hmember
      rfl
    · rintro rfl
      rfl
  | @failure _ e h =>
    have hne : ¬filter.verdict (.ofEvent event .builtins) = .ok b := by
      rw [show filter.verdict _ = .error e from h]
      exact nofun
    refine iff_of_false (fun heq => ?_) hne
    have hmember := congrArg (Json.get? "error") heq
    cases hmember

/-- A line is a truth value exactly if the filter has it. -/
theorem ofText?_lineFor_value (hfilter : HasSmallOffsets filter) (event : Event) (b : Bool) :
    Json.ofText? (lineFor filter false event) = some (.ofMembers [("result", .boolean b)]) ↔
      filter.evaluate (.ofEvent event .builtins) = .ok (.boolean b) := by
  obtain ⟨json, hread, htells⟩ := (isLineFor_lineFor hfilter false event).readBack
  rw [hread, Option.some.injEq]
  cases htells with
  | @value v h =>
    rw [h, Except.ok.injEq]
    constructor
    · intro heq
      have hmember := congrArg (Json.get? "result") heq
      cases v with
      | boolean b' =>
        cases hmember
        rfl
      | integer n => cases hmember
      | string s => cases hmember
    · rintro rfl
      rfl
  | @failure _ e h =>
    have hne : ¬filter.evaluate (.ofEvent event .builtins) = .ok (.boolean b) := by
      rw [show filter.evaluate _ = .error e from h]
      exact nofun
    refine iff_of_false (fun heq => ?_) hne
    have hmember := congrArg (Json.get? "error") heq
    cases hmember

/-- The lines for some events agree. -/
theorem modesAgree_map_lineFor (hfilter : HasSmallOffsets filter) (events : List Event) :
    ModesAgree filter events (events.map (lineFor filter false))
      (events.map (lineFor filter true)) := by
  refine ⟨fun i event e hi hfails => ?_, fun i b => ?_⟩
  · have hvalue : answerFor filter false event = .error e := answerFor_eq_error_iff.mpr hfails
    have hverdict : answerFor filter true event = .error e :=
      answerFor_eq_error_iff.mpr (Filter.verdict_eq_error hfails)
    have hline {onlyMatches : Bool} (h : answerFor filter onlyMatches event = .error e) :
        (events.map (lineFor filter onlyMatches))[i]? = some (errorJson e).text := by
      rw [List.getElem?_map, hi, Option.map_some, lineFor_of_error h]
    exact ⟨(errorJson e).text, hline hvalue, hline hverdict, (isLineFor_of_error hfilter hvalue).2⟩
  · rw [List.getElem?_map, List.getElem?_map]
    cases events[i]? with
    | none => exact iff_of_false nofun nofun
    | some event =>
      rw [Option.map_some, Option.map_some, Option.bind_some, Option.bind_some,
        ofText?_lineFor_verdict hfilter, ofText?_lineFor_value hfilter, Filter.verdict_eq_ok_iff]

/-! ### Arguments -/

/-- An expression can be given behind an equals sign, whatever its characters are. -/
theorem readFrom_expression {given : Given} (hgiven : given.lookup .expression = none)
    (expression : String) :
    readFrom given ["--expression=" ++ expression] =
      Given.finish ((.expression, expression) :: given) := by
  have hlist : ("--expression=" ++ expression).toList =
      '-' :: '-' :: ("expression".toList ++ '=' :: expression.toList) := by
    rw [String.toList_append]
    rfl
  have hne : "--expression=" ++ expression ≠ "--" := by
    intro heq
    have hchars := congrArg String.toList heq
    rw [hlist] at hchars
    cases hchars
  have htake : ("expression".toList ++ '=' :: expression.toList).takeWhile (· != '=') =
      "expression".toList := rfl
  have hdrop : ("expression".toList ++ '=' :: expression.toList).dropWhile (· != '=') =
      '=' :: expression.toList := rfl
  have hswitch : Switch.all.find? (·.name == "expression") = some .expression := rfl
  have hvalue : given.value .expression expression =
      .ok (.next ((.expression, expression) :: given)) := by
    rw [Given.value, hgiven]
    rfl
  have hargument : argument given ("--expression=" ++ expression) =
      .ok (.step (.next ((.expression, expression) :: given))) := by
    unfold argument
    simp only [hlist, long, htake, hdrop, List.tail?_cons, String.ofList_toList, hswitch,
      Switch.takesValue, hvalue]
    rfl
  rw [readFrom, hargument]
  · rfl
  · exact fun heq _ => hne heq
  · exact fun _ _ heq _ => hne heq

/-- **There are arguments for every expression and every mode.** -/
theorem exists_ofArguments (expression : String) (onlyMatches debug : Bool) :
    ∃ argv, Request.ofArguments argv =
      .ok (.evaluate { expression, event := none, onlyMatches, debug }) := by
  cases onlyMatches with
  | false =>
    cases debug with
    | false => exact ⟨_, readFrom_expression rfl expression⟩
    | true => exact ⟨["-d", _], readFrom_expression rfl expression⟩
  | true =>
    cases debug with
    | false => exact ⟨["-m", _], readFrom_expression rfl expression⟩
    | true => exact ⟨["-md", _], readFrom_expression rfl expression⟩

/-! ### The command -/

/-- **The command neither loses nor invents results.** Given an expression that is a filter, short
enough for offsets of 64 bits, it reads some events from the standard input until reading ends or
fails; its report accounts for these events, with verdicts and without, and the two modes agree on
them. -/
theorem run_accounts {expression : String}
    (hcompile : Filter.compile .builtins expression = .ok filter)
    (hsize : expression.utf8ByteSize < UInt64.size) (inputs : Inputs) :
    ∃ events rest,
      Event.ofLines (Event.linesOfBytes inputs.stdin) = events.map .ok ++ rest ∧
      (∀ o ∈ rest.head?, ∃ e, o = .error e) ∧
      (∀ onlyMatches debug, ∃ argv, Request.ofArguments argv =
        .ok (.evaluate { expression, event := none, onlyMatches, debug })) ∧
      (∀ argv onlyMatches debug, Request.ofArguments argv =
          .ok (.evaluate { expression, event := none, onlyMatches, debug }) →
        (run argv inputs).AccountsFor filter onlyMatches events rest) ∧
      ∀ argv argv' debug debug', Request.ofArguments argv =
          .ok (.evaluate { expression, event := none, onlyMatches := false, debug }) →
        Request.ofArguments argv' =
          .ok (.evaluate { expression, event := none, onlyMatches := true, debug := debug' }) →
        ModesAgree filter events (run argv inputs).output (run argv' inputs).output := by
  obtain ⟨events, rest, hread, hrest⟩ :=
    exists_eq_map_ok_append (Event.ofLines (Event.linesOfBytes inputs.stdin))
  have hfilter := hasSmallOffsets_of_compile hcompile hsize
  have hsetting (onlyMatches debug : Bool) :
      Setting { expression, event := none, onlyMatches, debug } inputs filter events rest :=
    ⟨rfl, hcompile, hfilter, hread, hrest⟩
  have hrun {argv : List String} {args : Arguments}
      (h : Request.ofArguments argv = .ok (.evaluate args)) :
      run argv inputs = evaluate args inputs := by
    rw [run, h]
  refine ⟨events, rest, hread, hrest, exists_ofArguments expression, ?_, ?_⟩
  · intro argv onlyMatches debug h
    rw [hrun h]
    exact (hsetting onlyMatches debug).accountsFor
  · intro argv argv' debug debug' h h'
    rw [hrun h, hrun h', (hsetting false debug).output_eq, (hsetting true debug').output_eq]
    exact modesAgree_map_lineFor hfilter events

/-- A truth value, a text with a line break, an event without the attribute, and a line that is no
JSON. -/
theorem run_accounts_lineBreak :
    let inputs : Inputs :=
      ⟨"\x7b\"é\":true\x7d\n\x7b\"é\":\"a\\nb\"\x7d\n\n\x7b\x7d\n[\n\x7b\x7d".toUTF8, fun _ => none⟩
    ∃ filter events rest, Filter.compile .builtins "é" = .ok filter ∧
      (run ["-e", "é"] inputs).output.length = 3 ∧
      (run ["-e", "é"] inputs).AccountsFor filter false events rest ∧
      (run ["-me", "é"] inputs).AccountsFor filter true events rest ∧
      ModesAgree filter events (run ["-e", "é"] inputs).output
        (run ["-me", "é"] inputs).output := by
  intro inputs
  have hrun : (Filter.compile .builtins "é").toOption.isSome = true := by decide +kernel
  have hlength : (run ["-e", "é"] inputs).output.length = 3 := by decide +kernel
  cases hcompile : Filter.compile .builtins "é" with
  | error _ =>
    rw [hcompile] at hrun
    cases hrun
  | ok filter =>
    obtain ⟨events, rest, -, -, -, haccounts, hmodes⟩ :=
      run_accounts hcompile (by decide +kernel) inputs
    exact ⟨filter, events, rest, rfl, hlength, haccounts _ false false rfl,
      haccounts _ true false rfl, hmodes _ _ false false rfl rfl⟩

end EventFilter.Command
