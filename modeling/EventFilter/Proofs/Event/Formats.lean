import EventFilter.Proofs.Event.Lines
import EventFilter.Proofs.Event.RoundTrip

/-!
# The formats of events

Events are written as an array of their objects, or with one object on each line. Which of the two a
text is need not be said: it is first read as one value, and as lines if it is none. This comes out
right since a line that is one value is no value any more before another line that is not blank
(`Json.eq_of_read?_append`), and since the text of an event is a single line.
Main statement: both formats give back the events that were written, and a text that begins with a
line that is one value is read line by line if it has more of them (`Event.listOfText_formats`).
-/

namespace EventFilter

open Json (Plain Stops)
open Text (isBlankText lines)

namespace Event

variable {events : List Event} {event : Event} {cs : List Char}

/-! ### Texts of events -/

/-- The text of an event begins with a brace. -/
theorem text_eq_cons (event : Event) : ∃ cs, event.text.toList = '\x7b' :: cs := by
  rw [text, Json.text, String.toList_ofList, toJson, Json.render]
  exact ⟨_, rfl⟩

/-- The text of an event has no control characters. -/
theorem not_mem_text {c : Char} (hc : c.toNat < 0x20) : c ∉ event.text.toList := by
  intro hmem
  rw [text, Json.text, String.toList_ofList] at hmem
  have := (event.plain_toJson 0).le_toNat_of_mem_render c hmem
  omega

/-- The text of an event is not blank. -/
theorem isBlankText_text (event : Event) : isBlankText event.text.toList = false := by
  obtain ⟨cs, hcs⟩ := event.text_eq_cons
  rw [hcs]
  rfl

/-- The text of an event on a line is read as the event. -/
theorem ofLine?_text (h : event.withoutPayload = event) (k : Nat) :
    ofLine? k (some event.text.toList) = some (.ok event) := by
  rw [ofLine?_of_read? event.isBlankText_text event.read?_text, ofJson_toJson, h]

/-- The text of an event is one line, whichever way this ends. -/
theorem lines_text_append {ending : List Char} (hending : ending = ['\n'] ∨ ending = ['\r', '\n'])
    (event : Event) (cs : List Char) :
    lines '\n' '\r' (event.text.toList ++ (ending ++ cs)) =
      event.text.toList :: lines '\n' '\r' cs := by
  have hfeed : '\n' ∉ event.text.toList := event.not_mem_text (by decide)
  have hret : '\r' ∉ event.text.toList := event.not_mem_text (by decide)
  rcases hending with rfl | rfl
  · exact (Text.lines_append_feed hfeed cs).trans (by rw [Text.chomp_of_not_mem hret])
  · have hline : '\n' ∉ event.text.toList ++ ['\r'] := by simp [hfeed]
    have hchomp : Text.chomp '\r' (event.text.toList ++ ['\r']) = event.text.toList :=
      (Text.chomp_concat '\r' '\r' _).trans (if_pos rfl)
    have happend : event.text.toList ++ (['\r', '\n'] ++ cs) =
        event.text.toList ++ ['\r'] ++ '\n' :: cs := by simp
    rw [happend, Text.lines_append_feed hline, hchomp]

/-! ### Events on lines -/

/-- **A text with events on its lines**: each line is the text of an event or blank and ends with a
line feed, or a carriage return and a line feed, but for the last one. -/
inductive OnLines : List Event → List Char → Prop
  | last {event : Event} : OnLines [event] event.text.toList
  | blankLast {blank : List Char} (hline : '\n' ∉ blank) (hblank : isBlankText blank = true) :
      OnLines [] blank
  | line {events : List Event} {cs : List Char} {event : Event} {ending : List Char}
      (hending : ending = ['\n'] ∨ ending = ['\r', '\n']) (h : OnLines events cs) :
      OnLines (event :: events) (event.text.toList ++ (ending ++ cs))
  | blankLine {events : List Event} {cs blank : List Char} (hline : '\n' ∉ blank)
      (hblank : isBlankText blank = true) (h : OnLines events cs) :
      OnLines events (blank ++ '\n' :: cs)

namespace OnLines

/-- A text with events on its lines is blank if there are none, and otherwise has the text of the
first one in it with nothing but blank characters in front, and behind it too if there are no more
events. -/
theorem eq_nil_or_eq_cons (h : OnLines events cs) :
    (events = [] ∧ isBlankText cs = true) ∨
      ∃ event rest front more, events = event :: rest ∧
        cs = front ++ (event.text.toList ++ more) ∧ isBlankText front = true ∧ Stops more ∧
        (isBlankText more = true → rest = []) := by
  induction h with
  | @last event => exact .inr ⟨event, [], [], [], rfl, by simp, rfl, nofun, fun _ => rfl⟩
  | blankLast hline hblank => exact .inl ⟨rfl, hblank⟩
  | @line events cs event ending hending h ih =>
    refine .inr ⟨event, events, [], ending ++ cs, rfl, rfl, rfl, ?_, fun hmore => ?_⟩
    · rcases hending with rfl | rfl <;> exact Json.stops_of_isSpace (by decide) _
    · rw [Text.isBlankText_append, Bool.and_eq_true] at hmore
      obtain ⟨hnil, -⟩ | ⟨e, rest, front, more, rfl, rfl, -⟩ := ih
      · exact hnil
      · have htext := hmore.2
        simp only [Text.isBlankText_append, isBlankText_text, Bool.false_and,
          Bool.and_false] at htext
        cases htext
  | @blankLine events cs blank hline hblank h ih =>
    have hfront {front : List Char} (hfront : isBlankText front = true) :
        isBlankText (blank ++ '\n' :: front) = true := by
      rw [Text.isBlankText_append, hblank]
      exact hfront
    obtain ⟨hnil, hcs⟩ | ⟨event, rest, front, more, heq, rfl, hblank', hmore, hrest⟩ := ih
    · exact .inl ⟨hnil, hfront hcs⟩
    · exact .inr ⟨event, rest, blank ++ '\n' :: front, more, heq, by simp, hfront hblank', hmore,
        hrest⟩

/-- **What is read from the lines** are the events on them. -/
theorem readLines_eq (h : OnLines events cs) :
    (∀ event ∈ events, event.withoutPayload = event) →
      ∀ k, readLines k (lines '\n' '\r' cs) = events.map .ok := by
  induction h with
  | @last event =>
    intro hevents k
    have hne : event.text.toList ≠ [] := by
      obtain ⟨cs, hcs⟩ := event.text_eq_cons
      exact hcs ▸ List.cons_ne_nil _ _
    rw [Text.lines_of_not_mem (event.not_mem_text (by decide)) hne, readLines_cons,
      ofLine?_text (hevents event List.mem_cons_self)]
    rfl
  | @blankLast blank hline hblank =>
    intro _ k
    by_cases hempty : blank = []
    · rw [hempty]
      rfl
    · rw [Text.lines_of_not_mem hline hempty, readLines_cons, ofLine?_of_isBlankText hblank]
      rfl
  | @line events cs event ending hending h ih =>
    intro hevents k
    obtain ⟨hevent, hevents⟩ := List.forall_mem_cons.mp hevents
    rw [lines_text_append hending, readLines_cons, ofLine?_text hevent, ih hevents]
    rfl
  | @blankLine events cs blank hline hblank h ih =>
    intro hevents k
    have hchomp : isBlankText (Text.chomp '\r' blank) = true :=
      (Text.isBlankText_chomp blank).trans hblank
    rw [Text.lines_append_feed hline, readLines_cons, ofLine?_of_isBlankText hchomp, ih hevents]
    rfl

end OnLines

/-! ### Reading either format -/

/-- A text that is no value is read line by line. -/
theorem listOfText_of_read?_eq_none {text : String} (hblank : isBlankText text.toList = false)
    (h : Json.read? text.toList = none) :
    listOfText text = collect (readLines 1 (lines '\n' '\r' text.toList)) := by
  rw [listOfText, if_neg (Bool.eq_false_iff.mp hblank), Json.ofText?, h]
  exact congrArg collect (ofLines_map_some _)

/-- **An array of events** is read as these. -/
theorem listOfText_array (h : ∀ event ∈ events, event.withoutPayload = event) :
    listOfText (Json.array (events.map toJson)).text = .ok events := by
  have hplain : Plain Json.maxDepth (.array (events.map toJson)) := by
    refine .array fun v hv => ?_
    obtain ⟨event, -, rfl⟩ := List.mem_map.mp hv
    exact event.plain_toJson 125
  have hread : Json.ofText? (Json.array (events.map toJson)).text =
      some (.array (events.map toJson)) := Json.ofText?_text hplain
  have hblank : isBlankText (Json.array (events.map toJson)).text.toList = false := by
    rw [Json.text, String.toList_ofList, Json.render]
    rfl
  have hitems : (events.map toJson).map ofJson = events.map .ok := by
    rw [List.map_map]
    exact List.map_congr_left fun event hmem => (ofJson_toJson event).trans (by rw [h event hmem])
  rw [listOfText, if_neg (Bool.eq_false_iff.mp hblank), hread]
  exact collect_eq_ok_iff.mpr hitems

/-- **Events on lines** are read as these. -/
theorem listOfText_of_onLines {text : String} (h : OnLines events text.toList)
    (hevents : ∀ event ∈ events, event.withoutPayload = event) : listOfText text = .ok events := by
  cases hblank : isBlankText text.toList with
  | true =>
    obtain ⟨rfl, -⟩ | ⟨event, rest, front, more, rfl, htext, -⟩ := h.eq_nil_or_eq_cons
    · exact if_pos hblank
    · simp [htext, Text.isBlankText_append, isBlankText_text] at hblank
  | false =>
    cases hread : Json.read? text.toList with
    | none =>
      rw [listOfText_of_read?_eq_none hblank hread, h.readLines_eq hevents]
      exact collect_eq_ok_iff.mpr rfl
    | some value =>
      obtain ⟨rfl, hblank'⟩ | ⟨event, rest, front, more, rfl, htext, hfront, hmore, hrest⟩ :=
        h.eq_nil_or_eq_cons
      · rw [hblank] at hblank'
        cases hblank'
      · obtain ⟨rfl, hblank'⟩ :=
          Json.eq_of_read?_append hfront hmore event.read?_text (htext ▸ hread)
        obtain rfl := hrest hblank'
        rw [listOfText, if_neg (Bool.eq_false_iff.mp hblank), Json.ofText?, hread]
        have hevent : ofJson event.toJson = .ok event :=
          (ofJson_toJson event).trans (by rw [hevents event List.mem_cons_self])
        exact congrArg (Except.map ([·])) hevent

/-- **A text with a line that is one value**, in front of which all lines are blank and behind which
not all are, is no value itself. -/
theorem read?_eq_none_of_lines {blanks later : List (List Char)} {first : List Char}
    (hlines : lines '\n' '\r' cs = blanks ++ first :: later)
    (hblanks : ∀ line ∈ blanks, isBlankText line = true) (hfirst : (Json.read? first).isSome)
    (hlater : ∃ line ∈ later, isBlankText line = false) : Json.read? cs = none := by
  obtain ⟨front, back, rfl, hfront, hback⟩ := Text.lines_eq_append_cons hlines
  obtain ⟨value, hvalue⟩ := Option.isSome_iff_exists.mp hfirst
  have hblank : isBlankText front = true :=
    (Text.isBlankText_iff_lines front).mpr (hfront ▸ hblanks)
  have hstops : Stops back := by
    obtain ⟨rfl, -⟩ | ⟨rest, rfl | rfl, -⟩ := hback
    · exact nofun
    · exact Json.stops_of_isSpace (by decide) _
    · exact Json.stops_of_isSpace (by decide) _
  cases hread : Json.read? (front ++ (first ++ back)) with
  | none => rfl
  | some value' =>
    obtain ⟨line, hmem, hline⟩ := hlater
    obtain ⟨-, hbackBlank⟩ := Json.eq_of_read?_append hblank hstops hvalue hread
    have hall : ∀ l ∈ later, isBlankText l = true := by
      obtain ⟨-, rfl⟩ | ⟨rest, rfl | rfl, rfl⟩ := hback
      · exact nofun
      · exact (Text.isBlankText_iff_lines rest).mp hbackBlank
      · exact (Text.isBlankText_iff_lines rest).mp hbackBlank
    rw [hall line hmem] at hline
    cases hline

/-- **Both formats give back the events that were written**, as long as no attribute bears the name
of a payload member: as an array, or on lines with any blank lines between them. And any text with a
line that is one value, in front of which all lines are blank and behind which not all are, comes to
what its lines come to one by one. It fails as no JSON with the number and the content of the first
line that is none, if the lines before that do not fail; blank lines count. -/
theorem listOfText_formats :
    (∀ events : List Event,
      (∀ event ∈ events, ∀ name ∈ payloadMembers, event.get? name = none) →
        listOfText (Json.array (events.map toJson)).text = .ok events ∧
          ∀ text : String, OnLines events text.toList → listOfText text = .ok events) ∧
    ∀ (text : String) (blanks later : List (List Char)) (first : List Char),
      lines '\n' '\r' text.toList = blanks ++ first :: later →
      (∀ line ∈ blanks, isBlankText line = true) → (Json.read? first).isSome →
      (∃ line ∈ later, isBlankText line = false) →
        listOfText text = collect (ofLines (linesOfBytes text.toUTF8)) ∧
          ∀ n content, listOfText text = .error (.invalidLine n content) ↔
            ∃ before line after, lines '\n' '\r' text.toList = before ++ line :: after ∧
              n = 1 + before.length ∧ content = String.ofList line ∧ (∀ l ∈ before, Succeeds l) ∧
              isBlankText line = false ∧ Json.read? line = none := by
  refine ⟨fun events h => ?_, fun text blanks later first hlines hblanks hfirst hlater => ?_⟩
  · have hevents : ∀ event ∈ events, event.withoutPayload = event :=
      fun event hmem => withoutPayload_eq_self (h event hmem)
    exact ⟨listOfText_array hevents, fun text htext => listOfText_of_onLines htext hevents⟩
  · have hnone := read?_eq_none_of_lines hlines hblanks hfirst hlater
    have hblank : isBlankText text.toList = false := by
      obtain ⟨line, hmem, hline⟩ := hlater
      refine Bool.eq_false_iff.mpr fun hblank => ?_
      have hall := (Text.isBlankText_iff_lines text.toList).mp hblank
      rw [hall line (by simp [hlines, hmem])] at hline
      cases hline
    have hread := listOfText_of_read?_eq_none hblank hnone
    refine ⟨?_, fun n content => ?_⟩
    · rw [linesOfBytes_toUTF8]
      exact hread
    · rw [hread]
      exact collect_readLines_eq_invalidLine_iff

/-- Two events, one with a line feed in a text, written in both formats with blank lines of either
kind, and a text whose third line is no JSON. -/
theorem listOfText_formats_twoEvents :
    let event := ofList [("id", .string "a\n\"b\""), ("n", .integer (-3))]
    listOfText (Json.array [event.toJson, empty.toJson]).text = .ok [event, empty] ∧
      listOfText ("\u3000\r\n" ++ event.text ++ "\r\n \n" ++ empty.text) = .ok [event, empty] ∧
      listOfText "\x7b\x7d\r\n\u2003\n\x7b\"a\":1,\x7d\n" =
        .error (.invalidLine 3 "\x7b\"a\":1,\x7d") := by
  intro event
  have hevents : ∀ e ∈ [event, empty], ∀ name ∈ payloadMembers, e.get? name = none := by
    decide +kernel
  obtain ⟨harray, honLines⟩ := listOfText_formats.1 [event, empty] hevents
  have htext : ("\u3000\r\n" ++ event.text ++ "\r\n \n" ++ empty.text).toList =
      ['\u3000', '\r'] ++ '\n' :: (event.text.toList ++ (['\r', '\n'] ++
        ([' '] ++ '\n' :: empty.text.toList))) := by
    simp
  have hlines : OnLines [event, empty]
      ("\u3000\r\n" ++ event.text ++ "\r\n \n" ++ empty.text).toList := by
    rw [htext]
    exact .blankLine (by decide) (by decide) <| .line (.inr rfl) <|
      .blankLine (by decide) (by decide) .last
  refine ⟨harray, honLines _ hlines, ?_⟩
  have hcut : Text.lines '\n' '\r' "\x7b\x7d\r\n\u2003\n\x7b\"a\":1,\x7d\n".toList =
      [] ++ "\x7b\x7d".toList :: [['\u2003'], "\x7b\"a\":1,\x7d".toList] := by
    decide +kernel
  have hempty : Json.read? "\x7b\x7d".toList = some empty.toJson := empty.read?_text
  obtain ⟨-, herror⟩ := listOfText_formats.2 _ _ _ _ hcut (List.forall_mem_nil _)
    (by rw [hempty]; rfl) ⟨"\x7b\"a\":1,\x7d".toList, by simp, by decide +kernel⟩
  refine (herror 3 _).mpr ⟨["\x7b\x7d".toList, ['\u2003']], "\x7b\"a\":1,\x7d".toList, [], hcut,
    rfl, String.ofList_toList.symm, ?_, ?_, ?_⟩
  · refine List.forall_mem_cons.mpr ⟨.inr ⟨_, empty, hempty, rfl⟩, ?_⟩
    exact List.forall_mem_singleton.mpr (.inl (by decide +kernel))
  · decide +kernel
  · exact Option.isNone_iff_eq_none.mp (by decide +kernel)

end Event

end EventFilter
