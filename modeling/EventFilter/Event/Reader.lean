import EventFilter.Event
import EventFilter.Json.Reader
import EventFilter.Outcomes
import EventFilter.Text.Blank
import EventFilter.Text.Lines

/-!
# Reading events

Events come as one JSON object, as an array of them, or as one object on each line. A text that is
one JSON value is taken as the first or the second, any other text as lines. Blank lines are passed
over but counted. Lines are also read from bytes, one by one, so that a line that is not a text
spoils no other line.
-/

namespace EventFilter.Event

/-- The event of a JSON text. -/
def ofText (text : String) : Except EventError Event :=
  match Json.ofText? text with
  | some value => ofJson value
  | none => .error (.invalidLine 1 text)

/-- The event on a line with a given number, if the line is not blank. The line is `none` if its
bytes are no text. -/
def ofLine? (number : Nat) : Option (List Char) → Option (Except EventError Event)
  | none => some (.error .notUtf8)
  | some line =>
    if Text.isBlankText line then none
    else
      match Json.read? line with
      | some value => some (ofJson value)
      | none => some (.error (.invalidLine number (String.ofList line)))

/-- **The events on some lines**, the first of which has the number one. -/
def ofLines (lines : List (Option (List Char))) : List (Except EventError Event) :=
  (lines.zipIdx 1).filterMap fun line => ofLine? line.2 line.1

/-- The lines of a text. -/
def linesOfText (text : String) : List (Option (List Char)) :=
  (Text.lines '\n' '\r' text.toList).map some

/-- The lines of some bytes. -/
def linesOfBytes (bytes : ByteArray) : List (Option (List Char)) :=
  (Text.lines 0x0A 0x0D bytes.toList).map fun line =>
    (String.fromUTF8? ⟨line.toArray⟩).map String.toList

/-- **The events of a text** that holds an object, an array of objects, or an object on each
line. -/
def listOfText (text : String) : Except EventError (List Event) :=
  if Text.isBlankText text.toList then .ok []
  else
    match Json.ofText? text with
    | some (.array items) => collect (items.map ofJson)
    | some value => (ofJson value).map ([·])
    | none => collect (ofLines (linesOfText text))

/-- The events of a file, given its bytes if it is there. -/
def listOfFile : Option ByteArray → Except EventError (List Event)
  | none => .error .notFound
  | some bytes =>
    match String.fromUTF8? bytes with
    | none => .error .notUtf8
    | some text => listOfText text

end EventFilter.Event
