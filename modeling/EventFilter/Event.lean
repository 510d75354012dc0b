import EventFilter.Json.Writer
import EventFilter.Value

/-!
# Events

An event is a finite map from attribute names to values, kept in the order of the names. It is read
from a JSON object and written as one. The members that hold the payload of an event are not
attributes and are passed over, whatever they are, and so are members that are null; every other
member has to be a truth value, a text or an integer of 32 bits. Main statement: what an event holds
after a change (`Event.get?_insert`, `Event.get?_erase`).
-/

namespace EventFilter

/-- **An event**: values under names, in the order of the names. -/
structure Event where
  entries : List (String × Value)
  sorted : KeyedList.Sorted entries
  deriving DecidableEq

/-- Why a JSON text is not an event, or a file holds none. Lines are counted from one, and the
content of a line that is no JSON is kept for what there is to say about it. -/
inductive EventError
  | notObject (value : Json)
  | unsupported (name : String) (value : Json)
  | invalidLine (line : Nat) (content : String)
  | notUtf8
  | notFound

/-- **What an event error says**, given how JSON readers put what is wrong with a text. -/
def EventError.message (fault : String → String) : EventError → String
  | .notObject value => s!"event must be a JSON object, found {value.text}"
  | .unsupported name value => s!"attribute '{name}' has unsupported value {value.text}"
  | .invalidLine line content => s!"invalid JSON on line {line}: {fault content}"
  | .notUtf8 => "IO error: stream did not contain valid UTF-8"
  | .notFound => "IO error: No such file or directory (os error 2)"

/-- The value that a JSON value is, if it is of a kind of the language. -/
def Value.ofJson? : Json → Option Value
  | .boolean b => some (.boolean b)
  | .integer n => (Text.int32? n).map .integer
  | .string s => some (.string s)
  | _ => none

/-- A value as a JSON value. -/
def Value.toJson : Value → Json
  | .boolean b => .boolean b
  | .integer n => .integer n.toInt
  | .string s => .string s

/-- A value is read back from its JSON form. -/
theorem Value.ofJson?_toJson (v : Value) : Value.ofJson? v.toJson = some v := by
  cases v with
  | boolean b => rfl
  | integer n => simp [toJson, ofJson?, Text.int32?_toInt]
  | string s => rfl

namespace Event

/-- The event without attributes. -/
def empty : Event := ⟨[], List.Pairwise.nil⟩

instance : Inhabited Event := ⟨empty⟩

/-- The value of an attribute. -/
def get? (event : Event) (name : String) : Option Value := KeyedList.find? name event.entries

/-- An event with an attribute set. -/
def insert (event : Event) (name : String) (value : Value) : Event :=
  ⟨KeyedList.insert name value event.entries, KeyedList.sorted_insert event.sorted⟩

/-- An event without an attribute. -/
def erase (event : Event) (name : String) : Event :=
  ⟨KeyedList.erase name event.entries, KeyedList.sorted_erase event.sorted⟩

/-- The event with some attributes, later ones replacing earlier ones. -/
def ofList (entries : List (String × Value)) : Event :=
  ⟨KeyedList.ofList entries, KeyedList.sorted_ofList entries⟩

/-- The number of attributes. -/
def size (event : Event) : Nat := event.entries.length

/-- Whether there are no attributes. -/
def isEmpty (event : Event) : Bool := event.entries.isEmpty

/-- **The attributes after one is set.** -/
theorem get?_insert (event : Event) (name name' : String) (value : Value) :
    (event.insert name value).get? name' = if name' = name then some value else event.get? name' :=
  KeyedList.find?_insert name name' value event.entries

/-- **The attributes after one is removed.** -/
theorem get?_erase (event : Event) (name name' : String) :
    (event.erase name).get? name' = if name' = name then none else event.get? name' :=
  KeyedList.find?_erase name name' event.entries

/-- The members of a JSON object that hold the payload of an event. -/
def payloadMembers : List String := ["data", "data_base64"]

/-- Whether a member of a JSON object is passed over. -/
def isSkipped (name : String) (value : Json) : Bool :=
  payloadMembers.contains name ||
    match value with
    | .null => true
    | _ => false

/-- The attributes that the members of a JSON object are, up to the first that is none. -/
def attributesOf : List (String × Json) → Except EventError (List (String × Value))
  | [] => .ok []
  | (name, value) :: rest =>
    if isSkipped name value then attributesOf rest
    else
      match Value.ofJson? value with
      | some v => (attributesOf rest).map ((name, v) :: ·)
      | none => .error (.unsupported name value)

/-- **The event that a JSON value is.** -/
def ofJson : Json → Except EventError Event
  | .object members => (attributesOf members).map ofList
  | value => .error (.notObject value)

/-- An event as a JSON object. -/
def toJson (event : Event) : Json := .object (event.entries.map fun e => (e.1, e.2.toJson))

/-- The JSON text of an event. -/
def text (event : Event) : String := event.toJson.text

end Event

end EventFilter
