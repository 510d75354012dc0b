import EventFilter.Event.Reader
import EventFilter.Proofs.Json.RoundTrip

/-!
# Reading back an event

An event is written as a JSON object with a member for each attribute, but the members that hold the
payload of an event are passed over when it is read. So what comes back from the text of an event is
the event without the attributes of these names (`Event.withoutPayload`), and every other attribute
has the value that it had.
Main statement: what is read from the text of an event (`Event.ofText_text_eq_withoutPayload`).
-/

namespace EventFilter

open Json (Plain)

namespace Event

/-! ### Events without payload -/

/-- **An event without the attributes that bear the name of a payload member.** -/
def withoutPayload (event : Event) : Event := payloadMembers.foldl erase event

/-- The entries of an event without payload are those of other names. -/
theorem entries_withoutPayload (event : Event) :
    event.withoutPayload.entries = event.entries.filter fun e => !payloadMembers.contains e.1 := by
  have hentries : event.withoutPayload.entries =
      (event.entries.filter fun e => e.1 ≠ "data").filter fun e => e.1 ≠ "data_base64" := rfl
  rw [hentries, List.filter_filter]
  refine List.filter_congr fun e _ => ?_
  simp only [payloadMembers, List.contains_cons, List.contains_nil, Bool.or_false]
  by_cases hdata : e.1 = "data" <;> by_cases hbase : e.1 = "data_base64" <;> simp [hdata, hbase]

/-- The attributes of an event without payload. -/
theorem get?_withoutPayload (event : Event) (name : String) :
    event.withoutPayload.get? name =
      if name ∈ payloadMembers then none else event.get? name := by
  have herase : event.withoutPayload = (event.erase "data").erase "data_base64" := rfl
  rw [herase, get?_erase, get?_erase]
  simp only [payloadMembers, List.mem_cons, List.not_mem_nil, or_false]
  by_cases hdata : name = "data" <;> by_cases hbase : name = "data_base64" <;> simp [hdata, hbase]

/-- Events with the same entries are the same. -/
theorem eq_of_entries_eq {event event' : Event} (h : event.entries = event'.entries) :
    event = event' := by
  cases event
  cases event'
  cases h
  rfl

/-- An event in which no payload member has a value is without payload. -/
theorem withoutPayload_eq_self {event : Event}
    (h : ∀ name ∈ payloadMembers, event.get? name = none) : event.withoutPayload = event := by
  apply eq_of_entries_eq
  rw [entries_withoutPayload, List.filter_eq_self]
  intro e he
  have hname : e.1 ∉ payloadMembers := fun hmem =>
    KeyedList.find?_eq_none_iff.mp (h e.1 hmem) e he rfl
  simpa using hname

/-! ### Reading back -/

/-- A value is written as a plain one. -/
theorem plain_toJson_value (depth : Nat) (v : Value) : Plain depth v.toJson := by
  cases v with
  | boolean b => exact .boolean b
  | integer n =>
    have hmin := n.le_toInt
    have hmax := n.toInt_lt
    exact .integer (by omega) (by omega)
  | string s => exact .string s

/-- An event is written as a plain object. -/
theorem plain_toJson (event : Event) (depth : Nat) : Plain (depth + 1) event.toJson := by
  refine .object ?_ ?_
  · exact List.pairwise_map.mpr event.sorted
  · intro m hm
    obtain ⟨e, -, rfl⟩ := List.mem_map.mp hm
    exact plain_toJson_value depth e.2

/-- The members that are passed over are those of the payload. -/
theorem attributesOf_entries (entries : List (String × Value)) :
    attributesOf (entries.map fun e => (e.1, e.2.toJson)) =
      .ok (entries.filter fun e => !payloadMembers.contains e.1) := by
  induction entries with
  | nil => rfl
  | cons e entries ih =>
    have hskipped : isSkipped e.1 e.2.toJson = payloadMembers.contains e.1 := by
      cases hvalue : e.2 <;> simp [isSkipped, Value.toJson]
    rw [List.map_cons, attributesOf, hskipped]
    by_cases hpayload : payloadMembers.contains e.1 = true
    · rw [if_pos hpayload, ih, List.filter_cons_of_neg (by simpa using hpayload)]
    · rw [if_neg hpayload, Value.ofJson?_toJson, ih,
        List.filter_cons_of_pos (by simpa using hpayload)]
      rfl

/-- An event comes back from its JSON object without payload. -/
theorem ofJson_toJson (event : Event) : ofJson event.toJson = .ok event.withoutPayload := by
  have hofList : ofList event.withoutPayload.entries = event.withoutPayload :=
    eq_of_entries_eq (KeyedList.ofList_eq_self event.withoutPayload.sorted)
  have hmembers : ofJson event.toJson =
      (attributesOf (event.entries.map fun e => (e.1, e.2.toJson))).map ofList := rfl
  rw [hmembers, attributesOf_entries, ← entries_withoutPayload]
  exact congrArg Except.ok hofList

/-- The text of an event is the text of a JSON value. -/
theorem read?_text (event : Event) : Json.read? event.text.toList = some event.toJson :=
  Json.ofText?_text (event.plain_toJson 126)

/-- **What is read from the text of an event** is the event without the attributes that bear the
name of a payload member; all the others have the values that they had. -/
theorem ofText_text_eq_withoutPayload (event : Event) :
    ofText event.text = .ok event.withoutPayload ∧
      ∀ name, event.withoutPayload.get? name =
        if name = "data" ∨ name = "data_base64" then none else event.get? name := by
  refine ⟨?_, fun name => ?_⟩
  · rw [ofText, Json.ofText?, read?_text]
    exact ofJson_toJson event
  · simpa [payloadMembers] using get?_withoutPayload event name

end Event

end EventFilter
