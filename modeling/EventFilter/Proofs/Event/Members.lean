import EventFilter.Outcomes
import EventFilter.Proofs.Json.Integers
import EventFilter.Proofs.Json.Values
import EventFilter.Proofs.KeyedList
import EventFilter.Proofs.Text.ByteOrder

/-!
# What is accepted as an event

The members of an object are gone through in the order of their names, and some of them are passed
over. What comes out is said here without going through them: which members count
(`Event.Counts`), that the object is an event if all of them are values of the language, that it has
these for its attributes, and which member is reported if one of them is no value. The order in
which the members are written is of no matter, but of members with one name the last one counts.
Main statement: what is accepted as an event, and what is reported otherwise (`Event.acceptance`).
-/

namespace EventFilter

/-! ### Members that count -/

namespace Event

/-- **A member counts**: of the members that are written it is the last one of its name, it is none
of those that hold the payload, and it is not null. -/
structure Counts (members : List (String × Json)) (name : String) (j : Json) : Prop where
  /-- no later member has the name -/
  last : members.reverse.lookup name = some j
  /-- the name is none of the payload -/
  name_notMem : name ∉ payloadMembers
  /-- the value is not null -/
  ne_null : j ≠ .null

variable {members members' entries : List (String × Json)} {name : String} {j : Json} {v : Value}

/-- What is not passed over. -/
theorem isSkipped_eq_false_iff :
    isSkipped name j = false ↔ name ∉ payloadMembers ∧ j ≠ .null := by
  cases j <;> simp [isSkipped]

/-- A member counts if it is an entry of the object that is not passed over. -/
theorem counts_iff_mem :
    Counts members name j ↔ (name, j) ∈ KeyedList.ofList members ∧ isSkipped name j = false := by
  rw [← KeyedList.find?_eq_some_iff_mem (KeyedList.sorted_ofList members), KeyedList.find?_ofList,
    isSkipped_eq_false_iff]
  exact ⟨fun h => ⟨h.last, h.name_notMem, h.ne_null⟩, fun h => ⟨h.1, h.2.1, h.2.2⟩⟩

/-- The attribute that a member is. -/
def attributeOf (member : String × Json) : Except EventError (String × Value) :=
  match Value.ofJson? member.2 with
  | some v => .ok (member.1, v)
  | none => .error (.unsupported member.1 member.2)

/-- The attributes are those of the members that are not passed over, or the first error. -/
theorem attributesOf_eq_collect (entries : List (String × Json)) :
    attributesOf entries =
      collect ((entries.filter fun m => !isSkipped m.1 m.2).map attributeOf) := by
  induction entries with
  | nil => rfl
  | cons m entries ih =>
    obtain ⟨name, j⟩ := m
    rw [attributesOf]
    by_cases hskipped : isSkipped name j = true
    · rw [if_pos hskipped, ih, List.filter_cons_of_neg (by simpa using hskipped)]
    · rw [if_neg hskipped, List.filter_cons_of_pos (by simpa using hskipped), List.map_cons,
        attributeOf, ih]
      cases Value.ofJson? j <;> rfl

/-- The members of an object that are not passed over, in the order of their names. -/
def kept (members : List (String × Json)) : List (String × Json) :=
  (KeyedList.ofList members).filter fun m => !isSkipped m.1 m.2

/-- They are the members that count. -/
theorem mem_kept_iff : (name, j) ∈ kept members ↔ Counts members name j := by
  rw [counts_iff_mem, kept, List.mem_filter, Bool.not_eq_true']

/-- They are in order. -/
theorem sorted_kept (members : List (String × Json)) : KeyedList.Sorted (kept members) :=
  List.Pairwise.filter _ (KeyedList.sorted_ofList members)

/-- An object is an event if the members that count are attributes. -/
theorem ofJson_ofMembers (members : List (String × Json)) :
    ofJson (.ofMembers members) = (collect ((kept members).map attributeOf)).map ofList := by
  rw [kept, ← attributesOf_eq_collect]
  rfl

/-- A member is an attribute of its name if its value is one of the language. -/
theorem attributeOf_eq_ok_iff {m : String × Json} {a : String × Value} :
    attributeOf m = .ok a ↔ a.1 = m.1 ∧ m.2.IsValue a.2 := by
  rw [← Value.ofJson?_eq_some_iff]
  unfold attributeOf
  obtain ⟨name, v⟩ := a
  cases hvalue : Value.ofJson? m.2 with
  | none => simp
  | some v' => simp [eq_comm]

/-- A member is an error if its value is none of the language. -/
theorem attributeOf_eq_error_iff {m : String × Json} {err : EventError} :
    attributeOf m = .error err ↔ (∀ v, ¬ m.2.IsValue v) ∧ err = .unsupported m.1 m.2 := by
  simp only [← Value.ofJson?_eq_some_iff]
  unfold attributeOf
  cases hvalue : Value.ofJson? m.2 with
  | none => simp [eq_comm]
  | some v => simp

/-- Attributes have the names of their members. -/
theorem map_fst_of_map_attributeOf {attributes : List (String × Value)}
    (h : entries.map attributeOf = attributes.map .ok) :
    attributes.map Prod.fst = entries.map Prod.fst := by
  induction entries generalizing attributes with
  | nil =>
    rw [List.map_eq_nil_iff.mp h.symm]
    rfl
  | cons m entries ih =>
    obtain ⟨a, attributes, rfl, ha, hrest⟩ := List.map_eq_cons_iff.mp h.symm
    rw [List.map_cons, List.map_cons, ih hrest.symm, (attributeOf_eq_ok_iff.mp ha.symm).1]

/-- **A member offends** if it counts and its value is none of the language. -/
def Offends (members : List (String × Json)) (name : String) (j : Json) : Prop :=
  Counts members name j ∧ ∀ v, ¬ j.IsValue v

/-- An object is an event with the attributes that its members are. -/
theorem ofJson_ofMembers_eq_ok_iff {event : Event} :
    ofJson (.ofMembers members) = .ok event ↔ ∃ attributes,
      (kept members).map attributeOf = attributes.map .ok ∧ event = ofList attributes := by
  rw [ofJson_ofMembers]
  constructor
  · intro h
    cases hcollect : collect ((kept members).map attributeOf) with
    | error err =>
      rw [hcollect] at h
      cases h
    | ok attributes =>
      rw [hcollect] at h
      cases h
      exact ⟨attributes, collect_eq_ok_iff.mp hcollect, rfl⟩
  · rintro ⟨attributes, hattributes, rfl⟩
    rw [collect_eq_ok_iff.mpr hattributes]
    rfl

/-- An object is an event if every member that counts is a value. -/
theorem exists_ofJson_ofMembers_iff :
    (∃ event, ofJson (.ofMembers members) = .ok event) ↔
      ∀ name j, Counts members name j → ∃ v, j.IsValue v := by
  have hcollect : (∃ event, ofJson (.ofMembers members) = .ok event) ↔
      ∃ attributes, collect ((kept members).map attributeOf) = .ok attributes := by
    simp only [ofJson_ofMembers_eq_ok_iff, collect_eq_ok_iff]
    exact ⟨fun ⟨_, attributes, h, _⟩ => ⟨attributes, h⟩,
      fun ⟨attributes, h⟩ => ⟨_, attributes, h, rfl⟩⟩
  rw [hcollect, exists_collect_eq_ok_iff, List.forall_mem_map]
  constructor
  · intro h name j hcounts
    obtain ⟨a, ha⟩ := h (name, j) (mem_kept_iff.mpr hcounts)
    exact ⟨a.2, (attributeOf_eq_ok_iff.mp ha).2⟩
  · rintro h ⟨name, j⟩ hmem
    obtain ⟨v, hv⟩ := h name j (mem_kept_iff.mp hmem)
    exact ⟨(name, v), attributeOf_eq_ok_iff.mpr ⟨rfl, hv⟩⟩

/-- The attributes of an event are the members that count. -/
theorem get?_of_ofJson_ofMembers {event : Event} (h : ofJson (.ofMembers members) = .ok event) :
    event.get? name = some v ↔ ∃ j, Counts members name j ∧ j.IsValue v := by
  obtain ⟨attributes, hattributes, rfl⟩ := ofJson_ofMembers_eq_ok_iff.mp h
  have hsorted : KeyedList.Sorted attributes := by
    have hkeys := List.pairwise_map.mpr (sorted_kept members)
    rw [← map_fst_of_map_attributeOf hattributes] at hkeys
    exact List.pairwise_map.mp hkeys
  have hget : (ofList attributes).get? name = KeyedList.find? name attributes :=
    congrArg (KeyedList.find? name) (KeyedList.ofList_eq_self hsorted)
  rw [hget, KeyedList.find?_eq_some_iff_mem hsorted]
  constructor
  · intro hmem
    have hok : (.ok (name, v) : Except EventError _) ∈ (kept members).map attributeOf :=
      hattributes ▸ List.mem_map_of_mem hmem
    obtain ⟨⟨name', j⟩, hj, hattribute⟩ := List.mem_map.mp hok
    obtain ⟨rfl, hv⟩ := attributeOf_eq_ok_iff.mp hattribute
    exact ⟨j, mem_kept_iff.mp hj, hv⟩
  · rintro ⟨j, hcounts, hv⟩
    have hok : (.ok (name, v) : Except EventError _) ∈ attributes.map .ok := by
      rw [← hattributes, ← attributeOf_eq_ok_iff.mpr (⟨rfl, hv⟩ : (name, v).1 = (name, j).1 ∧ _)]
      exact List.mem_map_of_mem (mem_kept_iff.mpr hcounts)
    obtain ⟨a, ha, heq⟩ := List.mem_map.mp hok
    cases heq
    exact ha

/-- **What is reported** is the offending member whose name comes first. -/
theorem exists_offends_of_ofJson_ofMembers {err : EventError}
    (h : ofJson (.ofMembers members) = .error err) :
    ∃ name j, Offends members name j ∧ err = .unsupported name j ∧
      ∀ name' j', Offends members name' j' → name' = name ∨ name < name' := by
  rw [ofJson_ofMembers, map_eq_error_iff] at h
  obtain ⟨before, after, hkept, hbefore⟩ := collect_eq_error_iff.mp h
  obtain ⟨front, rest, hsplit, rfl, hrest⟩ := List.map_eq_append_iff.mp hkept
  obtain ⟨⟨name, j⟩, back, rfl, hattribute, rfl⟩ := List.map_eq_cons_iff.mp hrest
  obtain ⟨hoffends, rfl⟩ := attributeOf_eq_error_iff.mp hattribute
  have hmem : (name, j) ∈ kept members := hsplit ▸ by simp
  refine ⟨name, j, ⟨mem_kept_iff.mp hmem, hoffends⟩, rfl, fun name' j' hother => ?_⟩
  have hmem' : (name', j') ∈ front ++ (name, j) :: back := hsplit ▸ mem_kept_iff.mpr hother.1
  rcases List.mem_append.mp hmem' with hfront | hback
  · obtain ⟨a, ha⟩ := hbefore _ (List.mem_map_of_mem hfront)
    exact absurd (attributeOf_eq_ok_iff.mp ha).2 (hother.2 a.2)
  · have hsorted := hsplit ▸ sorted_kept members
    obtain ⟨hfirst, -⟩ := List.pairwise_cons.mp (List.pairwise_append.mp hsorted).2.1
    rcases List.mem_cons.mp hback with heq | hlater
    · exact .inl (congrArg Prod.fst heq)
    · exact .inr (hfirst _ hlater)

/-- A name has only one member that counts. -/
theorem Counts.unique {j' : Json} (h : Counts members name j) (h' : Counts members name j') :
    j = j' :=
  Option.some.inj (h.last.symm.trans h'.last)

/-- Of a single member no other one counts. -/
theorem eq_of_counts_singleton {name' : String} {j' : Json} (h : Counts [(name, j)] name' j') :
    name' = name ∧ j' = j := by
  have hkeys : (([(name, j)] : List (String × Json)).map Prod.fst).Nodup := List.nodup_singleton _
  have hmem : (name', j') ∈ [(name, j)] := (KeyedList.lookup_eq_some_iff_mem hkeys).mp h.last
  exact Prod.mk.inj (List.mem_singleton.mp hmem)

/-- Objects in which the same members are the last of their names are the same event. -/
theorem ofMembers_eq_of_lookup_eq
    (h : ∀ name, members'.reverse.lookup name = members.reverse.lookup name) :
    Json.ofMembers members' = Json.ofMembers members := by
  have hlists : KeyedList.ofList members' = KeyedList.ofList members :=
    KeyedList.eq_of_find?_eq (KeyedList.sorted_ofList members') (KeyedList.sorted_ofList members)
      fun name => by rw [KeyedList.find?_ofList, KeyedList.find?_ofList, h]
  exact congrArg Json.object hlists

/-- **What is accepted as an event.** -/
structure Acceptance (members : List (String × Json)) : Prop where
  /-- an object is an event if every member that counts is a value -/
  accepted : (∃ event, ofJson (.ofMembers members) = .ok event) ↔
    ∀ name j, Counts members name j → ∃ v, j.IsValue v
  /-- the event has exactly these members for its attributes -/
  exactly (event : Event) : ofJson (.ofMembers members) = .ok event → ∀ name v,
    event.get? name = some v ↔ ∃ j, Counts members name j ∧ j.IsValue v
  /-- what is reported otherwise is the offending member whose name comes first byte by byte -/
  refused (err : EventError) : ofJson (.ofMembers members) = .error err ↔
    ∃ name j, Offends members name j ∧ err = .unsupported name j ∧
      ∀ name' j', Offends members name' j' → name' = name ∨ Text.bytes name < Text.bytes name'
  /-- what is written for a name only counts if it is the last -/
  last (members' : List (String × Json)) :
    (∀ name, members'.reverse.lookup name = members.reverse.lookup name) →
      ofJson (.ofMembers members') = ofJson (.ofMembers members)
  /-- members of different names can be written in any order -/
  order (members' : List (String × Json)) : members.Perm members' →
    (members.map Prod.fst).Nodup → ofJson (.ofMembers members') = ofJson (.ofMembers members)
  /-- an integer is written as one: not with a point, an exponent or a minus before zero -/
  written (text : String) (j : Json) (n : Int32) : Json.ofText? text = some j →
    (j.IsValue (.integer n) ↔ ∃ front back,
      text.toList = front ++ (Text.writeInt32 n ++ back) ∧
        (∀ c ∈ front, Json.isSpace c = true) ∧ ∀ c ∈ back, Json.isSpace c = true)
  /-- a member of its own is accepted with the value that its text is read as by itself -/
  decoded (name text : String) (j : Json) (v : Value) : Json.ofText? text = some j →
    Counts [(name, j)] name j →
      ((∃ event, ofJson (.ofMembers [(name, j)]) = .ok event ∧ event.get? name = some v) ↔
        Value.ofText? text = some v)
  /-- and so is one among others, if these are accepted -/
  decodedAmong (name text : String) (j : Json) (event : Event) : Json.ofText? text = some j →
    Counts members name j → ofJson (.ofMembers members) = .ok event →
      event.get? name = Value.ofText? text

/-- **Every object is accepted or refused** for what its members are. -/
theorem acceptance (members : List (String × Json)) : Acceptance members where
  accepted := exists_ofJson_ofMembers_iff
  exactly event h name v := get?_of_ofJson_ofMembers h
  refused err := by
    constructor
    · intro h
      obtain ⟨name, j, hoffends, herr, hfirst⟩ := exists_offends_of_ofJson_ofMembers h
      exact ⟨name, j, hoffends, herr, fun name' j' h' =>
        (hfirst name' j' h').imp_right Text.bytes_lt_bytes_iff.mpr⟩
    · rintro ⟨name, j, hoffends, rfl, hfirst⟩
      cases h : ofJson (.ofMembers members) with
      | ok event =>
        obtain ⟨v, hv⟩ := exists_ofJson_ofMembers_iff.mp ⟨event, h⟩ name j hoffends.1
        exact absurd hv (hoffends.2 v)
      | error err =>
        obtain ⟨name', j', hoffends', rfl, hfirst'⟩ := exists_offends_of_ofJson_ofMembers h
        obtain rfl : name' = name := by
          rcases hfirst name' j' hoffends' with heq | hlt
          · exact heq
          · rcases hfirst' name j hoffends with heq | hlt'
            · exact heq.symm
            · exact absurd hlt' (String.lt_asymm (Text.bytes_lt_bytes_iff.mp hlt))
        rw [hoffends.1.unique hoffends'.1]
  last members' h := by rw [ofMembers_eq_of_lookup_eq h]
  order members' hperm hkeys := by
    rw [ofMembers_eq_of_lookup_eq (KeyedList.lookup_reverse_of_perm hperm hkeys)]
  written text j n h := by
    have hmin := n.le_toInt
    have hmax := n.toInt_lt
    rw [Text.writeInt32, ← Json.read?_eq_integer_iff (by omega) (by omega)]
    constructor
    · rintro ⟨⟩
      exact h
    · intro hread
      obtain rfl := Option.some.inj (h.symm.trans hread)
      exact .integer n
  decoded name text j v h hcounts := by
    rw [Value.ofText?, h, Option.bind_some, Value.decode?_eq_some_iff]
    constructor
    · rintro ⟨event, hevent, hget⟩
      obtain ⟨j', hcounts', hv⟩ := (get?_of_ofJson_ofMembers hevent).mp hget
      rwa [hcounts.unique hcounts']
    · intro hv
      obtain ⟨event, hevent⟩ : ∃ event, ofJson (.ofMembers [(name, j)]) = .ok event := by
        refine exists_ofJson_ofMembers_iff.mpr fun name' j' hcounts' => ?_
        obtain ⟨rfl, rfl⟩ := eq_of_counts_singleton hcounts'
        exact ⟨v, hv⟩
      exact ⟨event, hevent, (get?_of_ofJson_ofMembers hevent).mpr ⟨j, hcounts, hv⟩⟩
  decodedAmong name text j event h hcounts hevent := by
    apply Option.ext
    intro v
    rw [get?_of_ofJson_ofMembers hevent, Value.ofText?, h, Option.bind_some,
      Value.decode?_eq_some_iff]
    exact ⟨fun ⟨j', hcounts', hv⟩ => hcounts.unique hcounts' ▸ hv, fun hv => ⟨j, hcounts, hv⟩⟩

end Event

end EventFilter
