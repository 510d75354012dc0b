import EventFilter.Event.Reader
import EventFilter.Proofs.Text.Encoding

/-!
# Events on lines

Lines are read one after the other, and only their numbers tell where they stand (`readLines`). A
blank line is nothing but a number, so that what the lines come to is found by going through them
once.
Main statements: the lines of the bytes of a text are its lines (`Event.linesOfBytes_toUTF8`), and
lines fail with the number and the content of the first one that is no JSON, if no line before it
fails (`Event.collect_readLines_eq_invalidLine_iff`).
-/

namespace EventFilter

namespace Event

open Text (isBlankText)

variable {line : List Char} {lines : List (List Char)} {events : List Event} {k n : Nat}
  {content : String}

/-- **The lines of the bytes of a text** are the lines of the text. -/
theorem linesOfBytes_toUTF8 (text : String) : linesOfBytes text.toUTF8 = linesOfText text :=
  Text.fromUTF8?_lines_toUTF8 text

/-! ### Line after line -/

/-- **The events on some lines**, the first of which has a given number. -/
def readLines (k : Nat) (lines : List (List Char)) : List (Except EventError Event) :=
  ((lines.map some).zipIdx k).filterMap fun line => ofLine? line.2 line.1

/-- Lines are numbered from one. -/
theorem ofLines_map_some (lines : List (List Char)) :
    ofLines (lines.map some) = readLines 1 lines := rfl

/-- The first line is read, and then the others. -/
theorem readLines_cons (k : Nat) (line : List Char) (lines : List (List Char)) :
    readLines k (line :: lines) = (ofLine? k (some line)).toList ++ readLines (k + 1) lines := by
  unfold readLines
  rw [List.map_cons, List.zipIdx_cons, List.filterMap_cons]
  cases ofLine? k (some line) <;> rfl

/-- A blank line is passed over. -/
theorem ofLine?_of_isBlankText (h : isBlankText line = true) : ofLine? k (some line) = none :=
  if_pos h

/-- A line with a value is the event that the value is. -/
theorem ofLine?_of_read? {value : Json} (hblank : isBlankText line = false)
    (h : Json.read? line = some value) : ofLine? k (some line) = some (ofJson value) := by
  rw [ofLine?, if_neg (Bool.eq_false_iff.mp hblank), h]

/-- A line without a value fails with its number and its content. -/
theorem ofLine?_of_read?_eq_none (hblank : isBlankText line = false) (h : Json.read? line = none) :
    ofLine? k (some line) = some (.error (.invalidLine k (String.ofList line))) := by
  rw [ofLine?, if_neg (Bool.eq_false_iff.mp hblank), h]

/-! ### Failing lines -/

/-- A value that is no event does not fail with the number of a line. -/
theorem ofJson_ne_invalidLine (value : Json) (n : Nat) (content : String) :
    ofJson value ≠ .error (.invalidLine n content) := by
  have hattributes (members : List (String × Json)) :
      attributesOf members ≠ .error (.invalidLine n content) := by
    induction members with
    | nil => exact nofun
    | cons m members ih =>
      unfold attributesOf
      split
      · exact ih
      · split
        · exact fun h => ih (map_eq_error_iff.mp h)
        · exact nofun
  cases value with
  | object members => exact fun h => hattributes members (map_eq_error_iff.mp h)
  | _ => exact nofun

/-- **A line that does not fail**: it is blank, or its value is an event. -/
def Succeeds (line : List Char) : Prop :=
  isBlankText line = true ∨ ∃ value event, Json.read? line = some value ∧ ofJson value = .ok event

/-- A line that is no JSON fails. -/
theorem not_succeeds_of_read?_eq_none (hblank : isBlankText line = false)
    (h : Json.read? line = none) : ¬Succeeds line := by
  rintro (hblank' | ⟨value, event, hvalue, -⟩)
  · rw [hblank] at hblank'
    cases hblank'
  · rw [h] at hvalue
    cases hvalue

/-- Behind a line that does not fail the lines fail as they do without it. -/
theorem collect_readLines_cons_of_succeeds (h : Succeeds line) {e : EventError} :
    collect (readLines k (line :: lines)) = .error e ↔
      collect (readLines (k + 1) lines) = .error e := by
  rw [readLines_cons]
  cases hblank : isBlankText line with
  | true =>
    rw [ofLine?_of_isBlankText hblank]
    rfl
  | false =>
    rcases h with hblank' | ⟨value, event, hvalue, hevent⟩
    · rw [hblank] at hblank'
      cases hblank'
    · rw [ofLine?_of_read? hblank hvalue, hevent]
      exact map_eq_error_iff

/-- A line that fails does so as no JSON exactly if it is none. -/
theorem collect_readLines_cons_of_not_succeeds (h : ¬Succeeds line) :
    collect (readLines k (line :: lines)) = .error (.invalidLine n content) ↔
      n = k ∧ content = String.ofList line ∧ isBlankText line = false ∧
        Json.read? line = none := by
  have hblank : isBlankText line = false := Bool.eq_false_iff.mpr fun hblank => h (.inl hblank)
  rw [readLines_cons]
  cases hvalue : Json.read? line with
  | none =>
    rw [ofLine?_of_read?_eq_none hblank hvalue]
    constructor
    · rintro ⟨⟩
      exact ⟨rfl, rfl, hblank, rfl⟩
    · rintro ⟨rfl, rfl, -, -⟩
      rfl
  | some value =>
    rw [ofLine?_of_read? hblank hvalue]
    cases hevent : ofJson value with
    | ok event => exact absurd (.inr ⟨value, event, hvalue, hevent⟩) h
    | error e =>
      constructor
      · rintro ⟨⟩
        exact absurd hevent (ofJson_ne_invalidLine value n content)
      · rintro ⟨-, -, -, ⟨⟩⟩

/-- **The first line that is no JSON** is what lines fail with, if the lines before it do not fail;
the number is that of the first line and as many more as there are lines before it. -/
theorem collect_readLines_eq_invalidLine_iff :
    collect (readLines k lines) = .error (.invalidLine n content) ↔
      ∃ before line after, lines = before ++ line :: after ∧ n = k + before.length ∧
        content = String.ofList line ∧ (∀ l ∈ before, Succeeds l) ∧ isBlankText line = false ∧
          Json.read? line = none := by
  induction lines generalizing k with
  | nil =>
    constructor
    · exact nofun
    · rintro ⟨before, line, after, hnil, -⟩
      simp at hnil
  | cons l lines ih =>
    by_cases hl : Succeeds l
    · rw [collect_readLines_cons_of_succeeds hl, ih]
      constructor
      · rintro ⟨before, line, after, rfl, rfl, hcontent, hbefore, hline⟩
        refine ⟨l :: before, line, after, rfl, ?_, hcontent,
          List.forall_mem_cons.mpr ⟨hl, hbefore⟩, hline⟩
        rw [List.length_cons]
        omega
      · rintro ⟨_ | ⟨d, before⟩, line, after, heq, rfl, hcontent, hbefore, hblank, hline⟩
        · cases heq
          exact absurd hl (not_succeeds_of_read?_eq_none hblank hline)
        · cases heq
          refine ⟨before, line, after, rfl, ?_, hcontent, (List.forall_mem_cons.mp hbefore).2,
            hblank, hline⟩
          rw [List.length_cons]
          omega
    · rw [collect_readLines_cons_of_not_succeeds hl]
      constructor
      · rintro ⟨rfl, hcontent, hline⟩
        exact ⟨[], l, lines, rfl, rfl, hcontent, nofun, hline⟩
      · rintro ⟨_ | ⟨d, before⟩, line, after, heq, rfl, hcontent, hbefore, hline⟩
        · cases heq
          exact ⟨rfl, hcontent, hline⟩
        · cases heq
          exact absurd (List.forall_mem_cons.mp hbefore).1 hl

end Event

end EventFilter
