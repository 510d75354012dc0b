/-!
# Lines

A line ends at a line feed, and a carriage return directly before that line feed is not part of it.
The characters behind the last line feed are a line too, if there are any. The same rule serves
lines of characters and lines of bytes. Main statement: `lines_cons`, how one more character in
front changes the lines.
-/

namespace EventFilter.Text

variable {α : Type} [DecidableEq α]

/-- What is known of a list while it is cut into lines from its end: its first element, and its
lines. -/
structure Cut (α : Type) where
  first : Option α
  lines : List (List α)

/-- One more element in front of the lines. -/
def Cut.cons (feed ret : α) (c : α) (cut : Cut α) : Cut α where
  first := some c
  lines :=
    if c = feed then [] :: cut.lines
    else if c = ret ∧ cut.first = some feed then cut.lines
    else
      match cut.lines with
      | [] => [[c]]
      | line :: lines => (c :: line) :: lines

/-- A list cut into lines, its elements being taken from the end. -/
def cut (feed ret : α) (cs : List α) : Cut α := cs.foldr (Cut.cons feed ret) ⟨none, []⟩

/-- **The lines of a list**, given what a line feed and a carriage return are. -/
def lines (feed ret : α) (cs : List α) : List (List α) := (cut feed ret cs).lines

/-- The first element is the first element. -/
theorem first_cut (feed ret : α) (cs : List α) : (cut feed ret cs).first = cs.head? := by
  cases cs <;> rfl

/-- **The lines of a list with one more element in front.** -/
theorem lines_cons (feed ret c : α) (cs : List α) :
    lines feed ret (c :: cs) =
      if c = feed then [] :: lines feed ret cs
      else if c = ret ∧ cs.head? = some feed then lines feed ret cs
      else
        match lines feed ret cs with
        | [] => [[c]]
        | line :: lines => (c :: line) :: lines := by
  rw [← first_cut feed ret cs]
  rfl

end EventFilter.Text
