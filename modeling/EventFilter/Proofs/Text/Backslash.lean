/-!
# Runs of backslashes

Backslashes escape one another in pairs, so what one of them means hangs on how many stand directly
before it. `backslashesAtEnd` counts the backslashes that a text ends with, and so measures the run
that goes up to a place. Main statements: a run begins anew behind any other character
(`backslashesAtEnd_append_cons`), and a pair of backslashes at the front of a text leaves it even or
odd (`backslashesAtEnd_backslash_backslash`).
-/

namespace EventFilter.Text

/-- The number of backslashes that a text ends with. -/
def backslashesAtEnd (cs : List Char) : Nat := (cs.reverse.takeWhile (· == '\\')).length

/-- **A run begins anew** behind any other character. -/
theorem backslashesAtEnd_append_cons {c : Char} (hc : c ≠ '\\') (as cs : List Char) :
    backslashesAtEnd (as ++ c :: cs) = backslashesAtEnd cs := by
  have hstop : (c :: as.reverse).takeWhile (· == '\\') = [] :=
    List.takeWhile_cons_of_neg (by simpa using hc)
  have hreverse : (as ++ c :: cs).reverse = cs.reverse ++ c :: as.reverse := by simp
  unfold backslashesAtEnd
  rw [hreverse, List.takeWhile_append, hstop, List.append_nil]
  split
  · rename_i hall
    exact hall.symm
  · rfl

/-- A backslash at the front lengthens a run that goes all the way back to it, and no other. -/
theorem backslashesAtEnd_backslash (cs : List Char) :
    backslashesAtEnd ('\\' :: cs) =
      if backslashesAtEnd cs = cs.length then cs.length + 1 else backslashesAtEnd cs := by
  unfold backslashesAtEnd
  rw [List.reverse_cons, List.takeWhile_append, List.length_reverse]
  split
  · rw [List.takeWhile_cons_of_pos rfl, List.length_append, List.length_reverse]
    rfl
  · rfl

/-- **A pair of backslashes at the front** leaves a run even or odd. -/
theorem backslashesAtEnd_backslash_backslash (cs : List Char) :
    backslashesAtEnd ('\\' :: '\\' :: cs) % 2 = backslashesAtEnd cs % 2 := by
  have hle : backslashesAtEnd cs ≤ cs.length := by
    have := (List.takeWhile_prefix (l := cs.reverse) (· == '\\')).length_le
    rwa [List.length_reverse] at this
  rw [backslashesAtEnd_backslash, backslashesAtEnd_backslash, List.length_cons]
  split <;> split at * <;> omega

end EventFilter.Text
