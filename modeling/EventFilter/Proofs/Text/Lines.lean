import EventFilter.Text.Blank
import EventFilter.Text.Lines

/-!
# Lines and where they end

A list that is cut into lines either has no line feed, and then is one line if there is anything in
it, or begins with a line that ends at its first line feed; a carriage return in front of that is
cut off (`lines_append_feed`). Whatever is shown for the lines of every list is shown along these
cases (`lineInduction`).
Main statements: where the lines around a given one are (`lines_eq_append_cons`), the lines of a
list that is written in another alphabet are the lines of the list, written in it (`lines_flatMap`),
and a text is blank if its lines are (`isBlankText_iff_lines`).
-/

namespace EventFilter.Text

variable {α β : Type} [DecidableEq α] [DecidableEq β] {feed ret c : α} {cs line rest : List α}

/-! ### The end of a line -/

/-- **A line without the carriage return at its end**, if there is one. -/
def chomp (ret : α) (line : List α) : List α :=
  if line.getLast? = some ret then line.dropLast else line

/-- The last element decides what is cut off. -/
theorem chomp_concat (ret c : α) (line : List α) :
    chomp ret (line ++ [c]) = if c = ret then line else line ++ [c] := by
  simp [chomp]

/-- Elements in front of the last one stay. -/
theorem chomp_cons (h : line ≠ []) : chomp ret (c :: line) = c :: chomp ret line := by
  obtain ⟨d, ds, rfl⟩ := List.exists_cons_of_ne_nil h
  simp only [chomp, List.getLast?_cons_cons, List.dropLast_cons_cons]
  split <;> rfl

/-- A line without carriage returns stays. -/
theorem chomp_of_not_mem (h : ret ∉ line) : chomp ret line = line :=
  if_neg fun hlast => h (List.mem_of_getLast? hlast)

/-- Nothing but a carriage return is cut off. -/
theorem eq_chomp_or_eq_chomp_append (ret : α) (line : List α) :
    line = chomp ret line ∨ line = chomp ret line ++ [ret] := by
  rcases List.eq_nil_or_concat line with rfl | ⟨ds, d, rfl⟩
  · exact .inl rfl
  · rw [List.concat_eq_append, chomp_concat]
    by_cases hd : d = ret
    · rw [if_pos hd, hd]
      exact .inr rfl
    · rw [if_neg hd]
      exact .inl rfl

/-! ### Cutting off the first line -/

@[simp] theorem lines_nil (feed ret : α) : lines feed ret [] = [] := rfl

/-- A list without line feeds is one line. -/
theorem lines_of_not_mem (h : feed ∉ line) (hne : line ≠ []) : lines feed ret line = [line] := by
  induction line with
  | nil => exact absurd rfl hne
  | cons c line ih =>
    have hc := List.ne_of_not_mem_cons h
    have hline := List.not_mem_of_not_mem_cons h
    have hhead : line.head? ≠ some feed := fun hhead => hline (List.mem_of_head? hhead)
    rw [lines_cons, if_neg (Ne.symm hc), if_neg fun hret => hhead hret.2]
    cases line with
    | nil => rfl
    | cons d ds => rw [ih hline (List.cons_ne_nil d ds)]

/-- **The first line ends at the first line feed.** -/
theorem lines_append_feed (h : feed ∉ line) (rest : List α) :
    lines feed ret (line ++ feed :: rest) = chomp ret line :: lines feed ret rest := by
  induction line with
  | nil =>
    rw [List.nil_append, lines_cons, if_pos rfl]
    rfl
  | cons c line ih =>
    have hc := List.ne_of_not_mem_cons h
    have hline := List.not_mem_of_not_mem_cons h
    rw [List.cons_append, lines_cons, if_neg (Ne.symm hc), ih hline]
    cases line with
    | nil =>
      have hchomp := chomp_concat ret c []
      rw [List.nil_append] at hchomp
      rw [List.nil_append, List.head?_cons, hchomp]
      by_cases hret : c = ret <;> simp [hret, chomp]
    | cons d ds =>
      have hd : d ≠ feed := fun hd => hline (hd ▸ List.mem_cons_self)
      rw [List.cons_append, List.head?_cons, if_neg fun hret => hd (Option.some.inj hret.2),
        chomp_cons (List.cons_ne_nil d ds)]

/-- **Lines with a line feed behind each of them** are the lines of what they make together. -/
theorem lines_flatMap_feed {ls : List (List α)} (hfeed : ∀ line ∈ ls, feed ∉ line)
    (hret : ∀ line ∈ ls, ret ∉ line) : lines feed ret (ls.flatMap (· ++ [feed])) = ls := by
  induction ls with
  | nil => rfl
  | cons line ls ih =>
    obtain ⟨hline, hls⟩ := List.forall_mem_cons.mp hfeed
    obtain ⟨hline', hls'⟩ := List.forall_mem_cons.mp hret
    rw [List.flatMap_cons, List.append_assoc, List.singleton_append, lines_append_feed hline,
      chomp_of_not_mem hline', ih hls hls']

/-- **Induction on lines**: on a list without line feeds, and on one with a line in front of the
first line feed. -/
theorem lineInduction {motive : List α → Prop} (feed : α)
    (last : ∀ line, feed ∉ line → motive line)
    (step : ∀ line rest, feed ∉ line → motive rest → motive (line ++ feed :: rest))
    (cs : List α) : motive cs := by
  by_cases h : feed ∈ cs
  · obtain ⟨line, rest, rfl, hline⟩ := List.eq_append_cons_of_mem h
    exact step line rest hline (lineInduction feed last step rest)
  · exact last cs h
termination_by cs.length

/-! ### The lines around a line -/

/-- **Where a line is**: the text in front of it has the lines in front, and behind it the text ends
or goes on with a line feed, or a carriage return and a line feed, and the lines behind. -/
theorem lines_eq_append_cons {before after : List (List α)}
    (h : lines feed ret cs = before ++ line :: after) :
    ∃ front back, cs = front ++ (line ++ back) ∧ lines feed ret front = before ∧
      ((back = [] ∧ after = []) ∨
        ∃ rest, (back = feed :: rest ∨ back = ret :: feed :: rest) ∧
          lines feed ret rest = after) := by
  induction cs using lineInduction feed generalizing before with
  | last cs hcs =>
    by_cases hne : cs = []
    · rw [hne, lines_nil] at h
      simp at h
    · rw [lines_of_not_mem hcs hne] at h
      obtain ⟨rfl, hlast⟩ | ⟨_, -, hnil⟩ := List.cons_eq_append_iff.mp h
      · cases hlast
        exact ⟨[], [], by simp, rfl, .inl ⟨rfl, rfl⟩⟩
      · simp at hnil
  | step cs rest hcs ih =>
    rw [lines_append_feed hcs] at h
    obtain ⟨rfl, hfirst⟩ | ⟨before, rfl, hrest⟩ := List.cons_eq_append_iff.mp h
    · cases hfirst
      rcases eq_chomp_or_eq_chomp_append ret cs with heq | heq
      · exact ⟨[], feed :: rest, by rw [← heq]; rfl, rfl, .inr ⟨rest, .inl rfl, rfl⟩⟩
      · refine ⟨[], ret :: feed :: rest, ?_, rfl, .inr ⟨rest, .inr rfl, rfl⟩⟩
        rw [List.nil_append, List.append_cons (chomp ret cs), ← heq]
    · obtain ⟨front, back, rfl, hfront, hback⟩ := ih hrest
      refine ⟨cs ++ feed :: front, back, by simp, ?_, hback⟩
      rw [lines_append_feed hcs, hfront]

/-! ### Another alphabet -/

/-- **Lines in another alphabet.** If each element is written as some elements of another alphabet,
and line feeds and carriage returns as themselves and nothing else with them, then what is written
for a list has the lines that are written for the lines of the list. -/
theorem lines_flatMap {write : α → List β} {feed' ret' : β} (hne : ∀ c, write c ≠ [])
    (hfeed : write feed = [feed']) (hret : write ret = [ret'])
    (hfeed' : ∀ c, feed' ∈ write c → c = feed) (hret' : ∀ c, ret' ∈ write c → c = ret)
    (cs : List α) :
    lines feed' ret' (cs.flatMap write) = (lines feed ret cs).map (·.flatMap write) := by
  have hclean {line : List α} (h : feed ∉ line) : feed' ∉ line.flatMap write := by
    intro hmem
    obtain ⟨c, hc, hmem⟩ := List.mem_flatMap.mp hmem
    exact h (hfeed' c hmem ▸ hc)
  have hchomp (line : List α) :
      chomp ret' (line.flatMap write) = (chomp ret line).flatMap write := by
    rcases List.eq_nil_or_concat line with rfl | ⟨ds, d, rfl⟩
    · rfl
    · obtain ⟨bs, b, hwrite⟩ := (List.eq_nil_or_concat (write d)).resolve_left (hne d)
      rw [List.concat_eq_append] at hwrite
      rw [List.concat_eq_append, List.flatMap_append, List.flatMap_singleton, chomp_concat]
      by_cases hd : d = ret
      · rw [if_pos hd, hd, hret, chomp_concat, if_pos rfl]
      · have hb : b ≠ ret' := fun hb => hd (hret' d (by simp [hwrite, hb]))
        rw [if_neg hd, List.flatMap_append, List.flatMap_singleton, hwrite, ← List.append_assoc,
          chomp_concat, if_neg hb]
  induction cs using lineInduction feed with
  | last line hline =>
    by_cases hempty : line = []
    · rw [hempty]
      rfl
    · obtain ⟨c, cs, rfl⟩ := List.exists_cons_of_ne_nil hempty
      have hwritten : (c :: cs).flatMap write ≠ [] := by simp [hne c]
      rw [lines_of_not_mem (hclean hline) hwritten, lines_of_not_mem hline hempty]
      rfl
  | step line rest hline ih =>
    rw [List.flatMap_append, List.flatMap_cons, hfeed, List.singleton_append,
      lines_append_feed (hclean hline), lines_append_feed hline, ih, hchomp, List.map_cons]

/-! ### Blank lines -/

/-- A text is blank if both of its parts are. -/
theorem isBlankText_append (cs ds : List Char) :
    isBlankText (cs ++ ds) = (isBlankText cs && isBlankText ds) :=
  List.all_append

/-- A line is blank with a carriage return at its end if it is without. -/
theorem isBlankText_chomp (line : List Char) :
    isBlankText (chomp '\r' line) = isBlankText line := by
  rcases eq_chomp_or_eq_chomp_append '\r' line with heq | heq
  · rw [← heq]
  · have happend := isBlankText_append (chomp '\r' line) ['\r']
    rw [← heq] at happend
    exact (happend.trans (Bool.and_true _)).symm

/-- **A text is blank if its lines are.** -/
theorem isBlankText_iff_lines (cs : List Char) :
    isBlankText cs = true ↔ ∀ line ∈ lines '\n' '\r' cs, isBlankText line = true := by
  induction cs using lineInduction '\n' with
  | last line hline =>
    by_cases hempty : line = []
    · rw [hempty]
      exact ⟨fun _ => nofun, fun _ => rfl⟩
    · rw [lines_of_not_mem hline hempty, List.forall_mem_singleton]
  | step line rest hline ih =>
    have hrest : isBlankText ('\n' :: rest) = isBlankText rest := rfl
    rw [lines_append_feed hline, List.forall_mem_cons, ← ih, isBlankText_chomp,
      isBlankText_append, hrest, Bool.and_eq_true]

end EventFilter.Text
