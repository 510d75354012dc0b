import EventFilter.Pattern
import EventFilter.Proofs.Text.Backslash

/-!
# How patterns are written

Every item of a pattern is written in one way, and a valid pattern is the spellings of its items one
after the other. A text that is no pattern has a backslash that nothing escapes and that stands
before no character that it can escape (`PatternItem.BadEscape`).
Main statements: a text is read as the items that it spells (`PatternItem.read_eq_ok_iff`), it is a
pattern if and only if it has no bad escape (`PatternItem.exists_read_eq_ok_iff`), and otherwise the
error is that of the first one (`PatternItem.read_eq_error_iff`).
-/

namespace EventFilter

/-- What is wrong with a backslash, by the text behind it. -/
def PatternError.ofEscape : List Char → PatternError
  | [] => .danglingEscape
  | c :: _ => .invalidEscape c

namespace PatternItem

/-- How an item is written. -/
def spelling : PatternItem → List Char
  | .anyRun => ['%']
  | .anyChar => ['_']
  | .char c => if isSpecial c then ['\\', c] else [c]

/-- **A bad escape**: a backslash between two parts of a text that is not itself escaped, since an
even number of backslashes stands directly before it, and that stands before the end or a character
that it cannot escape. -/
structure BadEscape (cs pre post : List Char) : Prop where
  split : cs = pre ++ '\\' :: post
  unescaped : Text.backslashesAtEnd pre % 2 = 0
  escapesNothing : ∀ c ∈ post.head?, isSpecial c = false

/-- A bad escape with no other one before it. -/
def FirstBadEscape (cs pre post : List Char) : Prop :=
  BadEscape cs pre post ∧ ∀ pre' post', BadEscape cs pre' post' → pre.length ≤ pre'.length

/-- The characters that are not special. -/
theorem isSpecial_eq_false_iff {c : Char} :
    isSpecial c = false ↔ c ≠ '%' ∧ c ≠ '_' ∧ c ≠ '\\' := by
  simp [isSpecial, and_assoc]

/-- An item is written as one character or as a special one behind a backslash. -/
theorem exists_spelling (item : PatternItem) :
    (∃ c, c ≠ '\\' ∧ item.spelling = [c]) ∨
      ∃ c, isSpecial c = true ∧ item.spelling = ['\\', c] := by
  cases item with
  | anyRun => exact .inl ⟨'%', by decide, rfl⟩
  | anyChar => exact .inl ⟨'_', by decide, rfl⟩
  | char c =>
    cases hc : isSpecial c with
    | true => exact .inr ⟨c, hc, if_pos hc⟩
    | false =>
      obtain ⟨-, -, hback⟩ := isSpecial_eq_false_iff.mp hc
      exact .inl ⟨c, hback, if_neg (Bool.eq_false_iff.mp hc)⟩

/-! ### Reading item by item -/

/-- An item at the front is read. -/
theorem read_spelling_append (item : PatternItem) (cs : List Char) :
    read (item.spelling ++ cs) = (read cs).map (item :: ·) := by
  cases item with
  | anyRun => rfl
  | anyChar => rfl
  | char c =>
    rw [spelling]
    split
    · rename_i hc
      rw [List.cons_append, List.cons_append, List.nil_append, read, if_pos hc]
    · rename_i hc
      obtain ⟨hpercent, hline, hback⟩ := isSpecial_eq_false_iff.mp (Bool.eq_false_iff.mpr hc)
      rw [List.singleton_append, read]
      · exact hpercent
      · exact hline
      · exact fun h _ => hback h
      · exact fun _ _ h _ => hback h

/-- A backslash that escapes nothing is an error. -/
theorem read_backslash {post : List Char} (h : ∀ c ∈ post.head?, isSpecial c = false) :
    read ('\\' :: post) = .error (.ofEscape post) := by
  cases post with
  | nil => rfl
  | cons c post =>
    rw [read, if_neg (Bool.eq_false_iff.mp (h c rfl))]
    rfl

/-- **Induction on the items of a text**, up to its end or its first bad escape. -/
@[elab_as_elim]
theorem itemInduction {motive : List Char → Prop} (nil : motive [])
    (item : ∀ (item : PatternItem) cs, motive cs → motive (item.spelling ++ cs))
    (bad : ∀ post, (∀ c ∈ post.head?, isSpecial c = false) → motive ('\\' :: post))
    (cs : List Char) : motive cs := by
  fun_induction read cs with
  | case1 => exact nil
  | case2 cs ih => exact item .anyRun cs ih
  | case3 cs ih => exact item .anyChar cs ih
  | case4 => exact bad [] nofun
  | case5 c cs hc ih =>
    have := item (.char c) cs ih
    rwa [spelling, if_pos hc] at this
  | case6 c cs hc =>
    refine bad (c :: cs) ?_
    rintro _ ⟨⟩
    exact Bool.eq_false_iff.mpr hc
  | case7 c cs hpercent hline hlast hpair ih =>
    have hback : c ≠ '\\' := by
      intro hc
      cases cs with
      | nil => exact hlast hc rfl
      | cons d ds => exact hpair d ds hc rfl
    have hc := isSpecial_eq_false_iff.mpr ⟨hpercent, hline, hback⟩
    have := item (.char c) cs ih
    rwa [spelling, if_neg (Bool.eq_false_iff.mp hc)] at this

/-- **A text is read as the items that it spells.** -/
theorem read_eq_ok_iff {cs : List Char} {items : List PatternItem} :
    read cs = .ok items ↔ cs = items.flatMap spelling := by
  constructor
  · intro h
    induction cs using itemInduction generalizing items with
    | nil =>
      cases h
      rfl
    | item item cs ih =>
      rw [read_spelling_append] at h
      cases hcs : read cs with
      | error e =>
        rw [hcs] at h
        cases h
      | ok more =>
        rw [hcs] at h
        cases h
        rw [List.flatMap_cons, ← ih hcs]
    | bad post hpost =>
      rw [read_backslash hpost] at h
      cases h
  · rintro rfl
    induction items with
    | nil => rfl
    | cons item items ih =>
      rw [List.flatMap_cons, read_spelling_append, ih]
      rfl

/-! ### Bad escapes -/

/-- An empty text has no bad escape. -/
theorem not_badEscape_nil {pre post : List Char} : ¬ BadEscape [] pre post := by
  intro h
  have hlength := congrArg List.length h.split
  simp at hlength

/-- No item leaves a backslash that would escape what follows it. -/
theorem backslashesAtEnd_spelling_append (item : PatternItem) (cs : List Char) :
    Text.backslashesAtEnd (item.spelling ++ cs) % 2 = Text.backslashesAtEnd cs % 2 := by
  obtain ⟨c, hc, heq⟩ | ⟨c, -, heq⟩ := item.exists_spelling
  · have hrun := Text.backslashesAtEnd_append_cons hc [] cs
    rw [List.nil_append] at hrun
    rw [heq, List.singleton_append, hrun]
  · rw [heq, List.cons_append, List.singleton_append]
    by_cases hc : c = '\\'
    · rw [hc, Text.backslashesAtEnd_backslash_backslash]
    · have hrun := Text.backslashesAtEnd_append_cons hc ['\\'] cs
      rw [List.singleton_append] at hrun
      rw [hrun]

/-- **The bad escapes behind an item** are those of the text behind it. -/
theorem badEscape_spelling_append_iff {item : PatternItem} {cs pre post : List Char} :
    BadEscape (item.spelling ++ cs) pre post ↔
      ∃ pre', pre = item.spelling ++ pre' ∧ BadEscape cs pre' post := by
  constructor
  · rintro ⟨hsplit, heven, hbad⟩
    obtain ⟨pre', rfl, rfl⟩ | ⟨mid, hitem, hmid⟩ := List.append_eq_append_iff.mp hsplit
    · rw [backslashesAtEnd_spelling_append] at heven
      exact ⟨pre', rfl, rfl, heven, hbad⟩
    cases mid with
    | nil =>
      rw [List.append_nil] at hitem
      rw [List.nil_append] at hmid
      exact ⟨[], by rw [hitem, List.append_nil], hmid.symm, rfl, hbad⟩
    | cons d mid =>
      -- A backslash of the item escapes something or is itself escaped.
      obtain ⟨rfl, rfl⟩ := List.cons.inj hmid
      obtain ⟨c, hc, heq⟩ | ⟨c, hc, heq⟩ := item.exists_spelling
      · rw [heq] at hitem
        obtain ⟨rfl, hd⟩ | ⟨_, -, htail⟩ := List.cons_eq_append_iff.mp hitem
        · exact absurd (List.cons.inj hd).1.symm hc
        · simp at htail
      · rw [heq] at hitem
        obtain ⟨rfl, hd⟩ | ⟨pre, rfl, htail⟩ := List.cons_eq_append_iff.mp hitem
        · cases hd
          rw [hbad c rfl] at hc
          cases hc
        obtain ⟨rfl, -⟩ | ⟨_, -, htail⟩ := List.cons_eq_append_iff.mp htail
        · cases heven
        · simp at htail
  · rintro ⟨pre', rfl, rfl, heven, hbad⟩
    refine ⟨(List.append_assoc ..).symm, ?_, hbad⟩
    rw [backslashesAtEnd_spelling_append, heven]

/-- A backslash that escapes nothing is the first bad escape of the text that it begins. -/
theorem firstBadEscape_backslash {post : List Char}
    (h : ∀ c ∈ post.head?, isSpecial c = false) : FirstBadEscape ('\\' :: post) [] post :=
  ⟨⟨rfl, rfl, h⟩, fun _ _ _ => Nat.zero_le _⟩

/-- The first bad escape is determined by its text. -/
theorem FirstBadEscape.unique {cs pre pre' post post' : List Char} (h : FirstBadEscape cs pre post)
    (h' : FirstBadEscape cs pre' post') : post = post' := by
  obtain ⟨hbad, hfirst⟩ := h
  obtain ⟨hbad', hfirst'⟩ := h'
  have hlength := Nat.le_antisymm (hfirst pre' post' hbad') (hfirst' pre post hbad)
  have heq := (hbad.split.symm.trans hbad'.split)
  exact (List.cons.inj (List.append_inj heq hlength).2).2

/-- **What a text is read as** if it has a bad escape, and if it has none. -/
theorem read_cases (cs : List Char) :
    (∃ items, read cs = .ok items ∧ ∀ pre post, ¬ BadEscape cs pre post) ∨
      ∃ pre post, FirstBadEscape cs pre post ∧ read cs = .error (.ofEscape post) := by
  induction cs using itemInduction with
  | nil => exact .inl ⟨[], rfl, fun _ _ => not_badEscape_nil⟩
  | item item cs ih =>
    rw [read_spelling_append]
    obtain ⟨items, hread, hnone⟩ | ⟨pre, post, ⟨hbad, hfirst⟩, hread⟩ := ih
    · refine .inl ⟨item :: items, by rw [hread]; rfl, ?_⟩
      intro pre post h
      obtain ⟨pre', -, h⟩ := badEscape_spelling_append_iff.mp h
      exact hnone pre' post h
    · refine .inr ⟨item.spelling ++ pre, post, ⟨?_, ?_⟩, by rw [hread]; rfl⟩
      · exact badEscape_spelling_append_iff.mpr ⟨pre, rfl, hbad⟩
      · intro pre' post' h
        obtain ⟨more, rfl, hmore⟩ := badEscape_spelling_append_iff.mp h
        rw [List.length_append, List.length_append]
        exact Nat.add_le_add_left (hfirst more post' hmore) _
  | bad post hpost => exact .inr ⟨[], post, firstBadEscape_backslash hpost, read_backslash hpost⟩

/-- **A text is read as items** if and only if it has no bad escape. -/
theorem exists_read_eq_ok_iff {cs : List Char} :
    (∃ items, read cs = .ok items) ↔ ¬ ∃ pre post, BadEscape cs pre post := by
  obtain ⟨items, hread, hnone⟩ | ⟨pre, post, ⟨hbad, -⟩, hread⟩ := read_cases cs
  · exact iff_of_true ⟨items, hread⟩ fun ⟨pre, post, h⟩ => hnone pre post h
  · refine iff_of_false ?_ fun h => h ⟨pre, post, hbad⟩
    rintro ⟨items, h⟩
    rw [hread] at h
    cases h

/-- **The error of a text** is that of its first bad escape. -/
theorem read_eq_error_iff {cs : List Char} {e : PatternError} :
    read cs = .error e ↔ ∃ pre post, FirstBadEscape cs pre post ∧ e = .ofEscape post := by
  obtain ⟨items, hread, hnone⟩ | ⟨pre, post, hfirst, hread⟩ := read_cases cs
  · refine iff_of_false ?_ ?_
    · rw [hread]
      exact nofun
    · rintro ⟨pre, post, ⟨hbad, -⟩, -⟩
      exact hnone pre post hbad
  · rw [hread]
    constructor
    · rintro ⟨⟩
      exact ⟨pre, post, hfirst, rfl⟩
    · rintro ⟨pre', post', hfirst', rfl⟩
      rw [hfirst.unique hfirst']

end PatternItem

end EventFilter
