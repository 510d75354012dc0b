import Mathlib.Data.List.Forall2
import EventFilter.Proofs.Pattern.Spelling

/-!
# What patterns match

A pattern matches the texts that can be cut into pieces, one for each of its items in order, so that
every item takes its piece (`PatternItem.Cuts`). Matching does not look for such a cut: it keeps for
every place of the text whether the items so far match what is left there, and what is shown of it
is that each item, from the last to the first, leads from the right answers to the right answers at
all places (`PatternItem.Answers.extend`).
Main statement: which texts are patterns, what is wrong with the others, what patterns are made of,
and which texts they match (`Pattern.ofText_and_accepts`).
-/

namespace EventFilter

namespace PatternItem

/-- **The pieces of a text that an item takes**: any at all, one character, or one certain
character. -/
inductive Takes : PatternItem → List Char → Prop
  | anyRun (piece : List Char) : Takes .anyRun piece
  | anyChar (c : Char) : Takes .anyChar [c]
  | char (c : Char) : Takes (.char c) [c]

/-- **A text can be cut into pieces** that items take, one piece for each item in order. -/
def Cuts (items : List PatternItem) (cs : List Char) : Prop :=
  ∃ pieces, List.Forall₂ Takes items pieces ∧ pieces.flatten = cs

/-- A list answers, for every place of a text and its end, whether what is left there has a
property. -/
def Answers (P : List Char → Prop) (cs : List Char) (answers : List Bool) : Prop :=
  List.Forall₂ (fun rest answer => answer = true ↔ P rest) cs.tails answers

variable {items : List PatternItem} {c d : Char} {cs : List Char} {answers : List Bool}
  {P : List Char → Prop}

/-! ### Cuts -/

/-- No items cut the empty text only. -/
theorem cuts_nil : Cuts [] cs ↔ cs = [] := by
  constructor
  · rintro ⟨_, ⟨⟩, rfl⟩
    rfl
  · rintro rfl
    exact ⟨[], .nil, rfl⟩

/-- The first item takes a piece at the front. -/
theorem cuts_cons {item : PatternItem} : Cuts (item :: items) cs ↔
    ∃ piece rest, item.Takes piece ∧ Cuts items rest ∧ cs = piece ++ rest := by
  constructor
  · rintro ⟨_, _ | ⟨hitem, hitems⟩, rfl⟩
    exact ⟨_, _, hitem, ⟨_, hitems, rfl⟩, List.flatten_cons⟩
  · rintro ⟨piece, _, hitem, ⟨pieces, hitems, rfl⟩, rfl⟩
    exact ⟨piece :: pieces, .cons hitem hitems, List.flatten_cons⟩

/-- A run takes nothing, or the first character and what a run takes behind it. -/
theorem cuts_anyRun : Cuts (.anyRun :: items) cs ↔
    Cuts items cs ∨ ∃ c more, cs = c :: more ∧ Cuts (.anyRun :: items) more := by
  constructor
  · intro h
    obtain ⟨piece, rest, -, hrest, rfl⟩ := cuts_cons.mp h
    cases piece with
    | nil => exact .inl hrest
    | cons c piece =>
      exact .inr ⟨c, piece ++ rest, rfl, cuts_cons.mpr ⟨piece, rest, .anyRun piece, hrest, rfl⟩⟩
  · rintro (h | ⟨c, more, rfl, h⟩)
    · exact cuts_cons.mpr ⟨[], cs, .anyRun [], h, rfl⟩
    · obtain ⟨piece, rest, -, hrest, rfl⟩ := cuts_cons.mp h
      exact cuts_cons.mpr ⟨c :: piece, rest, .anyRun _, hrest, rfl⟩

/-- Any character takes the first one. -/
theorem cuts_anyChar :
    Cuts (.anyChar :: items) cs ↔ ∃ c more, cs = c :: more ∧ Cuts items more := by
  constructor
  · intro h
    obtain ⟨_, rest, ⟨⟩, hrest, rfl⟩ := cuts_cons.mp h
    exact ⟨_, rest, rfl, hrest⟩
  · rintro ⟨c, more, rfl, h⟩
    exact cuts_cons.mpr ⟨[c], more, .anyChar c, h, rfl⟩

/-- A certain character takes the first one if that is it. -/
theorem cuts_char : Cuts (.char c :: items) cs ↔ ∃ more, cs = c :: more ∧ Cuts items more := by
  constructor
  · intro h
    obtain ⟨_, rest, ⟨⟩, hrest, rfl⟩ := cuts_cons.mp h
    exact ⟨rest, rfl, hrest⟩
  · rintro ⟨more, rfl, h⟩
    exact cuts_cons.mpr ⟨[c], more, .char c, h, rfl⟩

/-! ### Answers at all places -/

/-- The end is the only place of the empty text. -/
theorem answers_nil : Answers P [] answers ↔ ∃ b, answers = [b] ∧ (b = true ↔ P []) := by
  unfold Answers
  simp only [List.tails, List.forall₂_cons_left_iff, List.forall₂_nil_left_iff]
  constructor
  · rintro ⟨b, _, hb, rfl, rfl⟩
    exact ⟨b, rfl, hb⟩
  · rintro ⟨b, rfl, hb⟩
    exact ⟨b, [], hb, rfl, rfl⟩

/-- The first place of a text comes before those of its rest. -/
theorem answers_cons : Answers P (c :: cs) answers ↔
    ∃ b more, answers = b :: more ∧ (b = true ↔ P (c :: cs)) ∧ Answers P cs more := by
  unfold Answers
  simp only [List.tails, List.forall₂_cons_left_iff]
  constructor
  · rintro ⟨b, more, hb, hmore, rfl⟩
    exact ⟨b, more, rfl, hb, hmore⟩
  · rintro ⟨b, more, rfl, hb, hmore⟩
    exact ⟨b, more, hb, hmore, rfl⟩

/-- The first answer is about the whole text. -/
theorem Answers.exists_head (h : Answers P cs answers) :
    ∃ b more, answers = b :: more ∧ (b = true ↔ P cs) := by
  cases cs with
  | nil =>
    obtain ⟨b, rfl, hb⟩ := answers_nil.mp h
    exact ⟨b, [], rfl, hb⟩
  | cons c cs =>
    obtain ⟨b, more, rfl, hb, -⟩ := answers_cons.mp h
    exact ⟨b, more, rfl, hb⟩

/-- The first answer, if there were none `false`, is about the whole text. -/
theorem Answers.headD_iff (h : Answers P cs answers) : answers.headD false = true ↔ P cs := by
  obtain ⟨b, more, rfl, hb⟩ := h.exists_head
  exact hb

/-- Without items, the answer is yes at the end of the text only. -/
theorem answers_end (cs : List Char) :
    Answers (Cuts []) cs (cs.map (fun _ => false) ++ [true]) := by
  induction cs with
  | nil => exact answers_nil.mpr ⟨true, rfl, iff_of_true rfl (cuts_nil.mpr rfl)⟩
  | cons c cs ih =>
    refine answers_cons.mpr ⟨false, _, rfl, ?_, ih⟩
    exact iff_of_false Bool.false_ne_true (mt cuts_nil.mp (List.cons_ne_nil c cs))

/-- It holds at the first place or later. -/
theorem laterOr_cons (b : Bool) (more : List Bool) :
    laterOr (b :: more) = (b || (laterOr more).headD false) :: laterOr more := rfl

/-- The answers for a run before the items. -/
theorem Answers.anyRun (h : Answers (Cuts items) cs answers) :
    Answers (Cuts (.anyRun :: items)) cs (laterOr answers) := by
  induction cs generalizing answers with
  | nil =>
    obtain ⟨b, rfl, hb⟩ := answers_nil.mp h
    refine answers_nil.mpr ⟨b, by simp [laterOr], ?_⟩
    rw [cuts_anyRun, hb]
    simp
  | cons c cs ih =>
    obtain ⟨b, more, rfl, hb, hmore⟩ := answers_cons.mp h
    have hcut : Cuts (.anyRun :: items) (c :: cs) ↔
        Cuts items (c :: cs) ∨ Cuts (.anyRun :: items) cs := by
      rw [cuts_anyRun]
      simp
    refine answers_cons.mpr ⟨_, _, laterOr_cons b more, ?_, ih hmore⟩
    rw [Bool.or_eq_true, (ih hmore).headD_iff, hb, hcut]

/-- The answers for any character before the items. -/
theorem Answers.anyChar (h : Answers (Cuts items) cs answers) :
    Answers (Cuts (.anyChar :: items)) cs (answers.tail ++ [false]) := by
  induction cs generalizing answers with
  | nil =>
    obtain ⟨b, rfl, -⟩ := answers_nil.mp h
    refine answers_nil.mpr ⟨false, rfl, ?_⟩
    rw [cuts_anyChar]
    simp
  | cons c cs ih =>
    obtain ⟨b, more, rfl, -, hmore⟩ := answers_cons.mp h
    obtain ⟨b', more', rfl, hb'⟩ := hmore.exists_head
    refine answers_cons.mpr ⟨b', more' ++ [false], rfl, ?_, ih hmore⟩
    rw [hb', cuts_anyChar]
    simp

/-- The answers for a certain character before the items. -/
theorem Answers.char (h : Answers (Cuts items) cs answers) :
    Answers (Cuts (.char c :: items)) cs
      (cs.zipWith (fun d later => d == c && later) answers.tail ++ [false]) := by
  induction cs generalizing answers with
  | nil =>
    obtain ⟨b, rfl, -⟩ := answers_nil.mp h
    refine answers_nil.mpr ⟨false, rfl, ?_⟩
    rw [cuts_char]
    simp
  | cons d cs ih =>
    obtain ⟨b, more, rfl, -, hmore⟩ := answers_cons.mp h
    obtain ⟨b', more', rfl, hb'⟩ := hmore.exists_head
    refine answers_cons.mpr ⟨d == c && b', _, rfl, ?_, ih hmore⟩
    rw [Bool.and_eq_true, beq_iff_eq, hb', cuts_char]
    simp

/-- **An item leads from the right answers to the right answers.** -/
theorem Answers.extend (item : PatternItem) (h : Answers (Cuts items) cs answers) :
    Answers (Cuts (item :: items)) cs (item.extend cs answers) := by
  cases item with
  | anyRun => exact h.anyRun
  | anyChar => exact h.anyChar
  | char c => exact h.char

/-- **Matching answers at every place of the text** whether the items cut what is left there. -/
theorem answers_matchesFrom (items : List PatternItem) (cs : List Char) :
    Answers (Cuts items) cs (matchesFrom items cs) := by
  induction items with
  | nil => exact answers_end cs
  | cons item items ih => exact ih.extend item

end PatternItem

namespace Pattern

open PatternItem

/-- A text is a pattern if it is read as items. -/
theorem exists_ofText_eq_ok_iff {text : String} :
    (∃ p, ofText text = .ok p) ↔ ∃ items, read text.toList = .ok items := by
  unfold ofText
  constructor
  · rintro ⟨p, h⟩
    split at h
    · exact ⟨_, ‹_›⟩
    · cases h
  · rintro ⟨items, h⟩
    split
    · exact ⟨_, rfl⟩
    · rename_i herror
      rw [h] at herror
      cases herror

/-- The error of a text is that of reading its items. -/
theorem ofText_eq_error_iff {text : String} {e : PatternError} :
    ofText text = .error e ↔ read text.toList = .error e := by
  unfold ofText
  split
  · rename_i items h
    refine iff_of_false nofun ?_
    intro herror
    rw [h] at herror
    cases herror
  · rename_i h
    rw [h, Except.error.injEq, Except.error.injEq]

/-- **A pattern matches the texts that its items cut.** -/
theorem accepts_iff (p : Pattern) (text : String) :
    p.accepts text = true ↔ Cuts p.items text.toList :=
  (answers_matchesFrom p.items text.toList).headD_iff

/-- **LIKE patterns are globs.** A text is a pattern if and only if all of its backslashes that are
not themselves escaped stand before a character that they can escape, and otherwise the error is
that of the first one that does not. The pattern that a text makes is the one with that text. It is
made of the items that the text spells, and matches exactly the texts that can be cut into pieces,
one for each item in order. -/
theorem ofText_and_accepts :
    (∀ text, (∃ p, ofText text = .ok p) ↔ ¬ ∃ pre post, BadEscape text.toList pre post) ∧
    (∀ text e, ofText text = .error e ↔
      ∃ pre post, FirstBadEscape text.toList pre post ∧ e = .ofEscape post) ∧
    (∀ text p, ofText text = .ok p ↔ p.text = text) ∧
    ∀ p : Pattern, p.text.toList = p.items.flatMap spelling ∧
      ∀ text, p.accepts text = true ↔
        ∃ pieces, List.Forall₂ Takes p.items pieces ∧ pieces.flatten = text.toList :=
  ⟨fun _ => exists_ofText_eq_ok_iff.trans exists_read_eq_ok_iff,
    fun _ _ => ofText_eq_error_iff.trans read_eq_error_iff,
    fun _ _ => ofText_eq_ok_iff,
    fun p => ⟨read_eq_ok_iff.mp p.read_text, p.accepts_iff⟩⟩

end Pattern

end EventFilter
