import EventFilter.Json.Reader
import EventFilter.Text.Blank
import Mathlib.Data.List.TakeWhile

/-!
# Reading JSON before more text

A reader of JSON looks no further than the first character that cannot go on a number, so what it
reads it also reads before more text, if that begins with such a character or is empty (`Stops`).
Each reader comes with one statement that says so, and the statements are put together as the
readers are (`Parsed.CarriesOver`).
Main statements: a value that is read is read before more text (`Json.carriesOver_value?`), so that
a text that is one value is none before anything but white space (`Json.read?_append`).
-/

namespace EventFilter

namespace Parsed

variable {τ α β : Type} {a : α} {b : β} {more rest rest' : List τ} {m m' n n' : Nat}

/-- **A reader yields a value** and leaves a rest. -/
def Yields (x : Option (Parsed τ α n)) (a : α) (rest : List τ) : Prop :=
  ∃ h, x = some ⟨a, rest, h⟩

namespace Yields

/-- What has been read is yielded. -/
theorem some (p : Parsed τ α n) : Yields (some p) p.value p.rest := ⟨p.shorter, rfl⟩

/-- Readers one after the other. -/
theorem bind {x : Option (Parsed τ α m)} {f : Parsed τ α m → Option (Parsed τ β n)}
    (hx : Yields x a rest) (hf : ∀ h, Yields (f ⟨a, rest, h⟩) b rest') :
    Yields (x >>= f) b rest' := by
  obtain ⟨h, rfl⟩ := hx
  exact hf h

/-- A reader under a larger bound. -/
theorem widen {x : Option (Parsed τ α m)} (hx : Yields x a rest) (h : m ≤ n) :
    Yields (x.map (·.widen h)) a rest := by
  obtain ⟨hshorter, rfl⟩ := hx
  exact ⟨_, rfl⟩

end Yields

/-- **What one reader makes of a text carries over** to another one, which is given the same text
with more behind it. -/
def CarriesOver (more : List τ) (x : Option (Parsed τ α m)) (y : Option (Parsed τ α n)) : Prop :=
  ∀ p, x = some p → Yields y p.value (p.rest ++ more)

namespace CarriesOver

/-- Nothing is carried over where nothing is read. -/
theorem none {y : Option (Parsed τ α n)} :
    CarriesOver more (none : Option (Parsed τ α m)) y := nofun

/-- What has been read is carried over with more text left. -/
theorem some {p : Parsed τ α m} {q : Parsed τ α n} (hvalue : q.value = p.value)
    (hrest : q.rest = p.rest ++ more) : CarriesOver more (some p) (some q) := by
  rintro _ ⟨⟩
  obtain ⟨value, rest, hshorter⟩ := q
  cases hvalue
  cases hrest
  exact ⟨hshorter, rfl⟩

/-- Readers one after the other. -/
theorem bind {x : Option (Parsed τ α m)} {y : Option (Parsed τ α m')}
    {f : Parsed τ α m → Option (Parsed τ β n)} {g : Parsed τ α m' → Option (Parsed τ β n')}
    (hx : CarriesOver more x y)
    (hf : ∀ p h, CarriesOver more (f p) (g ⟨p.value, p.rest ++ more, h⟩)) :
    CarriesOver more (x >>= f) (y >>= g) := by
  intro q hq
  obtain ⟨p, hp, hq⟩ := Option.bind_eq_some_iff.mp hq
  obtain ⟨h, hy⟩ := hx p hp
  rw [hy]
  exact hf p h q hq

/-- A step that looks at no text. -/
theorem bind_step {x : Option β} {f : β → Option (Parsed τ α m)} {g : β → Option (Parsed τ α n)}
    (hf : ∀ b, CarriesOver more (f b) (g b)) : CarriesOver more (x >>= f) (x >>= g) := by
  cases x with
  | none => exact none
  | some b => exact hf b

/-- A reader under a larger bound. -/
theorem widen {x : Option (Parsed τ α m)} {y : Option (Parsed τ α m')} (h : CarriesOver more x y)
    (hm : m ≤ n) (hm' : m' ≤ n') : CarriesOver more (x.map (·.widen hm)) (y.map (·.widen hm')) := by
  intro q hq
  obtain ⟨p, hp, rfl⟩ := Option.map_eq_some_iff.mp hq
  obtain ⟨hshorter, hy⟩ := h p hp
  rw [hy]
  exact ⟨_, rfl⟩

/-- One of two readers. -/
theorem ite {c : Prop} [Decidable c] {x x' : Option (Parsed τ α m)} {y y' : Option (Parsed τ α n)}
    (h : CarriesOver more x y) (h' : CarriesOver more x' y') :
    CarriesOver more (if c then x else x') (if c then y else y') := by
  split
  · exact h
  · exact h'

end CarriesOver

end Parsed

namespace Json

open Parsed (Yields CarriesOver)

/-! ### Parts of numbers and strings -/

/-- **A text that goes on no number.** -/
def Stops (more : List Char) : Prop :=
  ∀ c ∈ more.head?, c.isDigit = false ∧ c ≠ '.' ∧ c ≠ 'e' ∧ c ≠ 'E'

variable {more cs : List Char}

/-- What a text begins with decides whether it goes on a number. -/
theorem stops_cons_iff {c : Char} :
    Stops (c :: cs) ↔ c.isDigit = false ∧ c ≠ '.' ∧ c ≠ 'e' ∧ c ≠ 'E' := by
  simp [Stops]

/-- The next character is what is left without white space. -/
theorem next?_eq_some_iff {p : Parsed Char Char cs.length} :
    next? cs = some p ↔ skip cs = p.value :: p.rest := by
  unfold next?
  split
  · rename_i h
    simp [h]
  · rename_i c rest h
    obtain ⟨value, rest', hshorter⟩ := p
    simp [h]

/-- White space in front is skipped. -/
theorem skip_append_of_isSpace {front : List Char} (hfront : ∀ c ∈ front, isSpace c = true)
    (cs : List Char) : skip (front ++ cs) = skip cs := by
  unfold skip
  rw [List.dropWhile_append_of_pos hfront]

/-- White space is skipped before more text. -/
theorem skip_append {c : Char} {rest : List Char} (h : skip cs = c :: rest) (more : List Char) :
    skip (cs ++ more) = c :: (rest ++ more) := by
  unfold skip at h ⊢
  rw [List.dropWhile_append, h]
  rfl

/-- The next character, whatever white space there is in front. -/
theorem carriesOver_next?_append {front : List Char} (hfront : ∀ c ∈ front, isSpace c = true)
    (more cs : List Char) :
    CarriesOver more (next? cs) (next? (front ++ (cs ++ more))) := by
  intro p hp
  have hlt := p.shorter
  have hskip : skip (front ++ (cs ++ more)) = p.value :: (p.rest ++ more) := by
    rw [skip_append_of_isSpace hfront]
    exact skip_append (next?_eq_some_iff.mp hp) more
  exact ⟨by simp only [List.length_append]; omega, next?_eq_some_iff.mpr hskip⟩

/-- The next character. -/
theorem carriesOver_next? (more cs : List Char) :
    CarriesOver more (next? cs) (next? (cs ++ more)) :=
  carriesOver_next?_append (List.forall_mem_nil _) more cs

/-- Four hexadecimal digits. -/
theorem carriesOver_hexUnit? (more cs : List Char) :
    CarriesOver more (hexUnit? cs) (hexUnit? (cs ++ more)) := by
  unfold hexUnit?
  split
  · refine .bind_step fun p => .bind_step fun q => .bind_step fun r => .bind_step fun s => ?_
    exact .some rfl rfl
  · exact .none

/-- An escape. -/
theorem carriesOver_escape? (more cs : List Char) :
    CarriesOver more (escape? cs) (escape? (cs ++ more)) := by
  cases cs with
  | nil => exact .none
  | cons c cs =>
    unfold escape?
    rw [List.cons_append]
    simp only
    split
    · exact .some rfl rfl
    · refine .ite (.bind (carriesOver_hexUnit? more cs) fun high h => ?_) .none
      refine .ite ?_ (.ite .none (.some rfl rfl))
      split
      · rename_i rest' hrest
        have hmoved : high.rest ++ more = '\\' :: 'u' :: (rest' ++ more) := by rw [hrest]; rfl
        split
        · rename_i hrest'
          cases hmoved.symm.trans hrest'
          exact .bind (carriesOver_hexUnit? more rest') fun low _ => .ite (.some rfl rfl) .none
        · rename_i hother
          exact absurd hmoved (hother _)
      · exact .none

/-- The rest of a string. -/
theorem carriesOver_stringTail? (more cs : List Char) :
    CarriesOver more (stringTail? cs) (stringTail? (cs ++ more)) := by
  rw [stringTail?.eq_def, stringTail?.eq_def]
  cases cs with
  | nil => exact .none
  | cons c cs =>
    rw [List.cons_append]
    simp only
    refine .ite (.some rfl rfl) (.ite ?_ (.ite .none ?_))
    · refine .bind (carriesOver_escape? more cs) fun d h => ?_
      exact .bind (carriesOver_stringTail? more d.rest) fun tail h => .some rfl rfl
    · exact .bind (carriesOver_stringTail? more cs) fun tail h => .some rfl rfl
termination_by cs.length
decreasing_by
  · have := d.shorter
    simp only [List.length_cons]
    omega
  · simp

/-- Characters of a class end where they end, whatever follows, unless that is of the class too. -/
theorem span_append_of_head {p : Char → Bool} (hmore : ∀ c ∈ more.head?, p c = false)
    (cs : List Char) : (cs ++ more).takeWhile p = cs.takeWhile p ∧
      (cs ++ more).dropWhile p = cs.dropWhile p ++ more := by
  induction cs with
  | nil =>
    cases more with
    | nil => exact ⟨rfl, rfl⟩
    | cons d ds => simp [hmore d rfl]
  | cons c cs ih => by_cases hc : p c = true <;> simp [hc, ih]

/-- One or more digits. -/
theorem carriesOver_digits? (hmore : Stops more) (cs : List Char) :
    CarriesOver more (digits? cs) (digits? (cs ++ more)) := by
  cases cs with
  | nil => exact .none
  | cons c cs =>
    obtain ⟨htake, hdrop⟩ := span_append_of_head (fun d hd => (hmore d hd).1) cs
    unfold digits?
    exact .ite (.some (congrArg (c :: ·) htake) hdrop) .none

/-- There is no fraction without a decimal point. -/
theorem fraction?_eq_none (h : cs.head? ≠ some '.') :
    fraction? cs = some ⟨none, cs, Nat.lt_succ_self _⟩ := by
  unfold fraction?
  split
  · exact absurd rfl h
  · rfl

/-- The part of a number behind its decimal point. -/
theorem carriesOver_fraction? (hmore : Stops more) (cs : List Char) :
    CarriesOver more (fraction? cs) (fraction? (cs ++ more)) := by
  by_cases hpoint : cs.head? = some '.'
  · obtain ⟨rest, rfl⟩ := List.head?_eq_some_iff.mp hpoint
    exact .bind (carriesOver_digits? hmore rest) fun ds _ => .some rfl rfl
  · have hpoint' : (cs ++ more).head? ≠ some '.' := by
      cases cs with
      | nil => exact fun hmem => (hmore '.' hmem).2.1 rfl
      | cons c cs => exact hpoint
    rw [fraction?_eq_none hpoint, fraction?_eq_none hpoint']
    exact .some rfl rfl

/-- Anything but a minus and a plus is no sign. -/
theorem exponentSign_eq (hminus : cs.head? ≠ some '-') (hplus : cs.head? ≠ some '+') :
    exponentSign cs = ⟨false, cs, Nat.lt_succ_self _⟩ := by
  unfold exponentSign
  split
  · exact absurd rfl hminus
  · exact absurd rfl hplus
  · rfl

/-- The sign of an exponent is the first character or is not there. -/
theorem exponentSign_append (c : Char) (cs more : List Char) :
    (exponentSign (c :: (cs ++ more))).value = (exponentSign (c :: cs)).value ∧
      (exponentSign (c :: (cs ++ more))).rest = (exponentSign (c :: cs)).rest ++ more := by
  by_cases hminus : c = '-'
  · subst hminus
    exact ⟨rfl, rfl⟩
  by_cases hplus : c = '+'
  · subst hplus
    exact ⟨rfl, rfl⟩
  have hne {d : Char} (h : c ≠ d) (ds : List Char) : (c :: ds).head? ≠ some d :=
    fun heq => h (Option.some.inj heq)
  rw [exponentSign_eq (hne hminus _) (hne hplus _), exponentSign_eq (hne hminus _) (hne hplus _)]
  exact ⟨rfl, rfl⟩

/-- There is no exponent without its letter. -/
theorem exponent?_eq_none (h : ∀ c ∈ cs.head?, c ≠ 'e' ∧ c ≠ 'E') :
    exponent? cs = some ⟨none, cs, Nat.lt_succ_self _⟩ := by
  cases cs with
  | nil => rfl
  | cons c cs =>
    obtain ⟨hlower, hupper⟩ := h c rfl
    exact if_neg (not_or.mpr ⟨hlower, hupper⟩)

/-- The exponent of a number. -/
theorem carriesOver_exponent? (hmore : Stops more) (cs : List Char) :
    CarriesOver more (exponent? cs) (exponent? (cs ++ more)) := by
  cases cs with
  | nil =>
    rw [List.nil_append, exponent?_eq_none fun d hd => (hmore d hd).2.2]
    exact .some rfl rfl
  | cons c cs =>
    refine .ite ?_ (.some rfl rfl)
    cases cs with
    | nil => exact .none
    | cons d ds =>
      obtain ⟨hvalue, hrest⟩ := exponentSign_append d ds more
      have hdigits : CarriesOver more (digits? (exponentSign (d :: ds)).rest)
          (digits? (exponentSign (d :: (ds ++ more))).rest) := by
        rw [hrest]
        exact carriesOver_digits? hmore _
      refine .bind hdigits fun digits _ => .some ?_ rfl
      exact congrArg (fun sign => some (if sign = true then _ else _)) hvalue

/-- A number. -/
theorem carriesOver_number? (hmore : Stops more) (negative : Bool) (cs : List Char) :
    CarriesOver more (number? negative cs) (number? negative (cs ++ more)) := by
  refine .bind (carriesOver_digits? hmore cs) fun whole _ => .ite .none ?_
  refine .bind (carriesOver_fraction? hmore whole.rest) fun fraction _ => ?_
  refine .bind (carriesOver_exponent? hmore fraction.rest) fun exponent _ => ?_
  exact .bind_step fun value => .some rfl rfl

/-- A word. -/
theorem carriesOver_word? (word : List Char) (value : Json) (more cs : List Char) :
    CarriesOver more (word? word value cs) (word? word value (cs ++ more)) := by
  unfold word?
  split
  · rename_i hword
    have hfront := List.isPrefixOf_iff_prefix.mp hword
    rw [if_pos (List.isPrefixOf_iff_prefix.mpr (hfront.trans (List.prefix_append cs more)))]
    exact .some rfl (List.drop_append_of_le_length hfront.length_le)
  · exact .none

mutual

/-- **A value is read before more text**, whatever white space there is in front. -/
theorem carriesOver_value? {front : List Char} (hfront : ∀ c ∈ front, isSpace c = true)
    (hmore : Stops more) (depth : Nat) (cs : List Char) :
    CarriesOver more (value? depth cs) (value? depth (front ++ (cs ++ more))) := by
  rw [value?.eq_def, value?.eq_def]
  refine .bind (carriesOver_next?_append hfront more cs) fun c _ => ?_
  refine .ite (.widen (carriesOver_word? _ _ more c.rest) _ _) ?_
  refine .ite (.widen (carriesOver_word? _ _ more c.rest) _ _) ?_
  refine .ite (.widen (carriesOver_word? _ _ more c.rest) _ _) ?_
  refine .ite (.bind (carriesOver_stringTail? more c.rest) fun s _ => .some rfl rfl) ?_
  refine .ite (.bind (carriesOver_number? hmore _ c.rest) fun n _ => .some rfl rfl) ?_
  refine .ite (.bind (carriesOver_number? hmore _ (c.value :: c.rest)) fun n _ => .some rfl rfl) ?_
  refine .ite ?_ (.ite ?_ .none)
  · cases depth with
    | zero => exact .none
    | succ depth =>
      refine .bind (carriesOver_next? more c.rest) fun d _ => .ite (.some rfl rfl) ?_
      exact .bind (carriesOver_items? hmore depth c.rest) fun items _ => .some rfl rfl
  · cases depth with
    | zero => exact .none
    | succ depth =>
      refine .bind (carriesOver_next? more c.rest) fun d _ => .ite (.some rfl rfl) ?_
      exact .bind (carriesOver_members? hmore depth c.rest) fun members _ => .some rfl rfl
termination_by 3 * cs.length
decreasing_by
  all_goals
    have := c.shorter
    omega

/-- The items of an array. -/
theorem carriesOver_items? (hmore : Stops more) (depth : Nat) (cs : List Char) :
    CarriesOver more (items? depth cs) (items? depth (cs ++ more)) := by
  rw [items?.eq_def, items?.eq_def]
  refine .bind (carriesOver_value? (List.forall_mem_nil _) hmore depth cs) fun first _ => ?_
  refine .bind (carriesOver_next? more first.rest) fun c _ => ?_
  refine .ite (.bind (carriesOver_items? hmore depth c.rest) fun items _ => .some rfl rfl) ?_
  exact .ite (.some rfl rfl) .none
termination_by 3 * cs.length + 1
decreasing_by
  · omega
  · have h₁ := first.shorter
    have h₂ := c.shorter
    omega

/-- The members of an object. -/
theorem carriesOver_members? (hmore : Stops more) (depth : Nat) (cs : List Char) :
    CarriesOver more (members? depth cs) (members? depth (cs ++ more)) := by
  rw [members?.eq_def, members?.eq_def]
  refine .bind (carriesOver_member? hmore depth cs) fun first _ => ?_
  refine .bind (carriesOver_next? more first.rest) fun c _ => ?_
  refine .ite (.bind (carriesOver_members? hmore depth c.rest) fun items _ => .some rfl rfl) ?_
  exact .ite (.some rfl rfl) .none
termination_by 3 * cs.length + 2
decreasing_by
  · omega
  · have h₁ := first.shorter
    have h₂ := c.shorter
    omega

/-- A member of an object. -/
theorem carriesOver_member? (hmore : Stops more) (depth : Nat) (cs : List Char) :
    CarriesOver more (member? depth cs) (member? depth (cs ++ more)) := by
  rw [member?.eq_def, member?.eq_def]
  refine .bind (carriesOver_next? more cs) fun quote _ => .ite ?_ .none
  refine .bind (carriesOver_stringTail? more quote.rest) fun key _ => ?_
  refine .bind (carriesOver_next? more key.rest) fun colon _ => .ite ?_ .none
  refine .bind (carriesOver_value? (List.forall_mem_nil _) hmore depth colon.rest) fun v _ => ?_
  exact .some rfl rfl
termination_by 3 * cs.length + 1
decreasing_by
  have h₁ := quote.shorter
  have h₂ := key.shorter
  have h₃ := colon.shorter
  omega

end

/-! ### Texts -/

variable {front : List Char} {value : Json}

/-- A text has a value if one is read and nothing but white space is left. -/
theorem read?_eq_some_iff :
    read? cs = some value ↔ ∃ rest, Yields (value? maxDepth cs) value rest ∧ skip rest = [] := by
  unfold read?
  constructor
  · intro h
    obtain ⟨p, hp, h⟩ := Option.bind_eq_some_iff.mp h
    split at h
    · rename_i hrest
      cases h
      exact ⟨p.rest, hp ▸ Yields.some p, hrest⟩
    · cases h
  · rintro ⟨rest, ⟨hshorter, hvalue⟩, hrest⟩
    rw [hvalue, Option.bind_eq_bind, Option.bind_some]
    simp only [hrest]

/-- Without white space nothing is left of a text of white space. -/
theorem skip_eq_nil_iff : skip cs = [] ↔ ∀ c ∈ cs, isSpace c = true :=
  List.dropWhile_eq_nil_iff

/-- **A text that has a value** has it still between white space and has none before anything
else. -/
theorem read?_append (hfront : ∀ c ∈ front, isSpace c = true) (hmore : Stops more)
    (h : read? cs = some value) :
    read? (front ++ (cs ++ more)) = if skip more = [] then some value else none := by
  obtain ⟨rest, hyields, hrest⟩ := read?_eq_some_iff.mp h
  obtain ⟨_, hvalue⟩ := hyields
  obtain ⟨_, hwhole⟩ := carriesOver_value? hfront hmore maxDepth cs _ hvalue
  have hskip : skip (rest ++ more) = skip more :=
    skip_append_of_isSpace (skip_eq_nil_iff.mp hrest) more
  rw [read?, hwhole, Option.bind_eq_bind, Option.bind_some]
  simp only [hskip]
  split <;> simp_all

/-! ### Blank characters around a value -/

/-- White space goes on no number. -/
theorem stops_of_isSpace {c : Char} (h : isSpace c = true) (cs : List Char) : Stops (c :: cs) := by
  simp only [isSpace, Bool.or_eq_true, beq_iff_eq] at h
  rcases h with ((rfl | rfl) | rfl) | rfl <;> exact stops_cons_iff.mpr (by decide)

/-- White space is blank. -/
theorem isBlank_of_isSpace {c : Char} (h : isSpace c = true) : Text.isBlank c = true := by
  simp only [isSpace, Bool.or_eq_true, beq_iff_eq] at h
  rcases h with ((rfl | rfl) | rfl) | rfl <;> rfl

/-- No value begins with a blank character. -/
theorem value?_eq_none {c : Char} {rest : List Char} (hskip : skip cs = c :: rest)
    (hblank : Text.isBlank c = true) (depth : Nat) : value? depth cs = none := by
  have hne {d : Char} (hd : Text.isBlank d = false) : c ≠ d := by
    rintro rfl
    rw [hblank] at hd
    cases hd
  have hdigit : c.isDigit = false := by
    have hall : ∀ n < 0x3A, 0x30 ≤ n → Text.inRanges Text.blankRanges n = false := by decide
    refine Bool.eq_false_iff.mpr fun hdigit => ?_
    obtain ⟨hmin, hmax⟩ := Char.isDigit_iff_toNat.mp hdigit
    have hfalse : Text.isBlank c = false := hall c.toNat (Nat.lt_succ_of_le hmax) hmin
    rw [hblank] at hfalse
    cases hfalse
  have hlt : rest.length < cs.length := by
    have hsuffix : skip cs <:+ cs := List.dropWhile_suffix isSpace
    rw [hskip] at hsuffix
    exact hsuffix.length_le
  have hnext : next? cs = some ⟨c, rest, hlt⟩ := next?_eq_some_iff.mpr hskip
  rw [value?.eq_def, hnext, Option.bind_eq_bind, Option.bind_some, if_neg (hne (by decide)),
    if_neg (hne (by decide)), if_neg (hne (by decide)), if_neg (hne (by decide)),
    if_neg (hne (by decide)), if_neg (Bool.eq_false_iff.mp hdigit), if_neg (hne (by decide)),
    if_neg (hne (by decide))]

/-- **Blank characters in front of a value** are white space. -/
theorem isSpace_of_read?_append (hfront : ∀ c ∈ front, Text.isBlank c = true)
    (h : read? (front ++ cs) = some value) : ∀ c ∈ front, isSpace c = true := by
  obtain ⟨_, ⟨_, hvalue⟩, -⟩ := read?_eq_some_iff.mp h
  rw [← skip_eq_nil_iff]
  cases hskip : skip front with
  | nil => rfl
  | cons c rest =>
    have hmem : c ∈ skip front := hskip ▸ List.mem_cons_self
    have hblank : Text.isBlank c = true :=
      hfront c ((List.dropWhile_sublist isSpace).subset hmem)
    rw [value?_eq_none (skip_append hskip cs) hblank] at hvalue
    cases hvalue

/-- **A text with a value in it** and nothing but blank characters in front has no other value, and
has that one only if nothing but blank characters comes behind. -/
theorem eq_of_read?_append {value' : Json} (hfront : Text.isBlankText front = true)
    (hmore : Stops more) (hvalue : read? cs = some value)
    (h : read? (front ++ (cs ++ more)) = some value') :
    value' = value ∧ Text.isBlankText more = true := by
  have hspace := isSpace_of_read?_append (List.all_eq_true.mp hfront) h
  rw [read?_append hspace hmore hvalue] at h
  split at h
  · rename_i hskip
    cases h
    refine ⟨rfl, List.all_eq_true.mpr fun c hc => ?_⟩
    exact isBlank_of_isSpace (skip_eq_nil_iff.mp hskip c hc)
  · cases h

end Json

end EventFilter
