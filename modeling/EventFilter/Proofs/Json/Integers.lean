import EventFilter.Proofs.Json.RoundTrip
import Mathlib.Data.List.Induction

/-!
# Integers in JSON texts

A JSON text is read as an integer only if it is written as one: with a minus if it is below zero,
and digits of which the first is no zero unless it is the only one. A decimal point, an exponent and
a minus before zero make a number of another sort, whatever its value is.
Main statement: the texts that are read as an integer are its canonical text between white space
(`Json.read?_eq_integer_iff`).
-/

namespace EventFilter

/-! ### Digits without zeros in front -/

namespace Text

variable {d : Char} {ds : List Char}

/-- A digit is the character of its value, which is below ten. -/
theorem digitChar_of_isDigit (h : d.isDigit = true) :
    d.toNat - 0x30 < 10 ∧ Nat.digitChar (d.toNat - 0x30) = d := by
  have hrange : 48 ≤ d.toNat ∧ d.toNat ≤ 57 := by
    simpa [Char.isDigit, UInt32.le_iff_toNat_le] using h
  refine ⟨by omega, Char.toNat_inj.mp ?_⟩
  rw [Nat.toNat_digitChar_of_lt_ten (by omega)]
  omega

/-- The number that digits and one more denote. -/
theorem digitsValue_concat (ds : List Char) (d : Char) :
    digitsValue (ds ++ [d]) = 10 * digitsValue ds + (d.toNat - 0x30) := by
  rw [digitsValue, Nat.ofDigitChars_append, Nat.ofDigitChars_cons, Nat.ofDigitChars_nil]
  rfl

/-- Digits that do not begin with a zero denote a number that is not zero. -/
theorem digitsValue_pos (hds : ∀ c ∈ ds, c.isDigit = true) (hne : ds ≠ [])
    (hzero : ds.head? ≠ some '0') : 0 < digitsValue ds := by
  induction ds using List.reverseRecOn with
  | nil => exact absurd rfl hne
  | append_singleton ds d ih =>
    rw [digitsValue_concat]
    by_cases hfront : ds = []
    · subst hfront
      obtain ⟨-, hd⟩ := digitChar_of_isDigit (hds d (by simp))
      have hpos : d.toNat - 0x30 ≠ 0 := fun h => hzero (by rw [← hd, h]; rfl)
      omega
    · have hmore := ih (fun c hc => hds c (List.mem_append_left _ hc)) hfront
        (by rwa [List.head?_append_of_ne_nil _ hfront] at hzero)
      omega

/-- **Digits without a zero in front are the canonical text** of the number that they denote. -/
theorem toDigits_digitsValue (hds : ∀ c ∈ ds, c.isDigit = true) (hne : ds ≠ [])
    (hzero : ds.head? = some '0' → ds = ['0']) : Nat.toDigits 10 (digitsValue ds) = ds := by
  induction ds using List.reverseRecOn with
  | nil => exact absurd rfl hne
  | append_singleton ds d ih =>
    obtain ⟨hlt, hd⟩ := digitChar_of_isDigit (hds d (by simp))
    have hdigits : ∀ c ∈ ds, c.isDigit = true := fun c hc => hds c (List.mem_append_left _ hc)
    rw [digitsValue_concat]
    by_cases hfront : ds = []
    · subst hfront
      rw [digitsValue, Nat.ofDigitChars_nil, Nat.mul_zero, Nat.zero_add,
        Nat.toDigits_of_lt_base hlt, hd, List.nil_append]
    · have hhead : ds.head? ≠ some '0' := by
        intro h
        have hsingle := hzero ((List.head?_append_of_ne_nil ds hfront).trans h)
        have hlength := congrArg List.length hsingle
        have hlong := List.length_pos_of_ne_nil hfront
        simp only [List.length_append, List.length_singleton] at hlength
        omega
      have hpos := digitsValue_pos hdigits hfront hhead
      rw [Nat.toDigits_eq_if (by decide), if_neg (by omega),
        show (10 * digitsValue ds + (d.toNat - 0x30)) / 10 = digitsValue ds by omega,
        show (10 * digitsValue ds + (d.toNat - 0x30)) % 10 = d.toNat - 0x30 by omega,
        ih hdigits hfront fun h => absurd h hhead, hd]

end Text

namespace Json

variable {cs : List Char} {n : Int} {negative : Bool}

/-! ### Numbers -/

/-- A number with a decimal point or an exponent is no integer. -/
theorem floatOf?_ne_integer {whole fraction : List Char} {exponent : Int} :
    floatOf? negative whole fraction exponent ≠ some (.integer n) := by
  unfold floatOf?
  intro h
  obtain ⟨_, _, h⟩ := Option.map_eq_some_iff.mp h
  cases h

/-- The integer that digits are with or without a minus, which is not zero with one. -/
theorem of_integerOf?_eq_integer {whole : List Char}
    (h : integerOf? negative whole = some (.integer n)) :
    n = (if negative then -(Text.digitsValue whole : Int) else Text.digitsValue whole) ∧
      (negative = true → Text.digitsValue whole ≠ 0) := by
  unfold integerOf? at h
  cases negative with
  | true =>
    simp only [if_true] at h
    split at h
    · rename_i hrange
      cases h
      exact ⟨rfl, fun _ => hrange.1⟩
    · exact absurd h floatOf?_ne_integer
  | false =>
    simp only [Bool.false_eq_true, if_false] at h
    split at h
    · cases h
      exact ⟨rfl, nofun⟩
    · exact absurd h floatOf?_ne_integer

/-- Digits are read up to the first character that is none. -/
theorem of_digits?_eq_some {p : Parsed Char (List Char) cs.length} (h : digits? cs = some p) :
    cs = p.value ++ p.rest ∧ p.value ≠ [] ∧ ∀ c ∈ p.value, c.isDigit = true := by
  unfold digits? at h
  split at h
  · cases h
  · rename_i c rest
    split at h
    · rename_i hc
      cases h
      refine ⟨?_, List.cons_ne_nil _ _, List.forall_mem_cons.mpr ⟨hc, fun d hd => ?_⟩⟩
      · rw [List.cons_append, List.takeWhile_append_dropWhile]
      · exact List.mem_takeWhile_imp hd
    · cases h

/-- Without a decimal point nothing is read behind the digits. -/
theorem rest_of_fraction?_eq_none {p : Parsed Char (Option (List Char)) (cs.length + 1)}
    (h : fraction? cs = some p) (hp : p.value = none) : p.rest = cs := by
  unfold fraction? at h
  split at h
  · obtain ⟨ds, -, h⟩ := Option.bind_eq_some_iff.mp h
    cases h
    cases hp
  · cases h
    rfl

/-- Without an exponent nothing is read behind the digits. -/
theorem rest_of_exponent?_eq_none {p : Parsed Char (Option Int) (cs.length + 1)}
    (h : exponent? cs = some p) (hp : p.value = none) : p.rest = cs := by
  unfold exponent? at h
  split at h
  · cases h
    rfl
  · split at h
    · obtain ⟨ds, -, h⟩ := Option.bind_eq_some_iff.mp h
      cases h
      cases hp
    · cases h
      rfl

/-- A number with a decimal point or an exponent is not read as an integer. -/
theorem of_value?_eq_integer {t : NumberText} (h : t.value? negative = some (.integer n)) :
    t.fraction = none ∧ t.exponent = none ∧ integerOf? negative t.whole = some (.integer n) := by
  obtain ⟨whole, fraction, exponent⟩ := t
  cases fraction <;> cases exponent
  · exact ⟨rfl, rfl, h⟩
  all_goals
    unfold NumberText.value? at h
    exact (floatOf?_ne_integer h).elim

/-- **A number that is an integer** is written with digits and nothing else. -/
theorem eq_of_number?_eq_some {p : Parsed Char Json cs.length}
    (h : number? negative cs = some p) (hp : p.value = .integer n) :
    (if negative then '-' :: cs else cs) = Text.writeInt n ++ p.rest := by
  obtain ⟨whole, hwhole, h⟩ := Option.bind_eq_some_iff.mp h
  split at h
  · cases h
  rename_i hzero
  obtain ⟨fraction, hfraction, h⟩ := Option.bind_eq_some_iff.mp h
  obtain ⟨exponent, hexponent, h⟩ := Option.bind_eq_some_iff.mp h
  obtain ⟨value, hvalue, h⟩ := Option.bind_eq_some_iff.mp h
  cases h
  cases hp
  obtain ⟨hnofraction, hnoexponent, hinteger⟩ := of_value?_eq_integer hvalue
  have hrest : exponent.rest = whole.rest :=
    (rest_of_exponent?_eq_none hexponent hnoexponent).trans
      (rest_of_fraction?_eq_none hfraction hnofraction)
  obtain ⟨hcs, hne, hdigits⟩ := of_digits?_eq_some hwhole
  have hcanonical : Nat.toDigits 10 (Text.digitsValue whole.value) = whole.value :=
    Text.toDigits_digitsValue hdigits hne fun hhead => by_contra fun h => hzero ⟨hhead, h⟩
  change integerOf? negative whole.value = some (.integer n) at hinteger
  obtain ⟨hn, hpos⟩ := of_integerOf?_eq_integer hinteger
  have htext : Text.writeInt n = if negative then '-' :: whole.value else whole.value := by
    cases negative with
    | true =>
      have hnonzero := hpos rfl
      rw [if_pos rfl] at hn
      rw [Text.writeInt, if_pos (by omega), if_pos rfl,
        show n.natAbs = Text.digitsValue whole.value by omega, hcanonical]
    | false =>
      rw [if_neg Bool.false_ne_true] at hn
      rw [Text.writeInt, if_neg (by omega), if_neg Bool.false_ne_true,
        show n.natAbs = Text.digitsValue whole.value by omega, hcanonical]
  rw [hrest, htext]
  cases negative
  · exact hcs
  · exact congrArg ('-' :: ·) hcs

/-! ### Values -/

/-- **A reading spells an integer out** if it has a text: whatever is read as the integer, the text
is its canonical text and what is left. -/
def SpellsOut (n : Int) (cs : List Char) {k : Nat} (reading : Option (Parsed Char Json k)) : Prop :=
  ∀ p, reading = some p → p.value = .integer n → cs = Text.writeInt n ++ p.rest

namespace SpellsOut

variable {k : Nat} {reading reading' : Option (Parsed Char Json k)} {p : Parsed Char Json k}

/-- What is not read. -/
theorem none : SpellsOut n cs (none : Option (Parsed Char Json k)) := nofun

/-- What is read as another value. -/
theorem other (h : p.value ≠ .integer n) : SpellsOut n cs (some p) := by
  rintro _ ⟨⟩ hp
  exact absurd hp h

/-- What is read as one thing or another. -/
theorem ite {c : Prop} [Decidable c] (h : c → SpellsOut n cs reading)
    (h' : ¬c → SpellsOut n cs reading') : SpellsOut n cs (if c then reading else reading') := by
  by_cases hc : c
  · rw [if_pos hc]
    exact h hc
  · rw [if_neg hc]
    exact h' hc

/-- What is read behind something else. -/
theorem bind {α : Type} {x : Option α} {f : α → Option (Parsed Char Json k)}
    (h : ∀ a, x = some a → SpellsOut n cs (f a)) : SpellsOut n cs (x >>= f) := by
  intro p hp hvalue
  obtain ⟨a, ha, hfa⟩ := Option.bind_eq_some_iff.mp hp
  exact h a ha p hfa hvalue

/-- A word that stands for another value. -/
theorem word {word rest : List Char} {value : Json} (hlt : rest.length < k)
    (h : value ≠ .integer n) : SpellsOut n cs ((word? word value rest).map (·.widen hlt)) := by
  intro p hp hvalue
  obtain ⟨q, hq, rfl⟩ := Option.map_eq_some_iff.mp hp
  unfold word? at hq
  split at hq <;> cases hq
  exact absurd hvalue h

end SpellsOut

/-- **A value that is an integer** is its canonical text behind white space. -/
theorem spellsOut_value? (n : Int) (depth : Nat) (cs : List Char) :
    SpellsOut n (skip cs) (value? depth cs) := by
  rw [value?.eq_def]
  refine .bind fun c hc => ?_
  rw [next?_eq_some_iff.mp hc]
  refine .ite (fun _ => .word _ nofun) fun _ => ?_
  refine .ite (fun _ => .word _ nofun) fun _ => ?_
  refine .ite (fun _ => .word _ nofun) fun _ => ?_
  refine .ite (fun _ => .bind fun _ _ => .other nofun) fun _ => ?_
  refine .ite (fun hminus => .bind fun q hq => ?_) fun _ => ?_
  · rintro _ ⟨⟩ hvalue
    rw [hminus]
    exact eq_of_number?_eq_some hq hvalue
  refine .ite (fun _ => .bind fun q hq => ?_) fun _ => ?_
  · rintro _ ⟨⟩ hvalue
    exact eq_of_number?_eq_some hq hvalue
  -- What is left are arrays and objects, which are no integers, whatever is in them.
  refine .ite (fun _ => ?_) fun _ => .ite (fun _ => ?_) fun _ => .none
  · cases depth with
    | zero => exact .none
    | succ depth =>
      refine .bind fun d _ => .ite (fun _ => .other nofun) fun _ => ?_
      exact .bind fun _ _ => .other nofun
  · cases depth with
    | zero => exact .none
    | succ depth =>
      refine .bind fun d _ => .ite (fun _ => .other nofun) fun _ => ?_
      exact .bind fun _ _ => .other nofun

/-- **The texts of an integer.** -/
theorem read?_eq_integer_iff (hmin : -9223372036854775808 ≤ n) (hmax : n ≤ 18446744073709551615) :
    read? cs = some (.integer n) ↔ ∃ front back, cs = front ++ (Text.writeInt n ++ back) ∧
      (∀ c ∈ front, isSpace c = true) ∧ ∀ c ∈ back, isSpace c = true := by
  constructor
  · intro h
    obtain ⟨rest, ⟨_, hvalue⟩, hrest⟩ := read?_eq_some_iff.mp h
    refine ⟨cs.takeWhile isSpace, rest, ?_, fun c hc => List.mem_takeWhile_imp hc,
      skip_eq_nil_iff.mp hrest⟩
    rw [← spellsOut_value? n maxDepth cs _ hvalue rfl, skip, List.takeWhile_append_dropWhile]
  · rintro ⟨front, back, rfl, hfront, hback⟩
    have hread : read? (render (.integer n)) = some (.integer n) :=
      read?_render (Plain.integer hmin hmax)
    have hstops : Stops back := by
      cases back with
      | nil => nofun
      | cons c cs => exact stops_of_isSpace (hback c List.mem_cons_self) cs
    rw [render] at hread
    rw [read?_append hfront hstops hread, if_pos (skip_eq_nil_iff.mpr hback)]

end Json

end EventFilter
