import EventFilter.Registry.Builtin
import Mathlib.Data.BitVec

/-!
# Positions in machine words

The functions that cut texts count characters with numbers that have no bounds. A machine counts
them in words, where a difference below zero is an overflow, unless it has been provided for, and
where the integers of the language have to be widened. Here the same counting is said in words of
any width that holds these integers, with the overflow of a difference that is not provided for as
an outcome of its own.
Main statements: counting in words is exact and never overflows, whatever the position and the
length are (`Builtin.map_startInWords?`, `Builtin.map_countInWords`, `Builtin.toNat_skipInWords`).
-/

namespace EventFilter.Builtin

/-! ### Counting in words -/

/-- The difference of two words, `none` if it is below zero. -/
def difference? {w : Nat} (a b : BitVec w) : Option (BitVec w) :=
  if a.usubOverflow b then none else some (a - b)

/-- The absolute value of an integer as a word. It is taken in 32 bits, without a sign, so that the
smallest integer has one too. -/
def magnitude (w : Nat) (n : Int32) : BitVec w := n.toBitVec.abs.setWidth w

/-- A number of characters as a word. -/
def countInWords (w : Nat) (length : Int32) : Except FunctionError (BitVec w) :=
  if length < 0 then .error (.negativeLength length) else .ok (length.toBitVec.signExtend w)

/-- A place in a text of so many characters, if there is a character at it. -/
def placeInWords {w : Nat} (position : Int32) (count place : BitVec w) :
    Except FunctionError (BitVec w) :=
  if place < count then .ok place else .error (.positionOutOfRange position count.toNat)

/-- **Where the character at a position begins**, counted in words. From a position that counts from
the beginning one is subtracted without further ado, and `none` stands for the overflow of that; a
position that counts from the end may lie before the beginning, which is provided for. -/
def startInWords? {w : Nat} (position : Int32) (count : BitVec w) :
    Option (Except FunctionError (BitVec w)) :=
  let outOfRange := .error (.positionOutOfRange position count.toNat)
  if 0 < position then
    (difference? (position.toBitVec.signExtend w) 1#w).map (placeInWords position count)
  else if position < 0 then
    some ((difference? count (magnitude w position)).elim outOfRange (placeInWords position count))
  else some outOfRange

/-- How many characters stand before the last ones, counted in words: none if that is below zero. -/
def skipInWords {w : Nat} (count length : BitVec w) : BitVec w :=
  (difference? count length).getD 0#w

/-! ### Nothing is lost -/

section words

variable {w : Nat} {a b count place : BitVec w} {n p : Int32}

/-- A difference that is not below zero is that of the numbers. -/
theorem exists_difference? (h : b.toNat ≤ a.toNat) :
    ∃ d, difference? a b = some d ∧ d.toNat = a.toNat - b.toNat := by
  refine ⟨a - b, if_neg ?_, BitVec.toNat_sub_of_le h⟩
  simpa [BitVec.usubOverflow] using h

/-- There is no difference below zero. -/
theorem difference?_eq_none (h : a.toNat < b.toNat) : difference? a b = none :=
  if_pos (decide_eq_true h)

/-- An integer that is not negative keeps its value in a word. -/
theorem toNat_signExtend (hw : 32 ≤ w) (h : 0 ≤ n.toInt) :
    (n.toBitVec.signExtend w).toNat = n.toInt.toNat := by
  have hmsb : n.toBitVec.msb = false := by
    rw [BitVec.msb_eq_toInt]
    exact decide_eq_false (not_lt.mpr h)
  rw [BitVec.signExtend_eq_setWidth_of_msb_false hmsb, BitVec.toNat_setWidth_of_le hw]
  exact (congrArg Int.toNat (BitVec.toInt_eq_toNat_of_msb hmsb)).symm

/-- **Every integer has its absolute value in a word**, the smallest one too. -/
theorem toNat_magnitude (hw : 32 ≤ w) (n : Int32) : (magnitude w n).toNat = n.toInt.natAbs := by
  rw [magnitude, BitVec.toNat_setWidth_of_le hw, BitVec.toNat_abs, BitVec.msb_eq_toInt]
  have hn : n.toInt = if 2 * n.toBitVec.toNat < 2 ^ 32 then (n.toBitVec.toNat : Int)
      else n.toBitVec.toNat - (2 ^ 32 : Nat) := BitVec.toInt_eq_toNat_cond _
  have hlt := n.toBitVec.isLt
  change (if decide (n.toInt < 0) = true then _ else _) = _
  simp only [decide_eq_true_eq]
  split at hn <;> split <;> omega

/-- **Numbers of characters are exact in words.** -/
theorem map_countInWords (hw : 32 ≤ w) (length : Int32) :
    (countInWords w length).map BitVec.toNat = characterCount length := by
  unfold countInWords characterCount
  by_cases h : length < 0
  · rw [if_pos h, if_pos h]
    rfl
  · rw [if_neg h, if_neg h]
    have hnonneg : 0 ≤ length.toInt := not_lt.mp fun hlt => h (Int32.lt_iff_toInt_lt.mpr hlt)
    exact congrArg Except.ok (toNat_signExtend hw hnonneg)

/-- A number of characters in a word is that of the integer. -/
theorem toNat_of_countInWords (hw : 32 ≤ w) (h : countInWords w n = .ok a) :
    a.toNat = n.toInt.toNat := by
  have hmap := map_countInWords hw n
  rw [h] at hmap
  unfold characterCount at hmap
  split at hmap
  · cases hmap
  · exact Except.ok.inj hmap

/-- A place is compared with the number of characters as numbers are. -/
theorem map_placeInWords (p : Int32) (count place : BitVec w) :
    (placeInWords p count place).map BitVec.toNat =
      if place.toNat < count.toNat then .ok place.toNat
      else .error (.positionOutOfRange p count.toNat) := by
  simp only [placeInWords, BitVec.lt_def]
  split <;> rfl

/-- A position that counts from the beginning. -/
theorem startOf_of_pos (h : 0 < p.toInt) (n : Nat) :
    startOf p n =
      if p.toInt.toNat - 1 < n then .ok (p.toInt.toNat - 1)
      else .error (.positionOutOfRange p n) := by
  unfold startOf
  by_cases hn : p.toInt.toNat - 1 < n
  · rw [if_pos hn, if_pos (by omega), show (p.toInt - 1).toNat = p.toInt.toNat - 1 by omega]
  · rw [if_neg hn, if_neg (by omega), if_neg (by omega)]

/-- A position that counts from the end. -/
theorem startOf_of_neg (h : p.toInt < 0) (n : Nat) :
    startOf p n =
      if p.toInt.natAbs ≤ n then .ok (n - p.toInt.natAbs)
      else .error (.positionOutOfRange p n) := by
  unfold startOf
  by_cases hn : p.toInt.natAbs ≤ n
  · rw [if_pos hn, if_neg (by omega), if_pos (by omega),
      show ((n : Int) + p.toInt).toNat = n - p.toInt.natAbs by omega]
  · rw [if_neg hn, if_neg (by omega), if_neg (by omega)]

/-- There is no position zero. -/
theorem startOf_of_eq_zero (h : p.toInt = 0) (n : Nat) :
    startOf p n = .error (.positionOutOfRange p n) := by
  unfold startOf
  rw [if_neg (by omega), if_neg (by omega)]

/-- **Positions are exact in words**, and finding the place of one does not overflow. -/
theorem map_startInWords? (hw : 32 ≤ w) (p : Int32) (count : BitVec w) :
    (startInWords? p count).map (Except.map BitVec.toNat) = some (startOf p count.toNat) := by
  have hone : (1#w).toNat = 1 := by
    rw [BitVec.toNat_ofNat, Nat.mod_eq_of_lt (Nat.one_lt_two_pow (by omega))]
  unfold startInWords?
  simp only [Int32.lt_iff_toInt_lt, Int32.toInt_zero]
  rcases lt_trichotomy p.toInt 0 with hneg | hzero | hpos
  · rw [if_neg (by omega), if_pos hneg, startOf_of_neg hneg]
    by_cases hle : p.toInt.natAbs ≤ count.toNat
    · obtain ⟨d, hd, hvalue⟩ := exists_difference? (toNat_magnitude hw p ▸ hle)
      rw [toNat_magnitude hw] at hvalue
      rw [hd, if_pos hle, Option.elim_some, Option.map_some, map_placeInWords, hvalue,
        if_pos (by omega)]
    · rw [difference?_eq_none (toNat_magnitude hw p ▸ not_le.mp hle), if_neg hle]
      rfl
  · rw [if_neg (by omega), if_neg (by omega), startOf_of_eq_zero hzero]
    rfl
  · have hwide := toNat_signExtend hw hpos.le
    obtain ⟨d, hd, hvalue⟩ : ∃ d, difference? (p.toBitVec.signExtend w) 1#w = some d ∧
        d.toNat = (p.toBitVec.signExtend w).toNat - (1#w).toNat :=
      exists_difference? (by omega)
    rw [if_pos hpos, hd, startOf_of_pos hpos, Option.map_some, Option.map_some, map_placeInWords,
      hvalue, hwide, hone]

/-- **What is passed over is exact in words.** -/
theorem toNat_skipInWords (count length : BitVec w) :
    (skipInWords count length).toNat = count.toNat - length.toNat := by
  unfold skipInWords
  by_cases h : length.toNat ≤ count.toNat
  · obtain ⟨d, hd, hvalue⟩ := exists_difference? h
    rw [hd, Option.getD_some, hvalue]
  · rw [difference?_eq_none (not_le.mp h), Option.getD_none, BitVec.toNat_ofNat, Nat.zero_mod]
    omega

end words

end EventFilter.Builtin
