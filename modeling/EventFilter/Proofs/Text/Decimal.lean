import EventFilter.Text.Decimal

/-!
# Integer literals

Which texts are written numbers, said without reading them: digits with at most one sign in front
(`Text.Numeral`). A numeral can have any number of leading zeros and denotes an integer of any size.
Digits are readable as a 32-bit integer exactly if that integer, with its sign, is the number that
they denote (`Text.readInt32?_digits_eq_some_iff`, `Text.readInt32?_minus_eq_some_iff`).
Main statement: a text is read as a 32-bit integer if and only if it is a numeral for it
(`Text.readInt32?_eq_some_iff`).
-/

namespace EventFilter.Text

variable {digits : List Char} {m : Nat} {n : Int32}

/-- There is a 32-bit integer for each integer in range. -/
theorem exists_toInt_eq {k : Int} (hle : -2147483648 ≤ k) (hge : k ≤ 2147483647) :
    ∃ n : Int32, n.toInt = k :=
  ⟨Int32.ofInt k, Int32.toInt_ofInt_of_le hle (Int.lt_of_le_sub_one hge)⟩

/-- An integer in range is the integer that it is read as. -/
theorem int32?_eq_some_iff {k : Int} : int32? k = some n ↔ n.toInt = k := by
  constructor
  · intro h
    unfold int32? at h
    split at h
    · rename_i hrange
      cases h
      exact Int32.toInt_ofInt_of_le hrange.1 (Int.lt_of_le_sub_one hrange.2)
    · cases h
  · rintro rfl
    exact int32?_toInt n

/-- What can be read as digits is digits. -/
theorem all_isDigit_of_readDigits? (h : readDigits? digits = some m) :
    digits.all Char.isDigit = true := by
  unfold readDigits? at h
  split at h
  · rename_i hdigits
    exact hdigits.2
  · cases h

/-- **Digits without a sign** are read as the number that they denote. -/
theorem readInt32?_digits_eq_some_iff (h : readDigits? digits = some m) :
    readInt32? digits = some n ↔ n.toInt = m := by
  rw [readInt32?_of_all_isDigit (all_isDigit_of_readDigits? h), h, Option.bind_some,
    int32?_eq_some_iff]

/-- **Digits behind a minus** are read as the negative of the number that they denote. -/
theorem readInt32?_minus_eq_some_iff (h : readDigits? digits = some m) :
    readInt32? ('-' :: digits) = some n ↔ n.toInt = -m := by
  simp only [readInt32?]
  rw [h, Option.bind_some, int32?_eq_some_iff]

/-! ### Numerals -/

/-- **A numeral**: one or more digits, with or without a sign, and the integer that they denote. -/
inductive Numeral : List Char → Int → Prop
  | unsigned {ds} : ds ≠ [] → ds.all Char.isDigit = true →
      Numeral ds (digitsValue ds)
  | plus {ds} : ds ≠ [] → ds.all Char.isDigit = true →
      Numeral ('+' :: ds) (digitsValue ds)
  | minus {ds} : ds ≠ [] → ds.all Char.isDigit = true →
      Numeral ('-' :: ds) (-(digitsValue ds))

/-- What is read as digits is one or more digits, and the number that they denote. -/
theorem readDigits?_eq_some_iff :
    readDigits? digits = some m ↔
      digits ≠ [] ∧ digits.all Char.isDigit = true ∧ m = digitsValue digits := by
  unfold readDigits?
  split
  · rename_i h
    simp [h.1, h.2, eq_comm]
  · rename_i h
    simp only [reduceCtorEq, false_iff]
    exact fun h' => h ⟨h'.1, h'.2.1⟩

/-- **A text is read as an integer** if and only if it is a numeral for that integer. -/
theorem readInt32?_eq_some_iff {cs : List Char} :
    readInt32? cs = some n ↔ Numeral cs n.toInt := by
  constructor
  · intro h
    unfold readInt32? at h
    split at h <;> obtain ⟨m, hm, hn⟩ := Option.bind_eq_some_iff.mp h <;>
      obtain ⟨hne, hall, rfl⟩ := readDigits?_eq_some_iff.mp hm <;>
      rw [int32?_eq_some_iff.mp hn]
    · exact .minus hne hall
    · exact .plus hne hall
    · exact .unsigned hne hall
  · intro h
    generalize hk : n.toInt = k at h
    cases h with
    | unsigned hne hall =>
      have hm := readDigits?_eq_some_iff.mpr ⟨hne, hall, rfl⟩
      exact (readInt32?_digits_eq_some_iff hm).mpr hk
    | plus hne hall =>
      have hm := readDigits?_eq_some_iff.mpr ⟨hne, hall, rfl⟩
      simp only [readInt32?, hm, Option.bind_some]
      exact int32?_eq_some_iff.mpr hk
    | minus hne hall =>
      have hm := readDigits?_eq_some_iff.mpr ⟨hne, hall, rfl⟩
      exact (readInt32?_minus_eq_some_iff hm).mpr hk

end EventFilter.Text
