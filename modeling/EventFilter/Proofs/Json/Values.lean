import EventFilter.Event
import EventFilter.Proofs.Text.Decimal
import EventFilter.Value.Reader

/-!
# Values in JSON

Which JSON values are values of the language is said here without reading them (`Json.IsValue`).
There are two readers of them: that of the members of an event, which takes integers as they are,
and that of values by themselves, which tries the kinds one after the other and takes integers as
words of 64 bits, with or without a sign. They agree on all JSON values, also at the bounds of the
words and on numbers that are whole but not integers.
Main statements: both readers find the value that a JSON value is (`Value.ofJson?_eq_some_iff`,
`Value.decode?_eq_some_iff`).
-/

namespace EventFilter

/-! ### Words -/

namespace Json.Word

variable {n : Int32} {k : Int}

/-- A word without a sign is narrowed to the integer that it is. -/
theorem toInt32?_unsigned {word : UInt64} :
    (unsigned word).toInt32? = some n ↔ n.toInt = word.toNat := by
  have hbound : (2147483647 : UInt64).toNat = 2147483647 := by decide
  have hmax := n.toInt_lt
  unfold toInt32?
  simp only [UInt64.le_iff_toNat_le, hbound]
  by_cases h : word.toNat ≤ 2147483647
  · have hword : word.toUInt32.toInt32.toInt = word.toNat := by
      have hbits : word.toUInt32.toInt32.toInt = (word.toUInt32.toNat : Int).bmod (2 ^ 32) :=
        BitVec.toInt_eq_toNat_bmod _
      rw [hbits, UInt64.toNat_toUInt32, Nat.mod_eq_of_lt (by omega)]
      exact Int.bmod_eq_of_le (by omega) (by omega)
    rw [if_pos h, Option.some.injEq, ← Int32.toInt_inj, hword, eq_comm]
  · rw [if_neg h]
    exact iff_of_false nofun (by omega)

/-- A word with a sign is narrowed to the integer that it is. -/
theorem toInt32?_signed {word : Int64} :
    (signed word).toInt32? = some n ↔ n.toInt = word.toInt := by
  have hbound : (-2147483648 : Int64).toInt = -2147483648 := by decide
  have hbound' : (2147483647 : Int64).toInt = 2147483647 := by decide
  have hmin := n.le_toInt
  have hmax := n.toInt_lt
  unfold toInt32?
  simp only [Int64.le_iff_toInt_le, hbound, hbound']
  by_cases h : -2147483648 ≤ word.toInt ∧ word.toInt ≤ 2147483647
  · have hword : word.toInt32.toInt = word.toInt := by
      rw [Int64.toInt_toInt32]
      exact Int.bmod_eq_of_le (by omega) (by omega)
    rw [if_pos h, Option.some.injEq, ← Int32.toInt_inj, hword, eq_comm]
  · rw [if_neg h]
    exact iff_of_false nofun (by omega)

/-- **An integer is narrowed to 32 bits** by way of its word exactly if it is in range. -/
theorem bind_toInt32?_eq_some_iff : (ofInt? k).bind toInt32? = some n ↔ n.toInt = k := by
  have hmin := n.le_toInt
  have hmax := n.toInt_lt
  have hsize : UInt64.size = 18446744073709551616 := rfl
  unfold ofInt?
  by_cases hneg : k < 0
  · rw [if_pos hneg]
    by_cases hk : -9223372036854775808 ≤ k
    · rw [if_pos hk, Option.bind_some, toInt32?_signed, Int64.toInt_ofInt_of_le hk (by omega)]
    · rw [if_neg hk]
      exact iff_of_false nofun (by omega)
  · rw [if_neg hneg]
    by_cases hk : k < UInt64.size
    · rw [if_pos hk, Option.bind_some, toInt32?_unsigned, UInt64.toNat_ofNat',
        Nat.mod_eq_of_lt (by omega), Int.toNat_of_nonneg (by omega)]
    · rw [if_neg hk]
      exact iff_of_false nofun (by omega)

end Json.Word

/-! ### Values in JSON -/

/-- **A JSON value is a value of the language**: a truth value, a text, or an integer of 32 bits. -/
inductive Json.IsValue : Json → Value → Prop
  | boolean (b : Bool) : IsValue (.boolean b) (.boolean b)
  | integer (n : Int32) : IsValue (.integer n.toInt) (.integer n)
  | string (s : String) : IsValue (.string s) (.string s)

namespace Value

variable {j : Json} {v : Value}

/-- The members of an event are read as the values that they are. -/
theorem ofJson?_eq_some_iff : ofJson? j = some v ↔ j.IsValue v := by
  constructor
  · intro h
    cases j with
    | boolean b =>
      cases h
      exact .boolean b
    | integer k =>
      obtain ⟨n, hn, rfl⟩ := Option.map_eq_some_iff.mp h
      obtain rfl := Text.int32?_eq_some_iff.mp hn
      exact .integer n
    | string s =>
      cases h
      exact .string s
    | _ => cases h
  · rintro (_ | _ | _)
    · rfl
    · rw [ofJson?, Text.int32?_toInt, Option.map_some]
    · rfl

/-- An integer is no value of another kind. -/
theorem decode?_integer (k : Int) : decode? (.integer k) = asInteger? (.integer k) := by
  have hboolean : asBoolean? (.integer k) = none := rfl
  have hstring : asString? (.integer k) = none := rfl
  simp only [decode?, List.findSome?_cons, List.findSome?_nil, hboolean, hstring]
  cases asInteger? (.integer k) <;> rfl

/-- **The kinds that are tried one after the other** find the values that there are. -/
theorem decode?_eq_some_iff : decode? j = some v ↔ j.IsValue v := by
  constructor
  · intro h
    cases j with
    | boolean b =>
      cases h
      exact .boolean b
    | integer k =>
      rw [decode?_integer] at h
      obtain ⟨n, hn, rfl⟩ := Option.map_eq_some_iff.mp h
      obtain rfl := Json.Word.bind_toInt32?_eq_some_iff.mp hn
      exact .integer n
    | string s =>
      cases h
      exact .string s
    | _ => cases h
  · rintro (_ | _ | _)
    · rfl
    · rw [decode?_integer, asInteger?, Json.Word.bind_toInt32?_eq_some_iff.mpr rfl, Option.map_some]
    · rfl

end Value

end EventFilter
