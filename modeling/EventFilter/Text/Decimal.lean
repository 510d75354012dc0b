/-!
# Decimal texts of integers

Reading and writing the signed 32-bit integers of the language. A readable text is an optional sign
followed by one or more ASCII digits, with any number of leading zeros, whose value is in range; the
written text has no plus sign and no leading zero. Main statement: `readInt32?_writeInt32`, what is
written reads back.
-/

namespace EventFilter.Text

/-- The number that a list of ASCII digits denotes. -/
def digitsValue (digits : List Char) : Nat := Nat.ofDigitChars 10 digits 0

/-- One or more ASCII digits, as a number. -/
def readDigits? (cs : List Char) : Option Nat :=
  if cs ≠ [] ∧ cs.all Char.isDigit then some (digitsValue cs) else none

/-- An integer as a 32-bit integer, if it is in range. -/
def int32? (n : Int) : Option Int32 :=
  if -2147483648 ≤ n ∧ n ≤ 2147483647 then some (Int32.ofInt n) else none

/-- **A signed decimal text as a 32-bit integer.** -/
def readInt32? : List Char → Option Int32
  | '-' :: cs => (readDigits? cs).bind fun n => int32? (-(n : Int))
  | '+' :: cs => (readDigits? cs).bind fun n => int32? n
  | cs => (readDigits? cs).bind fun n => int32? n

/-- The canonical text of an integer. -/
def writeInt (n : Int) : List Char :=
  if n < 0 then '-' :: Nat.toDigits 10 n.natAbs else Nat.toDigits 10 n.natAbs

/-- The canonical text of a 32-bit integer. -/
def writeInt32 (n : Int32) : List Char := writeInt n.toInt

/-- The canonical text of a natural number is readable as digits. -/
theorem readDigits?_toDigits (n : Nat) : readDigits? (Nat.toDigits 10 n) = some n := by
  have hall : (Nat.toDigits 10 n).all Char.isDigit = true :=
    List.all_eq_true.mpr fun c hc => Nat.isDigit_of_mem_toDigits (by decide) (by decide) hc
  simp [readDigits?, Nat.toDigits_ne_nil, hall, digitsValue]

/-- A 32-bit integer is in range. -/
theorem int32?_toInt (n : Int32) : int32? n.toInt = some n := by
  have h₁ := n.le_toInt
  have h₂ := n.toInt_lt
  simp only [int32?]
  rw [if_pos (by omega)]
  simp

/-- A text of digits has no sign. -/
theorem readInt32?_of_all_isDigit {cs : List Char} (h : cs.all Char.isDigit = true) :
    readInt32? cs = (readDigits? cs).bind fun n => int32? n := by
  match cs, h with
  | [], _ => rfl
  | c :: cs, h =>
    have hc : c.isDigit = true := by
      have := List.all_eq_true.mp h c (by simp)
      exact this
    unfold readInt32?
    split
    · exact absurd hc (by rename_i heq; simp only [List.cons.injEq] at heq; rw [heq.1]; decide)
    · exact absurd hc (by rename_i heq; simp only [List.cons.injEq] at heq; rw [heq.1]; decide)
    · rfl

/-- **What is written reads back.** -/
theorem readInt32?_writeInt32 (n : Int32) : readInt32? (writeInt32 n) = some n := by
  have hall (k : Nat) : (Nat.toDigits 10 k).all Char.isDigit = true :=
    List.all_eq_true.mpr fun c hc => Nat.isDigit_of_mem_toDigits (by decide) (by decide) hc
  unfold writeInt32 writeInt
  by_cases h : n.toInt < 0
  · rw [if_pos h]
    have hn : -(n.toInt.natAbs : Int) = n.toInt := by omega
    simp only [readInt32?, readDigits?_toDigits, Option.bind_some]
    rw [hn, int32?_toInt]
  · rw [if_neg h, readInt32?_of_all_isDigit (hall _)]
    have hn : (n.toInt.natAbs : Int) = n.toInt := by omega
    rw [readDigits?_toDigits, Option.bind_some, hn, int32?_toInt]

end EventFilter.Text
