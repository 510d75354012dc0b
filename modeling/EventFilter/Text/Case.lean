import EventFilter.Text.CaseTable

/-!
# Changing the case of a text

`asciiUpper` raises the letters A to Z and leaves everything else: how keywords and function names
are compared. `toUpper` and `toLower` are the full Unicode mappings of a text. The one mapping that
looks at its surroundings is that of the capital sigma, which becomes `ς` at the end of a word and
`σ` elsewhere.
-/

namespace EventFilter.Text

/-- A text with its ASCII letters in upper case. -/
def asciiUpper (s : String) : String := String.ofList (s.toList.map Char.toUpper)

/-- Raising a raised character changes nothing. -/
theorem toUpper_toUpper (c : Char) : c.toUpper.toUpper = c.toUpper := by
  by_cases h : c.val ≥ 97 ∧ c.val ≤ 122
  · have h₁ : c.toUpper.val = c.val + (65 - 97) := by
      delta Char.toUpper
      split
      · rfl
      · rename_i hn; exact absurd h (by simpa using hn)
    have h₂ : ¬ (c.toUpper.val ≥ 97 ∧ c.toUpper.val ≤ 122) := by
      rw [h₁]
      simp only [ge_iff_le, UInt32.le_iff_toNat_le] at h ⊢
      simp at h ⊢
      omega
    generalize c.toUpper = d at h₂
    delta Char.toUpper
    split
    · rename_i hd; exact absurd (by simpa using hd) h₂
    · rfl
  · delta Char.toUpper
    split
    · rename_i hn; exact absurd (by simpa using hn) h
    · rfl

/-- Raising a raised text changes nothing. -/
@[simp] theorem asciiUpper_asciiUpper (s : String) : asciiUpper (asciiUpper s) = asciiUpper s := by
  simp only [asciiUpper, String.toList_ofList, List.map_map, Function.comp_def, toUpper_toUpper]

/-- Whether the first character that is not case-ignorable has a case. -/
def meetsCased (cs : List Char) : Bool :=
  match cs.dropWhile isCaseIgnorable with
  | [] => false
  | c :: _ => isCased c

/-- The lower case of a capital sigma between `before` (nearest character first) and `after`. -/
def lowerSigma (before after : List Char) : Char :=
  if meetsCased before && !meetsCased after then 'ς' else 'σ'

/-- The lower case of a text that follows the characters `before`, nearest first. -/
def toLowerAfter (before : List Char) : List Char → List Char
  | [] => []
  | c :: cs =>
    (if c = 'Σ' then [lowerSigma before cs] else lowerChar c) ++ toLowerAfter (c :: before) cs

/-- **The lower case of a text.** -/
def toLower (cs : List Char) : List Char := toLowerAfter [] cs

/-- **The upper case of a text.** -/
def toUpper (cs : List Char) : List Char := cs.flatMap upperChar

end EventFilter.Text
