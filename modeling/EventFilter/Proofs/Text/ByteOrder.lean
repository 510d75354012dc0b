import EventFilter.Proofs.Text.Encoding
import Mathlib.Data.String.Basic
import Mathlib.Tactic.SplitIfs

/-!
# The order of texts and of their bytes

Texts are ordered by their characters from the left, and characters by their code points. The bytes
of the UTF-8 form are in the same order: of two characters the lesser one has the lesser byte at the
first place where their bytes differ, and there is such a place, for the bytes of a character are
not the beginning of those of another one.
Main statement: the order of texts is that of their bytes (`Text.bytes_lt_bytes_iff`).
-/

namespace EventFilter.Text

/-- The bytes of a text in UTF-8. -/
def bytes (s : String) : List UInt8 := s.toUTF8.toList

/-- The bytes of a text are those of its characters. -/
theorem bytes_eq (s : String) : bytes s = s.toList.flatMap String.utf8EncodeChar := by
  rw [bytes, String.toUTF8_eq_toByteArray, ← String.utf8Encode_toList, List.utf8Encode,
    toList_toByteArray]

/-! ### Digits -/

section digits

variable {m n : Nat}

/-- Of two numbers the lesser one has the lesser digit at the first place where they differ, here
with two digits to the base of 64. -/
theorem twoDigits_lt (h : m < n) : m / 64 < n / 64 ∨ m / 64 = n / 64 ∧ m % 64 < n % 64 := by
  omega

/-- The same with three digits. -/
theorem threeDigits_lt (h : m < n) :
    m / 4096 < n / 4096 ∨ m / 4096 = n / 4096 ∧
      (m / 64 % 64 < n / 64 % 64 ∨ m / 64 % 64 = n / 64 % 64 ∧ m % 64 < n % 64) := by
  rcases twoDigits_lt h with hfront | ⟨hfront, hlast⟩
  · have hdigits := twoDigits_lt hfront
    rw [Nat.div_div_eq_div_mul, Nat.div_div_eq_div_mul] at hdigits
    exact hdigits.imp_right (And.imp_right .inl)
  · have hfirst : m / 4096 = n / 4096 := by omega
    exact .inr ⟨hfirst, .inr ⟨congrArg (· % 64) hfront, hlast⟩⟩

/-- The same with four digits. -/
theorem fourDigits_lt (h : m < n) :
    m / 262144 < n / 262144 ∨ m / 262144 = n / 262144 ∧
      (m / 4096 % 64 < n / 4096 % 64 ∨ m / 4096 % 64 = n / 4096 % 64 ∧
        (m / 64 % 64 < n / 64 % 64 ∨ m / 64 % 64 = n / 64 % 64 ∧ m % 64 < n % 64)) := by
  rcases twoDigits_lt h with hfront | ⟨hfront, hlast⟩
  · have hdigits := threeDigits_lt hfront
    simp only [Nat.div_div_eq_div_mul] at hdigits
    exact hdigits.imp_right (And.imp_right (Or.imp_right (And.imp_right .inl)))
  · have hfirst : m / 262144 = n / 262144 := by omega
    have hsecond : m / 4096 % 64 = n / 4096 % 64 := by omega
    exact .inr ⟨hfirst, .inr ⟨hsecond, .inr ⟨congrArg (· % 64) hfront, hlast⟩⟩⟩

end digits

/-! ### Bytes -/

/-- A digit fits in a byte behind the bits that mark it. -/
theorem mod_add_mod_byte (n : Nat) {base mark : Nat} (hbase : 0 < base)
    (h : base + mark ≤ 256) : (n % base + mark) % 2 ^ 8 = n % base + mark := by
  have hdigit := Nat.mod_lt n hbase
  omega

/-- Code points are below 0x110000. -/
theorem toNat_val_lt (c : Char) : c.val.toNat < 0x110000 := by
  rcases c.valid with h | h <;> omega

/-- **Of two characters the lesser one has lesser bytes**, whatever follows them. -/
theorem utf8EncodeChar_append_lt {c d : Char} (h : c < d) (as bs : List UInt8) :
    String.utf8EncodeChar c ++ as < String.utf8EncodeChar d ++ bs := by
  have hlt : c.val.toNat < d.val.toNat := h
  have hd := toNat_val_lt d
  have htwo := twoDigits_lt hlt
  have hthree := threeDigits_lt hlt
  have hfour := fourDigits_lt hlt
  unfold String.utf8EncodeChar
  generalize c.val.toNat = m at *
  generalize d.val.toNat = n at *
  -- Each of them has one to four bytes, and the greater one has no fewer. If it has more, the first
  -- byte decides; if not, their digits are compared one by one.
  dsimp only
  split_ifs
  all_goals
    simp (disch := omega) only [List.cons_append, List.nil_append, List.cons_lt_cons_iff,
      UInt8.lt_iff_toNat_lt, ← UInt8.toNat_inj, UInt8.toNat_ofNat', mod_add_mod_byte,
      Nat.add_lt_add_iff_right, Nat.add_right_cancel_iff]
  any_goals omega
  rw [Nat.mod_eq_of_lt (show m / 262144 < 8 by omega),
    Nat.mod_eq_of_lt (show n / 262144 < 8 by omega)]
  exact hfour.imp_right (And.imp_right (Or.imp_right (And.imp_right
    (Or.imp_right (And.imp_right .inl)))))

/-- The bytes of a lesser text are less. -/
theorem flatMap_utf8EncodeChar_lt {cs ds : List Char} (h : cs < ds) :
    cs.flatMap String.utf8EncodeChar < ds.flatMap String.utf8EncodeChar := by
  induction h with
  | nil =>
    rename_i d ds
    obtain ⟨b, bs, hbytes⟩ := List.exists_cons_of_ne_nil (String.utf8EncodeChar_ne_nil (c := d))
    rw [List.flatMap_nil, List.flatMap_cons, hbytes]
    exact List.nil_lt_cons _ _
  | cons _ ih =>
    rw [List.flatMap_cons, List.flatMap_cons]
    exact List.append_left_lt ih
  | rel hlt => exact utf8EncodeChar_append_lt hlt _ _

/-- **The order of texts is that of their bytes.** -/
theorem bytes_lt_bytes_iff {s t : String} : bytes s < bytes t ↔ s < t := by
  have hlt {s t : String} (h : s < t) : bytes s < bytes t := by
    rw [bytes_eq, bytes_eq]
    exact flatMap_utf8EncodeChar_lt (String.lt_iff_toList_lt.mp h)
  refine ⟨fun h => ?_, hlt⟩
  rcases lt_trichotomy s t with hst | rfl | hst
  · exact hst
  · exact absurd h (List.lt_irrefl _)
  · exact absurd h (List.lt_asymm (hlt hst))

end EventFilter.Text
