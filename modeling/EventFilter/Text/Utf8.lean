/-!
# Byte offsets into a text

A text is a list of characters, and places in it are counted in the bytes of its UTF-8 form. An
offset is a *boundary* if some prefix of the text has exactly that many bytes. `takeBytes` and
`dropBytes` cut a text at an offset; one inside a character is moved down to where it begins, so
the two parts always make up the text (`takeBytes_append_dropBytes`). Main statements: the offset
that a cut is moved to is a boundary (`isBoundary_floorBoundary`), not above the given one
(`floorBoundary_le`), and no boundary lies between the two (`le_floorBoundary`).
-/

namespace EventFilter.Text

/-- The number of bytes of a text in UTF-8. -/
def byteLength : List Char → Nat
  | [] => 0
  | c :: cs => c.utf8Size + byteLength cs

/-- The longest prefix of at most `n` bytes. -/
def takeBytes (n : Nat) : List Char → List Char
  | [] => []
  | c :: cs => if c.utf8Size ≤ n then c :: takeBytes (n - c.utf8Size) cs else []

/-- What `takeBytes` leaves. -/
def dropBytes (n : Nat) : List Char → List Char
  | [] => []
  | c :: cs => if c.utf8Size ≤ n then dropBytes (n - c.utf8Size) cs else c :: cs

/-- The largest boundary that is not above `n`. -/
def floorBoundary (n : Nat) (cs : List Char) : Nat := byteLength (takeBytes n cs)

/-- An offset at which a character begins, or the text ends. -/
def IsBoundary (cs : List Char) (n : Nat) : Prop := ∃ pre suf, cs = pre ++ suf ∧ byteLength pre = n

@[simp] theorem byteLength_nil : byteLength [] = 0 := rfl

@[simp] theorem byteLength_cons (c : Char) (cs : List Char) :
    byteLength (c :: cs) = c.utf8Size + byteLength cs := rfl

/-- Lengths in bytes add up. -/
@[simp] theorem byteLength_append (as bs : List Char) :
    byteLength (as ++ bs) = byteLength as + byteLength bs := by
  induction as with
  | nil => simp
  | cons c as ih => simp [ih, Nat.add_assoc]

/-- **A cut loses nothing.** -/
theorem takeBytes_append_dropBytes (n : Nat) (cs : List Char) :
    takeBytes n cs ++ dropBytes n cs = cs := by
  induction cs generalizing n with
  | nil => rfl
  | cons c cs ih =>
    by_cases h : c.utf8Size ≤ n
    · simp [takeBytes, dropBytes, h, ih]
    · simp [takeBytes, dropBytes, h]

/-- A cut is not moved up. -/
theorem floorBoundary_le (n : Nat) (cs : List Char) : floorBoundary n cs ≤ n := by
  unfold floorBoundary
  induction cs generalizing n with
  | nil => simp [takeBytes]
  | cons c cs ih =>
    by_cases h : c.utf8Size ≤ n
    · have := ih (n - c.utf8Size)
      simp only [takeBytes, h, if_true, byteLength_cons]
      omega
    · simp [takeBytes, h]

/-- A cut falls on a boundary. -/
theorem isBoundary_floorBoundary (n : Nat) (cs : List Char) :
    IsBoundary cs (floorBoundary n cs) :=
  ⟨_, _, (takeBytes_append_dropBytes n cs).symm, rfl⟩

/-- A cut at the end of a prefix gives that prefix back. -/
theorem takeBytes_append (pre suf : List Char) : takeBytes (byteLength pre) (pre ++ suf) = pre := by
  induction pre with
  | nil =>
    cases suf with
    | nil => rfl
    | cons c cs =>
      have := c.utf8Size_pos
      simp [takeBytes]
      omega
  | cons c pre ih => simp [takeBytes, ih]

/-- A cut at the end of a prefix leaves what follows the prefix. -/
theorem dropBytes_append (pre suf : List Char) : dropBytes (byteLength pre) (pre ++ suf) = suf := by
  have h := takeBytes_append_dropBytes (byteLength pre) (pre ++ suf)
  rw [takeBytes_append] at h
  exact List.append_cancel_left h

/-- **A cut is moved no further than it must be.** -/
theorem le_floorBoundary {cs : List Char} {b n : Nat} (hb : IsBoundary cs b) (hn : b ≤ n) :
    b ≤ floorBoundary n cs := by
  obtain ⟨pre, suf, rfl, rfl⟩ := hb
  induction pre generalizing n with
  | nil => simp
  | cons c pre ih =>
    simp only [byteLength_cons] at hn
    have h : c.utf8Size ≤ n := by omega
    have := @ih (n - c.utf8Size) (by omega)
    simp only [floorBoundary, List.cons_append, takeBytes, h, if_true, byteLength_cons] at this ⊢
    omega

/-- A boundary stays where it is. -/
theorem floorBoundary_eq_self {cs : List Char} {n : Nat} (h : IsBoundary cs n) :
    floorBoundary n cs = n :=
  Nat.le_antisymm (floorBoundary_le n cs) (le_floorBoundary h (Nat.le_refl n))

end EventFilter.Text
