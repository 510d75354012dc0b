import EventFilter.Proofs.Grammar

/-!
# Minus signs and numbers

A minus is a sign unless it stands behind an operand, where it subtracts. A sign belongs to the
number behind it, and only a number with a sign can be as large as 2147483648. Whether a minus is a
sign can be told from left to right by remembering what stood last (`Stance`), so how large each
number may be depends on the tokens before it and not on the phrases that they make.
An operand can begin wherever none has just ended, and there a phrase is read as one: all of its
numbers are small enough, and an operand has ended behind it (`Settles`). Each rule of the grammar
keeps this.
Main statement: behind an operand and a minus a number is at most 2147483647, wherever in a source
that may be (`Settles.digitsValue_le_of_subtracted`).
-/

namespace EventFilter

/-- The tokens that an operand can end with. -/
def Token.endsOperand : Token → Bool
  | .identifier _ | .number _ | .string _ => true
  | .keyword .true | .keyword .false | .symbol .rightParen => true
  | _ => false

/-- **What stood last**, as far as the next token depends on it. -/
inductive Stance
  | behindOperand
  | behindSign
  | elsewhere
  deriving DecidableEq

namespace Stance

/-- What stands last after one more token. -/
def next : Stance → Token → Stance
  | .behindOperand, .symbol .minus => .elsewhere
  | _, .symbol .minus => .behindSign
  | _, token => if token.endsOperand then .behindOperand else .elsewhere

/-- What stands last after some more tokens. -/
def after (stance : Stance) (tokens : List Token) : Stance := tokens.foldl next stance

/-- The largest number that can come next. -/
def limit : Stance → Nat
  | .behindSign => 2147483648
  | .behindOperand | .elsewhere => 2147483647

/-- **The numbers among the next tokens are small enough**, each for what stands before it. -/
def Fits : Stance → List Token → Prop
  | _, [] => True
  | stance, token :: tokens =>
    (∀ digits, token = .number digits → Text.digitsValue digits.toList ≤ stance.limit) ∧
      (stance.next token).Fits tokens

variable {stance : Stance} {token : Token} {tokens : List Token} {tss : List (List Token)}

@[simp] theorem after_nil : stance.after [] = stance := rfl

@[simp] theorem after_cons : stance.after (token :: tokens) = (stance.next token).after tokens :=
  rfl

@[simp] theorem after_append (ts us : List Token) :
    stance.after (ts ++ us) = (stance.after ts).after us := List.foldl_append

/-- No token asks for anything in the tokens before it. -/
theorem fits_append {ts us : List Token} :
    stance.Fits (ts ++ us) ↔ stance.Fits ts ∧ (stance.after ts).Fits us := by
  induction ts generalizing stance with
  | nil => simp [Fits]
  | cons t ts ih => simp [Fits, ih, and_assoc]

/-- A token that ends an operand does so wherever it stands. -/
theorem next_of_endsOperand (h : token.endsOperand = true) :
    stance.next token = .behindOperand := by
  unfold next
  split
  · cases h
  · cases h
  · rw [if_pos h]

/-- A token that does not end an operand does so nowhere. -/
theorem next_ne_behindOperand (h : token.endsOperand = false) :
    stance.next token ≠ .behindOperand := by
  unfold next
  split
  · nofun
  · nofun
  · rw [h]
    nofun

/-- Behind an operand a token that does not end one leaves room for another, as a minus does. -/
theorem next_behindOperand (h : token.endsOperand = false) :
    Stance.behindOperand.next token = .elsewhere := by
  unfold next
  split
  · rfl
  · rfl
  · rw [h]
    rfl

/-- A token that does not end an operand is no number. -/
theorem fits_cons (h : token.endsOperand = false) :
    stance.Fits (token :: tokens) ↔ (stance.next token).Fits tokens := by
  refine and_iff_right ?_
  rintro digits rfl
  cases h

end Stance

/-! ### Phrases where an operand can begin -/

/-- **Tokens that are read as an operand** wherever none has just ended. -/
def Settles (tokens : List Token) : Prop :=
  ∀ stance : Stance, stance ≠ .behindOperand →
    stance.Fits tokens ∧ stance.after tokens = .behindOperand

namespace Settles

open Stance

variable {token : Token} {tokens ts us : List Token} {tss : List (List Token)}

/-- A token that ends an operand and is no number is an operand. -/
theorem single (h : token.endsOperand = true)
    (hnumber : ∀ digits, token = .number digits → Text.digitsValue digits.toList ≤ 2147483647) :
    Settles [token] := by
  intro stance _
  refine ⟨⟨fun digits hd => Nat.le_trans (hnumber digits hd) ?_, trivial⟩, next_of_endsOperand h⟩
  cases stance <;> decide

/-- An operand behind a token that does not end one. -/
theorem cons (htoken : token.endsOperand = false) (h : Settles tokens) :
    Settles (token :: tokens) := by
  intro stance _
  rw [fits_cons htoken]
  exact h _ (next_ne_behindOperand htoken)

/-- **An operand goes on** behind an operator. -/
theorem chained (hts : Settles ts) (htoken : token.endsOperand = false) (hus : Settles us) :
    Settles (ts ++ token :: us) := by
  intro stance hs
  obtain ⟨hfits, hafter⟩ := hts stance hs
  obtain ⟨hfits', hafter'⟩ := hus .elsewhere nofun
  rw [fits_append, after_append, hafter, fits_cons htoken, after_cons, next_behindOperand htoken]
  exact ⟨⟨hfits, hfits'⟩, hafter'⟩

/-- **Behind an operand a minus is no sign**: the number that is subtracted fits without one. -/
theorem digitsValue_le_of_subtracted {digits : String}
    (h : Settles (ts ++ .symbol .minus :: .number digits :: us))
    (hts : Stance.elsewhere.after ts = .behindOperand) :
    Text.digitsValue digits.toList ≤ 2147483647 := by
  obtain ⟨-, -, hnumber, -⟩ := fits_append.mp (h .elsewhere nofun).1
  have hle := hnumber digits rfl
  rwa [hts] at hle

/-- The operands of a list begin behind a comma or at its beginning. -/
theorem fits_commaSeparated (h : ∀ ts ∈ tss, Settles ts) {stance : Stance}
    (hs : stance ≠ .behindOperand) : stance.Fits (commaSeparated tss) := by
  induction tss generalizing stance with
  | nil => exact trivial
  | cons ts tss ih =>
    obtain ⟨hts, htss⟩ := List.forall_mem_cons.mp h
    obtain ⟨hfits, hafter⟩ := hts stance hs
    cases tss with
    | nil => simpa [commaSeparated] using hfits
    | cons us tss =>
      have hsplit : commaSeparated (ts :: us :: tss) =
          ts ++ .symbol .comma :: commaSeparated (us :: tss) := by
        simp [commaSeparated, List.intercalate]
      rw [hsplit, fits_append, hafter, fits_cons rfl]
      exact ⟨hfits, ih htss (next_ne_behindOperand rfl)⟩

/-- **A list in parentheses is read as an operand**, also directly behind a name. -/
theorem inParens (h : ∀ ts ∈ tss, Settles ts) (stance : Stance) :
    stance.Fits (.symbol .leftParen :: (commaSeparated tss ++ [.symbol .rightParen])) ∧
      stance.after (.symbol .leftParen :: (commaSeparated tss ++ [.symbol .rightParen])) =
        .behindOperand := by
  have hnext : stance.next (.symbol .leftParen) = .elsewhere := by
    cases stance <;> rfl
  rw [fits_cons rfl, after_cons, hnext, fits_append, after_append]
  exact ⟨⟨fits_commaSeparated h nofun, nofun, trivial⟩, next_of_endsOperand rfl⟩

end Settles

/-- **Every phrase is read as an operand** wherever none has just ended. -/
theorem Derives.settles {functions : Registry} {level : Level} {tokens : List Token} {t : Tree}
    (h : Derives functions level tokens t) : Settles tokens := by
  have hitems {items : List (List Token × Tree)} (ih : ∀ i ∈ items, Settles i.1) :
      ∀ ts ∈ items.map (·.1), Settles ts := by
    intro ts hts
    obtain ⟨i, hi, rfl⟩ := List.mem_map.mp hts
    exact ih i hi
  induction h with
  | conjunction _ ih | negation _ ih | comparison _ ih | sum _ ih | product _ ih | sign _ ih
  | primary _ ih => exact ih
  | or _ _ ihl ihr | xor _ _ ihl ihr | and _ _ ihl ihr | add _ _ ihl ihr | sub _ _ ihl ihr
  | mul _ _ ihl ihr | div _ _ ihl ihr | mod _ _ ihl ihr => exact ihl.chained rfl ihr
  | compare op _ _ ihl ihr => exact ihl.chained (by cases op <;> rfl) ihr
  | like p _ ih => exact ih.chained rfl (.single rfl nofun)
  | notLike p _ ih => exact ih.chained rfl (.cons rfl (.single rfl nofun))
  | among _ _ _ ih ihset =>
    exact ih.chained rfl fun stance _ => Settles.inParens (hitems ihset) stance
  | notAmong _ _ _ ih ihset =>
    exact ih.chained rfl (.cons rfl fun stance _ => Settles.inParens (hitems ihset) stance)
  | not _ ih | negate _ _ ih => exact ih.cons rfl
  | @negativeNumber digits m n hread hn =>
    intro stance hs
    have hsign : stance.next (.symbol .minus) = .behindSign := by
      cases stance with
      | behindOperand => exact absurd rfl hs
      | behindSign | elsewhere => rfl
    obtain ⟨-, -, rfl⟩ := Text.readDigits?_eq_some_iff.mp hread
    rw [Stance.fits_cons rfl, Stance.after_cons, hsign]
    refine ⟨⟨?_, trivial⟩, rfl⟩
    rintro _ ⟨⟩
    have hle := n.le_toInt
    exact show Text.digitsValue digits.toList ≤ 2147483648 by omega
  | @number digits m n hread hn =>
    obtain ⟨-, -, rfl⟩ := Text.readDigits?_eq_some_iff.mp hread
    refine .single rfl ?_
    rintro _ ⟨⟩
    have hlt := n.toInt_lt
    omega
  | string text => exact .single rfl nofun
  | true | false => exact .single rfl nofun
  | present name => exact .cons rfl (.single rfl nofun)
  | attr name => exact .single rfl nofun
  | call _ _ ih =>
    intro stance _
    have hname (name : String) : stance.next (.identifier name) = .behindOperand :=
      Stance.next_of_endsOperand rfl
    obtain ⟨hfits, hafter⟩ := Settles.inParens (hitems ih) .behindOperand
    rw [Stance.after_cons, Stance.Fits, hname]
    exact ⟨⟨nofun, hfits⟩, hafter⟩
  | @parenthesized ts t _ ih =>
    have hinner : ∀ us ∈ [ts], Settles us := List.forall_mem_singleton.mpr ih
    intro stance _
    simpa [commaSeparated] using Settles.inParens hinner stance

end EventFilter
