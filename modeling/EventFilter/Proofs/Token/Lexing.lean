import EventFilter.Text.Decimal
import EventFilter.Token.Scan

/-!
# Tokens without their places

Where a token stands plays no part in what it is. `Token.lex` reads the tokens and the errors of a
text without keeping their places, and a source has the tokens that its text is read as
(`Source.exists_tokens_iff`). Being free of offsets, it is what statements about texts are made
with. Main statement: whatever is read as a number is written in digits
(`Token.exists_readDigits?_of_mem_lex`).
-/

namespace EventFilter

namespace Token

/-- A token takes something away from a text, with or without blank characters before it. -/
theorem length_rest_scan_lt_of_dropWhile {cs cs' : List Char} {c : Char}
    (h : cs.dropWhile Text.isBlank = c :: cs') : (scan c cs').rest.length < cs.length := by
  have hle := (List.dropWhile_suffix (l := cs) Text.isBlank).length_le
  rw [h] at hle
  exact Nat.lt_of_lt_of_le (length_rest_scan_lt c cs') hle

/-- **The tokens and errors of a text**, in order. -/
def lex (cs : List Char) : List (Except SyntaxError.Cause Token) :=
  match _hcs : cs.dropWhile Text.isBlank with
  | [] => []
  | c :: cs' => (scan c cs').outcome :: lex (scan c cs').rest
termination_by cs.length
decreasing_by exact length_rest_scan_lt_of_dropWhile _hcs

/-- An empty text has no tokens. -/
@[simp] theorem lex_nil : lex [] = [] := by rw [lex.eq_def]; rfl

/-- A blank character before a token is skipped. -/
theorem lex_blank {c : Char} (h : Text.isBlank c = true) (cs : List Char) :
    lex (c :: cs) = lex cs := by
  rw [lex.eq_def, lex.eq_def cs, List.dropWhile_cons, if_pos h]

/-- Blanks before tokens are skipped. -/
theorem lex_blanks_append {blanks : List Char} (h : blanks.all Text.isBlank = true)
    (cs : List Char) : lex (blanks ++ cs) = lex cs := by
  induction blanks with
  | nil => rfl
  | cons c blanks ih =>
    rw [List.all_cons, Bool.and_eq_true] at h
    rw [List.cons_append, lex_blank h.1, ih h.2]

/-- Blanks have no tokens. -/
theorem lex_blanks {blanks : List Char} (h : blanks.all Text.isBlank = true) :
    lex blanks = [] := by
  rw [← List.append_nil blanks, lex_blanks_append h, lex_nil]

/-- A character that is not blank begins a token or an error. -/
theorem lex_cons {c : Char} (h : Text.isBlank c = false) (cs : List Char) :
    lex (c :: cs) = (scan c cs).outcome :: lex (scan c cs).rest := by
  rw [lex.eq_def, List.dropWhile_cons, if_neg (by rw [h]; exact Bool.false_ne_true)]

/-- What holds of every outcome of `scan` holds of everything that is read. -/
theorem forall_mem_lex {motive : Except SyntaxError.Cause Token → Prop}
    (step : ∀ c cs, motive (scan c cs).outcome) (cs : List Char) : ∀ o ∈ lex cs, motive o := by
  fun_induction lex cs with
  | case1 => exact nofun
  | case2 cs c cs' _ ih => exact List.forall_mem_cons.mpr ⟨step c cs', ih⟩

/-- The digits of a number are one or more digits. -/
theorem exists_readDigits?_of_scan {c : Char} {cs : List Char} {digits : String}
    (h : (scan c cs).outcome = .ok (.number digits)) :
    ∃ n, Text.readDigits? digits.toList = some n := by
  unfold scan at h
  split at h
  · cases h
  split at h
  · split at h <;> cases h
  split at h
  · simp only [ofWord] at h
    split at h <;> cases h
  split at h
  · rename_i hc
    cases h
    refine ⟨_, if_pos ⟨by simp, ?_⟩⟩
    rw [String.toList_ofList, List.all_cons, hc, Bool.true_and, List.all_eq_true]
    exact fun d hd => List.all_eq_true.mp List.all_takeWhile d hd
  · cases h

/-- **Whatever is read as a number is written in digits.** -/
theorem exists_readDigits?_of_mem_lex {cs : List Char} {digits : String}
    (h : .ok (.number digits) ∈ lex cs) : ∃ n, Text.readDigits? digits.toList = some n :=
  forall_mem_lex (motive := fun o => o = .ok (.number digits) → _)
    (fun _ _ => exists_readDigits?_of_scan) cs _ h rfl

end Token

namespace Source

/-- A token, or an error, without its place. -/
def withoutSpan : Except SyntaxError Lexeme → Except SyntaxError.Cause Token
  | .ok t => .ok t.token
  | .error e => .error e.cause

/-- The tokens and errors of a source are those of its text. -/
theorem map_lexemesFrom (source : Source) (offset : Nat) (cs : List Char) :
    (source.lexemesFrom offset cs).map withoutSpan = Token.lex cs := by
  fun_induction Token.lex cs generalizing offset with
  | case1 cs hcs =>
    rw [lexemesFrom.eq_def]
    split
    · rfl
    · rename_i hcs'
      rw [hcs] at hcs'
      cases hcs'
  | case2 cs c cs' hcs ih =>
    rw [lexemesFrom.eq_def]
    split
    · rename_i hcs'
      rw [hcs] at hcs'
      cases hcs'
    · rename_i hcs'
      rw [hcs] at hcs'
      cases hcs'
      rw [List.map_cons, ih]
      cases (Token.scan c cs').outcome <;> rfl

/-- A list without errors is a list of tokens, with or without their places. -/
theorem map_withoutSpan_eq_iff {outcomes : List (Except SyntaxError Lexeme)}
    {tokens : List Token} :
    outcomes.map withoutSpan = tokens.map .ok ↔
      ∃ ts : List Lexeme, outcomes = ts.map .ok ∧ ts.map (·.token) = tokens := by
  constructor
  · intro h
    induction outcomes generalizing tokens with
    | nil => exact ⟨[], rfl, (List.map_eq_nil_iff.mp h.symm).symm⟩
    | cons o outcomes ih =>
      obtain ⟨token, tokens, rfl, htoken, htokens⟩ := List.map_eq_cons_iff.mp h.symm
      obtain ⟨ts, rfl, rfl⟩ := ih htokens.symm
      cases o with
      | error e => cases htoken
      | ok t =>
        cases htoken
        exact ⟨t :: ts, rfl, rfl⟩
  · rintro ⟨ts, rfl, rfl⟩
    rw [List.map_map, List.map_map]
    rfl

/-- **A source has the tokens that its text is read as.** -/
theorem exists_tokens_iff {source : Source} {tokens : List Token} :
    (∃ ts, source.tokens = .ok ts ∧ ts.map (·.token) = tokens) ↔
      Token.lex source.chars = tokens.map .ok := by
  unfold Source.tokens lexemes
  simp only [collect_eq_ok_iff]
  rw [← map_lexemesFrom source 0, map_withoutSpan_eq_iff]

end Source

end EventFilter
