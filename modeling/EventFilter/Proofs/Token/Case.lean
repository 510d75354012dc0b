import Mathlib.Data.List.Find
import EventFilter.Proofs.Token.Edges

/-!
# Tokens in upper case

How a text is cut into tokens does not depend on the case of its ASCII letters: no quote, digit,
blank or character of a symbol is a letter, and a letter in either case goes on a name. So what is
read at the beginning of a text in upper case is what is read there, in upper case
(`Token.scan_toUpper`).
Main statements: a token that is read from a text has its counterpart in every text that differs
from it in the case of letters only (`Token.exists_scan_of_map_toUpper_eq`), and one token in two
such texts is written in the same way, unless it is a keyword (`Token.text_eq_of_isWritten`).
-/

namespace EventFilter

/-! ### Letters -/

namespace Text

variable {c d : Char}

/-- Whatever is not one of the letters a to z stays as it is. -/
theorem toUpper_eq_self (h : c.isLower = false) : c.toUpper = c := by
  have hrange : ¬ (c.val ≥ 97 ∧ c.val ≤ 122) := by
    rw [← decide_eq_false_iff_not, Bool.decide_and]
    exact h
  unfold Char.toUpper
  exact dif_neg hrange

/-- **What the letters a to z have in common with A to Z**, all characters have in common with
themselves in upper case. -/
theorem apply_toUpper {α : Type} {p : Char → α}
    (h : ∀ n ∈ List.range' 97 26, p (Char.ofNat n).toUpper = p (Char.ofNat n)) (c : Char) :
    p c.toUpper = p c := by
  cases hc : c.isLower with
  | false => rw [toUpper_eq_self hc]
  | true =>
    have hlower : (decide (c.val ≥ 97) && decide (c.val ≤ 122)) = true := hc
    have hrange : 97 ≤ c.toNat ∧ c.toNat ≤ 122 := by
      simpa [UInt32.le_iff_toNat_le] using hlower
    have hmem : c.toNat ∈ List.range' 97 26 := List.mem_range'_1.mpr ⟨hrange.1, by omega⟩
    have hp := h _ hmem
    rwa [Char.ofNat_toNat] at hp

/-- What reading asks of a character. -/
structure Traits where
  isAlpha : Bool
  isDigit : Bool
  isBlank : Bool
  isQuote : Bool
  isNameStart : Bool
  isNamePart : Bool
  utf8Size : Nat
  deriving DecidableEq

/-- The traits of a character. -/
def traits (c : Char) : Traits where
  isAlpha := c.isAlpha
  isDigit := c.isDigit
  isBlank := isBlank c
  isQuote := Token.isQuote c
  isNameStart := Token.isNameStart c
  isNamePart := Token.isNamePart c
  utf8Size := c.utf8Size

/-- **What reading asks of a letter** does not depend on its case. -/
theorem traits_toUpper (c : Char) : traits c.toUpper = traits c :=
  apply_toUpper (by decide +kernel) c

/-- A letter in upper case is a letter. -/
@[simp] theorem isAlpha_toUpper (c : Char) : c.toUpper.isAlpha = c.isAlpha :=
  congrArg Traits.isAlpha (traits_toUpper c)

/-- Nothing else than itself is in upper case what is no letter. -/
theorem toUpper_eq_iff (hd : d.isAlpha = false) : c.toUpper = d ↔ c = d := by
  constructor
  · rintro rfl
    rw [isAlpha_toUpper] at hd
    exact (toUpper_eq_self (Bool.or_eq_false_iff.mp hd).2).symm
  · rintro rfl
    exact toUpper_eq_self (Bool.or_eq_false_iff.mp hd).2

/-- Where there are no letters, texts that differ in the case of letters only are the same. -/
theorem eq_of_map_toUpper_eq_of_forall {cs cs' : List Char}
    (h : cs'.map Char.toUpper = cs.map Char.toUpper) (hcs : ∀ c ∈ cs, c.isAlpha = false) :
    cs' = cs := by
  induction cs generalizing cs' with
  | nil => exact List.map_eq_nil_iff.mp h
  | cons c cs ih =>
    obtain ⟨hc, hcs⟩ := List.forall_mem_cons.mp hcs
    rw [List.map_cons, (toUpper_eq_iff hc).mpr rfl] at h
    obtain ⟨c', cs', rfl, hc', htail⟩ := List.map_eq_cons_iff.mp h
    rw [(toUpper_eq_iff hc).mp hc', ih htail hcs]

/-- **Texts that differ in the case of letters only** are the same if their letters are. -/
theorem eq_of_map_toUpper_eq {cs cs' : List Char} (h : cs'.map Char.toUpper = cs.map Char.toUpper)
    (hletters : cs'.filter Char.isAlpha = cs.filter Char.isAlpha) : cs' = cs := by
  induction cs generalizing cs' with
  | nil => exact List.map_eq_nil_iff.mp h
  | cons c cs ih =>
    rw [List.map_cons] at h
    obtain ⟨c', cs', rfl, hc, hcs⟩ := List.map_eq_cons_iff.mp h
    have halpha : c'.isAlpha = c.isAlpha := by rw [← isAlpha_toUpper, hc, isAlpha_toUpper]
    cases hletter : c.isAlpha with
    | true =>
      rw [List.filter_cons_of_pos hletter, List.filter_cons_of_pos (halpha.trans hletter)]
        at hletters
      obtain ⟨rfl, htail⟩ := List.cons.inj hletters
      rw [ih hcs htail]
    | false =>
      have hneg : ¬ c.isAlpha = true := by simp [hletter]
      rw [List.filter_cons_of_neg hneg, List.filter_cons_of_neg (halpha ▸ hneg)] at hletters
      rw [(toUpper_eq_iff hletter).mpr rfl] at hc
      rw [(toUpper_eq_iff hletter).mp hc, ih hcs hletters]

/-- Blanks have no case. -/
@[simp] theorem isBlank_toUpper (c : Char) : isBlank c.toUpper = isBlank c :=
  congrArg Traits.isBlank (traits_toUpper c)

/-- A letter has as many bytes in either case. -/
@[simp] theorem utf8Size_toUpper (c : Char) : c.toUpper.utf8Size = c.utf8Size :=
  congrArg Traits.utf8Size (traits_toUpper c)

end Text

namespace Token

variable {quote c c' : Char} {cs cs' : List Char}

/-- Quotes have no case. -/
@[simp] theorem isQuote_toUpper (c : Char) : isQuote c.toUpper = isQuote c :=
  congrArg Text.Traits.isQuote (Text.traits_toUpper c)

/-- A name can begin with a letter in either case. -/
@[simp] theorem isNameStart_toUpper (c : Char) : isNameStart c.toUpper = isNameStart c :=
  congrArg Text.Traits.isNameStart (Text.traits_toUpper c)

/-- A name can go on with a letter in either case. -/
@[simp] theorem isNamePart_toUpper (c : Char) : isNamePart c.toUpper = isNamePart c :=
  congrArg Text.Traits.isNamePart (Text.traits_toUpper c)

/-- Digits have no case. -/
@[simp] theorem isDigit_toUpper (c : Char) : c.toUpper.isDigit = c.isDigit :=
  congrArg Text.Traits.isDigit (Text.traits_toUpper c)

/-- Digits are no letters. -/
theorem isAlpha_of_isDigit (h : c.isDigit = true) : c.isAlpha = false := by
  have hstart := (of_isDigit h).2.2.1
  rw [isNameStart, Text.isAlphabetic, Bool.or_eq_false_iff, Bool.or_eq_false_iff] at hstart
  exact hstart.1.1

/-- What has no letters is the same in upper case. -/
theorem map_toUpper_of_forall (h : ∀ c ∈ cs, c.isAlpha = false) : cs.map Char.toUpper = cs := by
  have hself : ∀ c ∈ cs, c.toUpper = id c := fun c hc => (Text.toUpper_eq_iff (h c hc)).mpr rfl
  rw [List.map_congr_left hself, List.map_id]

/-- Digits are the same in upper case. -/
theorem map_toUpper_of_all_isDigit (h : cs.all Char.isDigit = true) : cs.map Char.toUpper = cs :=
  map_toUpper_of_forall fun c hc => isAlpha_of_isDigit (List.all_eq_true.mp h c hc)

/-! ### What is read in upper case -/

/-- A token with its text in upper case. -/
def raise : Token → Token
  | .identifier name => .identifier (Text.asciiUpper name)
  | .string text => .string (Text.asciiUpper text)
  | token => token

/-- A token or an error in upper case. -/
def raiseOutcome : Except SyntaxError.Cause Token → Except SyntaxError.Cause Token
  | .ok token => .ok token.raise
  | .error (.unexpectedCharacter c) => .error (.unexpectedCharacter c.toUpper)
  | .error cause => .error cause

/-- What was read, in upper case. -/
def Scanned.raise (s : Scanned) : Scanned :=
  ⟨raiseOutcome s.outcome, s.text.map Char.toUpper, s.rest.map Char.toUpper⟩

/-- What was read up to a closing quote, in upper case. -/
def StringBody.raise (body : StringBody) : StringBody :=
  ⟨body.value.map Char.toUpper, body.text.map Char.toUpper, body.rest.map Char.toUpper⟩

/-- A text without letters begins the same texts in either case. -/
theorem isPrefixOf_map_toUpper {spelled : List Char} (h : ∀ d ∈ spelled, d.isAlpha = false) :
    spelled.isPrefixOf (cs.map Char.toUpper) = spelled.isPrefixOf cs := by
  induction spelled generalizing cs with
  | nil => rfl
  | cons d ds ih =>
    obtain ⟨hd, hds⟩ := List.forall_mem_cons.mp h
    cases cs with
    | nil => rfl
    | cons c cs =>
      have heq : (d == c.toUpper) = (d == c) := by
        rw [Bool.eq_iff_iff, beq_iff_eq, beq_iff_eq, eq_comm, Text.toUpper_eq_iff hd, eq_comm]
      rw [List.map_cons, List.isPrefixOf_cons_cons, List.isPrefixOf_cons_cons, heq, ih hds]

/-- Symbols have no letters. -/
theorem isAlpha_of_mem_spellings {spelled : List Char × Symbol} (h : spelled ∈ Symbol.spellings) :
    ∀ d ∈ spelled.1, d.isAlpha = false := by
  have hall : (Symbol.spellings.all fun p => p.1.all fun d => !d.isAlpha) = true := by
    decide +kernel
  intro d hd
  have hletter := List.all_eq_true.mp (List.all_eq_true.mp hall spelled h) d hd
  rwa [Bool.not_eq_true'] at hletter

/-- Symbols have no case. -/
theorem find?_spellings_map_toUpper (cs : List Char) :
    Symbol.spellings.find? (·.1.isPrefixOf (cs.map Char.toUpper)) =
      Symbol.spellings.find? (·.1.isPrefixOf cs) := by
  exact List.find?_congr fun p hp => isPrefixOf_map_toUpper (isAlpha_of_mem_spellings hp)

/-- **A string literal in upper case** ends where it ends. -/
theorem stringBody_map_toUpper (hquote : isQuote quote = true) :
    stringBody quote (cs.map Char.toUpper) = (stringBody quote cs).map StringBody.raise := by
  have hletter : quote.isAlpha = false := by
    simp only [isQuote, Bool.or_eq_true, beq_iff_eq] at hquote
    rcases hquote with rfl | rfl <;> decide
  have hne := ne_backslash_of_isQuote hquote
  have hself : quote.toUpper = quote := (Text.toUpper_eq_iff hletter).mpr rfl
  have hslash : '\\'.toUpper = '\\' := rfl
  have hquoteNe {c : Char} : ¬ c = quote → c.toUpper ≠ quote :=
    mt (Text.toUpper_eq_iff hletter).mp
  have hslashNe {c : Char} : ¬ c = '\\' → c.toUpper ≠ '\\' := mt (Text.toUpper_eq_iff rfl).mp
  -- What is put before the rest of a literal is put there in upper case.
  have hcons (value text : List Char) (body : Option StringBody) :
      (body.map (.cons value text)).map StringBody.raise = (body.map StringBody.raise).map
        (.cons (value.map Char.toUpper) (text.map Char.toUpper)) := by
    cases body <;> simp [StringBody.cons, StringBody.raise]
  fun_induction stringBody quote cs with
  | case1 => rw [List.map_nil, stringBody.eq_def, Option.map_none]
  | case5 =>
    rw [List.map_cons, List.map_nil, hslash, stringBody.eq_def, Option.map_none]
    exact (if_neg hne.symm).trans (if_pos rfl)
  | case2 =>
    rw [List.map_cons, hself]
    have hend : stringBody quote [quote] = _ := stringBody_end fun _ h => by cases h
    simpa [StringBody.raise, hself] using hend
  | case3 ds ih =>
    rw [List.map_cons, List.map_cons, hself, stringBody_quote_quote, ih, hcons]
    simp only [List.map_cons, List.map_nil, hself]
  | case4 d ds hd =>
    rw [List.map_cons, hself, stringBody_end]
    · simp [StringBody.raise, hself]
    · rintro _ ⟨⟩
      exact hquoteNe hd
  | case6 ds _ ih =>
    rw [List.map_cons, List.map_cons, hslash, stringBody_backslash_backslash hne, ih, hcons]
    rfl
  | case7 ds _ _ ih =>
    rw [List.map_cons, List.map_cons, hslash, hself, stringBody_backslash_quote hne, ih, hcons]
    simp only [List.map_cons, List.map_nil, hself, hslash]
  | case8 d ds hd hdq _ ih =>
    rw [List.map_cons] at ih
    rw [List.map_cons, List.map_cons, hslash, stringBody_backslash hne (hslashNe hd) (hquoteNe hdq),
      ih, hcons]
    rfl
  | case9 c cs hcq hc ih =>
    rw [List.map_cons, stringBody_char (hslashNe hc) (hquoteNe hcq), ih, hcons]
    rfl

/-- Whether a word is a keyword does not depend on its case. -/
theorem ofWord_map_toUpper (word : List Char) :
    ofWord (word.map Char.toUpper) = (ofWord word).raise := by
  have hword : String.ofList (word.map Char.toUpper) = Text.asciiUpper (String.ofList word) := by
    rw [Text.asciiUpper, String.toList_ofList]
  rw [ofWord, ofWord, hword]
  simp only [Keyword.ofText?, Text.asciiUpper_asciiUpper]
  split <;> rfl

/-- Characters of a class that has no case, in upper case. -/
theorem takeWhile_and_dropWhile_map_toUpper {p : Char → Bool} (hp : ∀ c, p c.toUpper = p c)
    (cs : List Char) :
    (cs.map Char.toUpper).takeWhile p = (cs.takeWhile p).map Char.toUpper ∧
      (cs.map Char.toUpper).dropWhile p = (cs.dropWhile p).map Char.toUpper := by
  have hcomp : p ∘ Char.toUpper = p := funext hp
  rw [List.takeWhile_map, List.dropWhile_map, hcomp]
  exact ⟨rfl, rfl⟩

/-- **What is read at the beginning of a text in upper case** is what is read there, in upper
case. -/
theorem scan_toUpper (c : Char) (cs : List Char) :
    scan c.toUpper (cs.map Char.toUpper) = (scan c cs).raise := by
  unfold scan
  rw [← List.map_cons, find?_spellings_map_toUpper, List.map_cons]
  split
  · rename_i spelled s hfind
    have hletters := isAlpha_of_mem_spellings (List.mem_of_find?_eq_some hfind)
    have hspelled := map_toUpper_of_forall hletters
    rw [Scanned.raise, hspelled, List.map_drop, List.map_cons]
    rfl
  rw [isQuote_toUpper, isNameStart_toUpper, isDigit_toUpper]
  split
  · rename_i hquote
    have hself : c.toUpper = c := by
      simp only [isQuote, Bool.or_eq_true, beq_iff_eq] at hquote
      rcases hquote with rfl | rfl <;> rfl
    rw [hself, stringBody_map_toUpper hquote]
    cases stringBody c cs with
    | none => simp [Scanned.raise, raiseOutcome, hself]
    | some body =>
      simp [Scanned.raise, raiseOutcome, raise, StringBody.raise, Text.asciiUpper, hself]
  split
  · obtain ⟨htake, hdrop⟩ := takeWhile_and_dropWhile_map_toUpper isNamePart_toUpper cs
    simp only [htake, hdrop, Scanned.raise, ← List.map_cons, ofWord_map_toUpper, raiseOutcome]
  split
  · rename_i hdigit
    obtain ⟨htake, hdrop⟩ := takeWhile_and_dropWhile_map_toUpper isDigit_toUpper cs
    have hdigits : (c :: cs.takeWhile Char.isDigit).all Char.isDigit = true := by
      rw [List.all_cons, hdigit, List.all_takeWhile, Bool.and_self]
    simp only [htake, hdrop, Scanned.raise, ← List.map_cons, map_toUpper_of_all_isDigit hdigits]
    rfl
  · rfl

/-- A token in upper case is read from a token. -/
theorem exists_of_raiseOutcome_eq_ok {outcome : Except SyntaxError.Cause Token} {token : Token}
    (h : raiseOutcome outcome = .ok token) : ∃ t, outcome = .ok t ∧ t.raise = token := by
  cases outcome with
  | ok t => exact ⟨t, rfl, Except.ok.inj h⟩
  | error cause => cases cause <;> cases h

/-- **A token has a counterpart at the same place** in every text that differs in the case of
letters only. -/
theorem exists_scan_of_map_toUpper_eq {text text' rest rest' : List Char} {token : Token}
    (h : scan c (text ++ rest) = ⟨.ok token, c :: text, rest⟩)
    (htext : (c' :: text').map Char.toUpper = (c :: text).map Char.toUpper)
    (hrest : rest'.map Char.toUpper = rest.map Char.toUpper) :
    ∃ token', scan c' (text' ++ rest') = ⟨.ok token', c' :: text', rest'⟩ ∧
      token'.raise = token.raise := by
  have hraise : (scan c' (text' ++ rest')).raise = Scanned.raise ⟨.ok token, c :: text, rest⟩ := by
    rw [List.map_cons, List.map_cons] at htext
    obtain ⟨hc, htail⟩ := List.cons.inj htext
    rw [← h, ← scan_toUpper, ← scan_toUpper, hc, List.map_append, List.map_append, htail, hrest]
  have happend := scan_append c' (text' ++ rest')
  generalize scan c' (text' ++ rest') = scanned at hraise happend
  obtain ⟨outcome, word, left⟩ := scanned
  obtain ⟨houtcome, hword, -⟩ := Scanned.mk.inj hraise
  obtain ⟨token', rfl, htoken⟩ := exists_of_raiseOutcome_eq_ok houtcome
  have hlength : word.length = (c' :: text').length := by
    have hlength := congrArg List.length (hword.trans htext.symm)
    rwa [List.length_map, List.length_map] at hlength
  obtain ⟨rfl, rfl⟩ := List.append_inj happend hlength
  exact ⟨token', rfl, htoken⟩

/-! ### What is as it is written -/

/-- **A string literal denotes what is written in it**, but for quotes and backslashes. -/
theorem filter_text_of_stringBody {p : Char → Bool} {body : StringBody}
    (h : stringBody quote cs = some body) (hquote : p quote = false) (hslash : p '\\' = false) :
    body.text.filter p = body.value.filter p := by
  fun_induction stringBody quote cs generalizing body with
  | case1 | case5 => cases h
  | case2 | case4 =>
    cases h
    simp [hquote]
  | case3 ds ih | case6 ds _ ih | case7 ds _ _ ih | case8 d ds _ _ _ ih | case9 c cs _ _ ih =>
    obtain ⟨b, hb, rfl⟩ := Option.map_eq_some_iff.mp h
    have hrest := ih hb
    simp [StringBody.cons, List.filter_cons, hquote, hslash, hrest]

/-- Whether a character is neither the quote of a string literal nor a backslash. -/
def isContent (quote c : Char) : Bool := c != quote && c != '\\'

/-- **A token as it is written**: a name and a number are their texts, a keyword and a symbol are
spelled by theirs, and a string literal has the characters that stand between its quotes, in order,
if quotes and backslashes are not counted. -/
def IsWritten (text : List Char) : Token → Prop
  | .identifier name => text = name.toList
  | .number digits => text = digits.toList
  | .string value => ∃ quote body, isQuote quote = true ∧ text = quote :: (body ++ [quote]) ∧
      body.filter (isContent quote) = value.toList.filter (isContent quote)
  | .keyword k => Keyword.ofText? (String.ofList text) = some k
  | .symbol s => (text, s) ∈ Symbol.spellings

variable {text text' rest rest' : List Char} {token : Token}

/-- A word is a keyword, or a name as it is. -/
theorem isWritten_ofWord (word : List Char) : (ofWord word).IsWritten word := by
  unfold ofWord
  split
  · assumption
  · exact String.toList_ofList.symm

/-- **Every token that is read is as it is written.** -/
theorem isWritten_of_scan (h : scan c cs = ⟨.ok token, text, rest⟩) : token.IsWritten text := by
  unfold scan at h
  split at h
  · rename_i hfind
    obtain ⟨htoken, rfl, -⟩ := Scanned.mk.inj h
    cases htoken
    exact List.mem_of_find?_eq_some hfind
  split at h
  · rename_i hquote
    split at h
    · rename_i body hbody
      obtain ⟨htoken, rfl, -⟩ := Scanned.mk.inj h
      cases htoken
      obtain ⟨front, hfront⟩ := List.getLast?_eq_some_iff.mp (getLast?_text_of_stringBody hbody)
      have hcontent : isContent c c = false := by simp [isContent]
      have hfilter := filter_text_of_stringBody hbody hcontent (by simp [isContent])
      rw [hfront, List.filter_append, List.filter_cons_of_neg (by simp [hcontent]), List.filter_nil,
        List.append_nil] at hfilter
      refine ⟨c, front, hquote, by rw [hfront], ?_⟩
      rw [hfilter, String.toList_ofList]
    · cases (Scanned.mk.inj h).1
  split at h
  · obtain ⟨htoken, rfl, -⟩ := Scanned.mk.inj h
    cases htoken
    exact isWritten_ofWord _
  split at h
  · obtain ⟨htoken, rfl, -⟩ := Scanned.mk.inj h
    cases htoken
    exact String.toList_ofList.symm
  · cases (Scanned.mk.inj h).1

/-- The letters of a string literal are those of what it denotes. -/
theorem filter_isAlpha_of_isWritten {value : String} (h : (Token.string value).IsWritten text) :
    text.filter Char.isAlpha = value.toList.filter Char.isAlpha := by
  obtain ⟨quote, body, hquote, rfl, hbody⟩ := h
  have hletter : quote.isAlpha = false := by
    simp only [isQuote, Bool.or_eq_true, beq_iff_eq] at hquote
    rcases hquote with rfl | rfl <;> decide
  have hcontent (cs : List Char) :
      cs.filter Char.isAlpha = (cs.filter (isContent quote)).filter Char.isAlpha := by
    rw [List.filter_filter]
    apply List.filter_congr
    intro c _
    cases hc : c.isAlpha with
    | false => rfl
    | true =>
      have hne (d : Char) (hd : d.isAlpha = false) : (c != d) = true := by
        rw [bne_iff_ne]
        rintro rfl
        rw [hc] at hd
        cases hd
      rw [isContent, hne quote hletter, hne '\\' rfl]
      rfl
  have hneg : ¬ quote.isAlpha = true := by simp [hletter]
  rw [List.filter_cons_of_neg hneg, List.filter_append, List.filter_cons_of_neg hneg,
    List.filter_nil, List.append_nil, hcontent, hbody, ← hcontent]

/-- **Only a keyword can be written in more than one case.** -/
theorem text_eq_of_isWritten (h : token.IsWritten text) (h' : token.IsWritten text')
    (hkeyword : token.isKeyword = false)
    (halike : text'.map Char.toUpper = text.map Char.toUpper) : text' = text := by
  cases token with
  | identifier name => exact h'.trans h.symm
  | number digits => exact h'.trans h.symm
  | string value =>
    have hletters := filter_isAlpha_of_isWritten h
    have hletters' := filter_isAlpha_of_isWritten h'
    exact Text.eq_of_map_toUpper_eq halike (hletters'.trans hletters.symm)
  | keyword k => cases hkeyword
  | symbol s =>
    exact Text.eq_of_map_toUpper_eq_of_forall halike (isAlpha_of_mem_spellings h)

end Token

end EventFilter
