import EventFilter.Proofs.Token.Lexing
import EventFilter.Proofs.Token.Quoting

/-!
# Writing tokens

How a token is written, and that what is written is read as that token wherever it stands before a
character that cannot go on it. Main statement: a token that can be written at all is read back from
its spelling (`Token.lex_spelling`).
-/

namespace EventFilter

namespace Token

/-- The quote that a text is put between: apostrophes if they will do. -/
def quoteFor (cs : List Char) : Char := if isQuotable '\'' cs then '\'' else '"'

/-- **How a token is written.** -/
def spelling : Token → List Char
  | .identifier name => name.toList
  | .number digits => digits.toList
  | .string text =>
    let quote := quoteFor text.toList
    quote :: (doubled quote text.toList ++ [quote])
  | .keyword k => k.text.toList
  | .symbol s => s.text.toList

/-- A token that some text is read as, written as it is. -/
def IsWritable : Token → Prop
  | .identifier name => lex name.toList = [.ok (.identifier name)]
  | .number digits => ∃ n, Text.readDigits? digits.toList = some n
  | .string text => isQuotable '\'' text.toList = true ∨ isQuotable '"' text.toList = true
  | .keyword _ | .symbol _ => True

/-! ### Characters -/

/-- The characters behind which a token can stand. -/
def delimiters : List Char := [' ', '(', ')', ',']

/-- The characters that symbols begin with. -/
def symbolStarts : List Char := ['<', '>', '!', '=', '+', '-', '*', '/', '%', '(', ')', ',']

/-- A text that cannot go on a token before it. -/
def Delimited (rest : List Char) : Prop := ∀ c ∈ rest.head?, c ∈ delimiters

variable {c : Char} {cs rest : List Char}

/-- A delimiter goes on no token. -/
theorem of_mem_delimiters (h : c ∈ delimiters) :
    isNamePart c = false ∧ c.isDigit = false ∧ isQuote c = false := by
  have hall : (delimiters.all fun c => !isNamePart c && !c.isDigit && !isQuote c) = true := by
    decide +kernel
  simpa [and_assoc] using List.all_eq_true.mp hall c h

/-- No name begins as a symbol or a string does. -/
theorem of_isNameStart (h : isNameStart c = true) : isQuote c = false ∧ c ∉ symbolStarts := by
  have hall : (('\'' :: '"' :: symbolStarts).all fun c => !isNameStart c) = true := by
    decide +kernel
  have hother : c ∉ '\'' :: '"' :: symbolStarts := fun hmem => by
    have := List.all_eq_true.mp hall c hmem
    rw [h] at this
    cases this
  simp only [List.mem_cons, not_or] at hother
  obtain ⟨hsingle, hdouble, hsymbol⟩ := hother
  refine ⟨?_, hsymbol⟩
  rw [isQuote, beq_false_of_ne hsingle, beq_false_of_ne hdouble, Bool.or_self]

/-- A digit begins numbers only. -/
theorem of_isDigit (h : c.isDigit = true) : Text.isBlank c = false ∧ isQuote c = false ∧
    isNameStart c = false ∧ c ∉ symbolStarts := by
  have hall : ((List.range' 48 10).all fun n => !Text.isBlank (Char.ofNat n) &&
      !isQuote (Char.ofNat n) && !isNameStart (Char.ofNat n) &&
      !symbolStarts.contains (Char.ofNat n)) = true := by decide +kernel
  simp only [Char.isDigit, ge_iff_le, Bool.and_eq_true, decide_eq_true_eq,
    UInt32.le_iff_toNat_le] at h
  have hmem : c.toNat ∈ List.range' 48 10 :=
    List.mem_range'_1.mpr ⟨h.1, Nat.lt_succ_of_le h.2⟩
  have hc := List.all_eq_true.mp hall _ hmem
  rw [Char.ofNat_toNat] at hc
  simpa [and_assoc] using hc

/-- A character that begins no symbol. -/
theorem find?_spellings_eq_none (h : c ∉ symbolStarts) :
    Symbol.spellings.find? (·.1.isPrefixOf (c :: cs)) = none := by
  have hall : (Symbol.spellings.all fun p => p.1.head?.any symbolStarts.contains) = true := by
    decide
  rw [List.find?_eq_none]
  intro p hp hbegins
  have hstart := List.all_eq_true.mp hall p hp
  obtain ⟨text, s⟩ := p
  cases text with
  | nil => cases hstart
  | cons d ds =>
    rw [List.isPrefixOf_cons_cons, Bool.and_eq_true, beq_iff_eq] at hbegins
    rw [List.head?_cons, Option.any_some, List.contains_iff_mem, hbegins.1] at hstart
    exact h hstart

/-- Characters of one class before a text that begins with a character of another. -/
theorem span_append {p : Char → Bool} (hcs : cs.all p = true)
    (hrest : ∀ d ∈ rest.head?, p d = false) :
    (cs ++ rest).takeWhile p = cs ∧ (cs ++ rest).dropWhile p = rest := by
  have hall := List.all_eq_true.mp hcs
  rw [List.takeWhile_append_of_pos hall, List.dropWhile_append_of_pos hall]
  cases rest with
  | nil => exact ⟨List.append_nil cs, rfl⟩
  | cons d ds =>
    have hd := Bool.eq_false_iff.mp (hrest d rfl)
    rw [List.takeWhile_cons_of_neg hd, List.dropWhile_cons_of_neg hd]
    exact ⟨List.append_nil cs, rfl⟩

/-! ### Words and numbers -/

/-- **A word is read up to a delimiter.** -/
theorem lex_word (hblank : Text.isBlank c = false) (hstart : isNameStart c = true)
    (hcs : cs.all isNamePart = true) (hrest : Delimited rest) :
    lex (c :: (cs ++ rest)) = .ok (ofWord (c :: cs)) :: lex rest := by
  obtain ⟨hquote, hsymbol⟩ := of_isNameStart hstart
  obtain ⟨htake, hdrop⟩ := span_append hcs fun d hd => (of_mem_delimiters (hrest d hd)).1
  have hscan : scan c (cs ++ rest) = ⟨.ok (ofWord (c :: cs)), c :: cs, rest⟩ := by
    unfold scan
    rw [find?_spellings_eq_none hsymbol]
    simp only [hquote, Bool.false_eq_true, if_false, hstart, if_true, htake, hdrop]
  rw [lex_cons hblank, hscan]

/-- A number is scanned up to a delimiter. -/
theorem scan_digits (hc : c.isDigit = true) (hcs : cs.all Char.isDigit = true)
    (hrest : Delimited rest) :
    scan c (cs ++ rest) = ⟨.ok (.number (String.ofList (c :: cs))), c :: cs, rest⟩ := by
  obtain ⟨-, hquote, hstart, hsymbol⟩ := of_isDigit hc
  obtain ⟨htake, hdrop⟩ := span_append hcs fun d hd => (of_mem_delimiters (hrest d hd)).2.1
  unfold scan
  rw [find?_spellings_eq_none hsymbol]
  simp only [hquote, hstart, Bool.false_eq_true, if_false, hc, if_true, htake, hdrop]

/-- **A number is read up to a delimiter.** -/
theorem lex_digits (hc : c.isDigit = true) (hcs : cs.all Char.isDigit = true)
    (hrest : Delimited rest) :
    lex (c :: (cs ++ rest)) = .ok (.number (String.ofList (c :: cs))) :: lex rest := by
  rw [lex_cons (of_isDigit hc).1, scan_digits hc hcs hrest]

/-- **A text between quotes is read up to a delimiter.** -/
theorem lex_quoted {quote : Char} (hquote : isQuote quote = true)
    (hcs : isQuotable quote cs = true) (hrest : Delimited rest) :
    lex (quote :: (doubled quote cs ++ quote :: rest)) =
      .ok (.string (String.ofList cs)) :: lex rest := by
  have hsymbol : Text.isBlank quote = false ∧ quote ∉ symbolStarts := by
    simp only [isQuote, Bool.or_eq_true, beq_iff_eq] at hquote
    rcases hquote with rfl | rfl <;> decide
  have hend : ∀ d ∈ rest.head?, d ≠ quote := by
    rintro d hd rfl
    rw [(of_mem_delimiters (hrest d hd)).2.2] at hquote
    cases hquote
  have hscan : (scan quote (doubled quote cs ++ quote :: rest)).outcome =
        .ok (.string (String.ofList cs)) ∧
      (scan quote (doubled quote cs ++ quote :: rest)).rest = rest := by
    unfold scan
    rw [find?_spellings_eq_none hsymbol.2,
      stringBody_doubled (ne_backslash_of_isQuote hquote) hcs hend]
    simp only [hquote, if_true, and_self]
  rw [lex_cons hsymbol.1, hscan.1, hscan.2]

/-! ### All tokens -/

/-- How a symbol is written, and what that is read as before a delimiter. -/
theorem exists_scan_symbol (s : Symbol) (hrest : Delimited rest) :
    ∃ c cs, s.text.toList = c :: cs ∧ Text.isBlank c = false ∧
      scan c (cs ++ rest) = ⟨.ok (.symbol s), c :: cs, rest⟩ := by
  cases rest with
  | nil => cases s <;> exact ⟨_, _, rfl, by decide, rfl⟩
  | cons d ds =>
    have hd := hrest d rfl
    simp only [delimiters, List.mem_cons, List.not_mem_nil, or_false] at hd
    rcases hd with rfl | rfl | rfl | rfl <;> cases s <;> exact ⟨_, _, rfl, by decide, rfl⟩

/-- A keyword is a word. -/
theorem exists_word_of_keyword (k : Keyword) :
    ∃ c cs, k.text.toList = c :: cs ∧ Text.isBlank c = false ∧ isNameStart c = true ∧
      cs.all isNamePart = true ∧ ofWord (c :: cs) = .keyword k := by
  cases k <;> exact ⟨_, _, rfl, by decide, by decide, by decide, by decide⟩

/-- What is read as a name is as long as the name. -/
theorem of_scan_eq_identifier {name : String}
    (h : (scan c cs).outcome = .ok (.identifier name)) :
    isNameStart c = true ∧ name.toList = c :: cs.takeWhile isNamePart ∧
      ofWord name.toList = .identifier name := by
  unfold scan at h
  split at h
  · cases h
  split at h
  · split at h <;> cases h
  split at h
  · rename_i hstart
    have hword := Except.ok.inj h
    have hname : name = String.ofList (c :: cs.takeWhile isNamePart) := by
      simp only [ofWord] at hword
      split at hword <;> cases hword
      rfl
    refine ⟨hstart, ?_, ?_⟩
    · rw [hname, String.toList_ofList]
    · rw [hname, String.toList_ofList, hword, hname]
  split at h <;> cases h

/-- **A name is a word** if it is read as one name. -/
theorem exists_word_of_lex {name : String} (h : lex name.toList = [.ok (.identifier name)]) :
    ∃ c cs, name.toList = c :: cs ∧ Text.isBlank c = false ∧ isNameStart c = true ∧
      cs.all isNamePart = true ∧ ofWord (c :: cs) = .identifier name := by
  have hblank := List.head?_dropWhile_not Text.isBlank name.toList
  have hsuffix := List.dropWhile_suffix (l := name.toList) Text.isBlank
  rw [lex.eq_def] at h
  split at h
  · cases h
  · rename_i c cs hdrop
    obtain ⟨hstart, hname, hword⟩ := of_scan_eq_identifier (List.cons.inj h).1
    rw [hdrop] at hblank hsuffix
    -- Neither blank characters nor anything behind the name can have been left out.
    have hlength : (c :: cs).length = name.toList.length := by
      refine Nat.le_antisymm hsuffix.length_le ?_
      rw [hname, List.length_cons, List.length_cons]
      exact Nat.succ_le_succ (List.takeWhile_prefix isNamePart).length_le
    have heq := hsuffix.eq_of_length hlength
    rw [← heq] at hname hword
    have htake : cs.takeWhile isNamePart = cs := (List.cons.inj hname).2.symm
    refine ⟨c, cs, heq.symm, hblank, hstart, ?_, hword⟩
    rw [← htake]
    exact List.all_takeWhile

/-- A text that has a literal has one with the quote that is chosen for it. -/
theorem isQuotable_quoteFor (h : isQuotable '\'' cs = true ∨ isQuotable '"' cs = true) :
    isQuote (quoteFor cs) = true ∧ isQuotable (quoteFor cs) cs = true := by
  unfold quoteFor
  split
  · rename_i hsingle
    exact ⟨rfl, hsingle⟩
  · rename_i hsingle
    exact ⟨rfl, h.resolve_left hsingle⟩

/-- **A string that is read can be written.** -/
theorem isWritable_string_of_mem_lex {text : String} (h : .ok (.string text) ∈ lex cs) :
    IsWritable (.string text) := by
  have hscan : ∀ c cs, (scan c cs).outcome = .ok (.string text) → IsWritable (.string text) := by
    intro c cs h
    obtain ⟨hquote, htext⟩ := isQuotable_of_scan h
    simp only [isQuote, Bool.or_eq_true, beq_iff_eq] at hquote
    rcases hquote with rfl | rfl
    · exact .inl htext
    · exact .inr htext
  exact forall_mem_lex (motive := fun o => o = .ok (.string text) → _) hscan cs _ h rfl

/-- **A token that can be written is read back from its spelling**, wherever that stands before a
delimiter. -/
theorem lex_spelling {token : Token} (h : token.IsWritable) (hrest : Delimited rest) :
    lex (token.spelling ++ rest) = .ok token :: lex rest := by
  cases token with
  | identifier name =>
    obtain ⟨c, cs, hname, hblank, hstart, hcs, hword⟩ := exists_word_of_lex h
    rw [spelling, hname, List.cons_append, lex_word hblank hstart hcs hrest, hword]
  | number digits =>
    obtain ⟨n, hn⟩ := h
    unfold Text.readDigits? at hn
    split at hn
    · rename_i hdigits
      obtain ⟨c, cs, hcs⟩ := List.exists_cons_of_ne_nil hdigits.1
      have hall := hdigits.2
      rw [hcs, List.all_cons, Bool.and_eq_true] at hall
      rw [spelling, hcs, List.cons_append, lex_digits hall.1 hall.2 hrest, ← hcs,
        String.ofList_toList]
    · cases hn
  | string text =>
    obtain ⟨hquote, htext⟩ := isQuotable_quoteFor h
    rw [spelling, List.cons_append, List.append_assoc, List.singleton_append,
      lex_quoted hquote htext hrest, String.ofList_toList]
  | keyword k =>
    obtain ⟨c, cs, hk, hblank, hstart, hcs, hword⟩ := exists_word_of_keyword k
    rw [spelling, hk, List.cons_append, lex_word hblank hstart hcs hrest, hword]
  | symbol s =>
    obtain ⟨c, cs, hs, hblank, hscan⟩ := exists_scan_symbol s hrest
    rw [spelling, hs, List.cons_append, lex_cons hblank, hscan]

end Token

end EventFilter
