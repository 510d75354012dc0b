import EventFilter.Pattern
import EventFilter.Token.Scan

/-!
# Texts between quotes

Which texts a string literal can denote. A backslash keeps its place before most characters, but not
before the quote, so a text in which a quote or the end follows an odd run of backslashes has no
literal with that quote (`Token.isQuotable`). All others have the literal in which quotes are
doubled (`Token.doubled`).
Main statements: a quotable text is what its literal with doubled quotes is read as
(`Token.stringBody_doubled`), whatever a literal denotes is quotable
(`Token.isQuotable_of_stringBody`), and so are valid patterns (`PatternItem.isQuotable_of_read`).
-/

namespace EventFilter

namespace Token

/-- **Whether a text can stand between two quotes**: behind pairs of backslashes, none comes
directly before the quote or the end. -/
def isQuotable (quote : Char) : List Char → Bool
  | [] => true
  | c :: cs =>
    if c = '\\' then
      match cs with
      | [] => false
      | d :: ds => if d = '\\' then isQuotable quote ds else d != quote && isQuotable quote (d :: ds)
    else isQuotable quote cs

/-- **A text with its quotes doubled.** -/
def doubled (quote : Char) : List Char → List Char
  | [] => []
  | c :: cs => if c = quote then quote :: quote :: doubled quote cs else c :: doubled quote cs

variable {quote c d : Char} {cs ds rest : List Char}

/-! ### What a literal is read as -/

/-- A quote before what is no quote ends a literal. -/
theorem stringBody_end (h : ∀ d ∈ rest.head?, d ≠ quote) :
    stringBody quote (quote :: rest) = some ⟨[], [quote], rest⟩ := by
  unfold stringBody
  rw [if_pos rfl]
  cases rest with
  | nil => rfl
  | cons d ds => exact if_neg (h d rfl)

/-- Two quotes are one. -/
theorem stringBody_quote_quote :
    stringBody quote (quote :: quote :: cs) =
      (stringBody quote cs).map (.cons [quote] [quote, quote]) := by
  rw [stringBody.eq_def]
  exact (if_pos rfl).trans (if_pos rfl)

/-- Two backslashes stay two. -/
theorem stringBody_backslash_backslash (hquote : quote ≠ '\\') :
    stringBody quote ('\\' :: '\\' :: cs) =
      (stringBody quote cs).map (.cons ['\\', '\\'] ['\\', '\\']) := by
  rw [stringBody.eq_def]
  exact (if_neg hquote.symm).trans ((if_pos rfl).trans (if_pos rfl))

/-- A backslash before a quote is dropped. -/
theorem stringBody_backslash_quote (hquote : quote ≠ '\\') :
    stringBody quote ('\\' :: quote :: cs) =
      (stringBody quote cs).map (.cons [quote] ['\\', quote]) := by
  rw [stringBody.eq_def]
  exact (if_neg hquote.symm).trans ((if_pos rfl).trans ((if_neg hquote).trans (if_pos rfl)))

/-- A backslash before anything else stays. -/
theorem stringBody_backslash (hquote : quote ≠ '\\') (hd : d ≠ '\\') (hdq : d ≠ quote) :
    stringBody quote ('\\' :: d :: cs) =
      (stringBody quote (d :: cs)).map (.cons ['\\'] ['\\']) := by
  rw [stringBody.eq_def]
  exact (if_neg hquote.symm).trans ((if_pos rfl).trans ((if_neg hd).trans (if_neg hdq)))

/-- Any other character stays. -/
theorem stringBody_char (hc : c ≠ '\\') (hcq : c ≠ quote) :
    stringBody quote (c :: cs) = (stringBody quote cs).map (.cons [c] [c]) := by
  rw [stringBody.eq_def]
  exact (if_neg hcq).trans (if_neg hc)

/-! ### Which texts have a literal -/

/-- **A text with its quotes doubled is read as itself.** -/
theorem stringBody_doubled (hquote : quote ≠ '\\') (h : isQuotable quote cs = true)
    (hrest : ∀ d ∈ rest.head?, d ≠ quote) :
    stringBody quote (doubled quote cs ++ quote :: rest) =
      some ⟨cs, doubled quote cs ++ [quote], rest⟩ := by
  fun_induction isQuotable quote cs with
  | case1 => exact stringBody_end hrest
  | case2 => cases h
  | case3 ds ih =>
    have hd : doubled quote ('\\' :: '\\' :: ds) = '\\' :: '\\' :: doubled quote ds := by
      rw [doubled, if_neg hquote.symm, doubled, if_neg hquote.symm]
    rw [hd, List.cons_append, List.cons_append, stringBody_backslash_backslash hquote, ih h]
    rfl
  | case4 d ds hd ih =>
    obtain ⟨hdq, htail⟩ := Bool.and_eq_true_iff.mp h
    have hdq : d ≠ quote := bne_iff_ne.mp hdq
    have hds : doubled quote (d :: ds) = d :: doubled quote ds := by rw [doubled, if_neg hdq]
    have hread := ih htail
    rw [hds, List.cons_append] at hread
    rw [doubled, if_neg hquote.symm, hds, List.cons_append, List.cons_append,
      stringBody_backslash hquote hd hdq, hread]
    rfl
  | case5 c cs hc ih =>
    by_cases hcq : c = quote
    · subst hcq
      rw [doubled, if_pos rfl, List.cons_append, List.cons_append, stringBody_quote_quote, ih h]
      rfl
    · rw [doubled, if_neg hcq, List.cons_append, stringBody_char hc hcq, ih h]
      rfl

/-- A pair of backslashes is no matter. -/
theorem isQuotable_backslash_backslash :
    isQuotable quote ('\\' :: '\\' :: cs) = isQuotable quote cs := by
  rw [isQuotable.eq_def]
  exact (if_pos rfl).trans (if_pos rfl)

/-- A single backslash is a matter of the character behind it. -/
theorem isQuotable_backslash (hd : d ≠ '\\') :
    isQuotable quote ('\\' :: d :: cs) = (d != quote && isQuotable quote (d :: cs)) := by
  rw [isQuotable.eq_def]
  exact (if_pos rfl).trans (if_neg hd)

/-- Any other character is no matter. -/
theorem isQuotable_char (hc : c ≠ '\\') :
    isQuotable quote (c :: cs) = isQuotable quote cs := by
  rw [isQuotable.eq_def]
  exact if_neg hc

/-- **What a literal denotes is quotable.** -/
theorem isQuotable_of_stringBody (hquote : quote ≠ '\\') {body : StringBody}
    (h : stringBody quote cs = some body) : isQuotable quote body.value = true := by
  fun_induction stringBody quote cs generalizing body with
  | case1 => cases h
  | case2 =>
    cases h
    rfl
  | case3 ds ih =>
    obtain ⟨b, hb, rfl⟩ := Option.map_eq_some_iff.mp h
    exact (isQuotable_char hquote).trans (ih hb)
  | case4 =>
    cases h
    rfl
  | case5 => cases h
  | case6 ds _ ih =>
    obtain ⟨b, hb, rfl⟩ := Option.map_eq_some_iff.mp h
    exact isQuotable_backslash_backslash.trans (ih hb)
  | case7 ds _ _ ih =>
    obtain ⟨b, hb, rfl⟩ := Option.map_eq_some_iff.mp h
    exact (isQuotable_char hquote).trans (ih hb)
  | case8 d ds hd hdq _ ih =>
    obtain ⟨b, hb, rfl⟩ := Option.map_eq_some_iff.mp h
    have hvalue := ih hb
    rw [stringBody_char hd hdq] at hb
    obtain ⟨b, -, rfl⟩ := Option.map_eq_some_iff.mp hb
    exact (isQuotable_backslash hd).trans (Bool.and_eq_true_iff.mpr ⟨bne_iff_ne.mpr hdq, hvalue⟩)
  | case9 c cs _ hc ih =>
    obtain ⟨b, hb, rfl⟩ := Option.map_eq_some_iff.mp h
    exact (isQuotable_char hc).trans (ih hb)

/-- No quote is a backslash. -/
theorem ne_backslash_of_isQuote (h : isQuote quote = true) : quote ≠ '\\' := by
  rintro rfl
  cases h

/-- **A string that is read** is quotable with the quote that it begins with. -/
theorem isQuotable_of_scan {text : String} (h : (scan c cs).outcome = .ok (.string text)) :
    isQuote c = true ∧ isQuotable c text.toList = true := by
  unfold scan at h
  split at h
  · cases h
  split at h
  · rename_i hquote
    split at h
    · rename_i body hbody
      have htext := isQuotable_of_stringBody (ne_backslash_of_isQuote hquote) hbody
      rw [← String.toList_ofList (l := body.value), Token.string.inj (Except.ok.inj h)] at htext
      exact ⟨hquote, htext⟩
    · cases h
  split at h
  · simp only [ofWord] at h
    split at h <;> cases h
  split at h <;> cases h

end Token

/-- **A valid pattern is quotable**, for its backslashes stand before special characters. -/
theorem PatternItem.isQuotable_of_read {quote : Char} (hquote : Token.isQuote quote = true)
    {cs : List Char} {items : List PatternItem} (h : read cs = .ok items) :
    Token.isQuotable quote cs = true := by
  fun_induction read cs generalizing items with
  | case1 => rfl
  | case2 cs ih | case3 cs ih =>
    obtain ⟨more, hmore, -⟩ := map_eq_ok_iff.mp h
    exact (Token.isQuotable_char (by decide)).trans (ih hmore)
  | case4 => cases h
  | case5 c cs hc ih =>
    obtain ⟨more, hmore, -⟩ := map_eq_ok_iff.mp h
    by_cases hback : c = '\\'
    · subst hback
      exact Token.isQuotable_backslash_backslash.trans (ih hmore)
    · rw [Token.isQuotable_backslash hback, Token.isQuotable_char hback, ih hmore, Bool.and_true,
        bne_iff_ne]
      rintro rfl
      simp only [Token.isQuote, isSpecial, Bool.or_eq_true, beq_iff_eq] at hquote hc
      rcases hquote with rfl | rfl <;> simp at hc
  | case6 => cases h
  | case7 c cs _ _ hlast hpair ih =>
    obtain ⟨more, hmore, -⟩ := map_eq_ok_iff.mp h
    have hback : c ≠ '\\' := by
      intro hc
      cases cs with
      | nil => exact hlast hc rfl
      | cons d ds => exact hpair d ds hc rfl
    exact (Token.isQuotable_char hback).trans (ih hmore)

end EventFilter
