import EventFilter.Proofs.Text.Backslash
import EventFilter.Proofs.Token.Spelling

/-!
# The texts that string literals denote

A string literal keeps its backslashes but for those before its quote, and so it cannot denote every
text: the backslashes of a run escape one another in pairs, and an odd one out takes the quote
behind it. Which texts are left out is said here by the runs of backslashes in a text alone
(`Token.GuardsRuns`), with nothing said of how literals are read.
Main statement: the literal in which quotes are doubled is read as its text if and only if the text
guards its runs, and a text that guards them against neither quote is read from no source at all
(`Source.tokens_literal_iff`).
-/

namespace EventFilter

namespace Token

/-- **A text between two quotes**, its own quotes doubled. -/
def literal (quote : Char) (cs : List Char) : List Char := quote :: (doubled quote cs ++ [quote])

/-- **A text guards its runs of backslashes** against a quote: every maximal run of odd length
stands directly before a character of the text that is not the quote. -/
def GuardsRuns (quote : Char) (cs : List Char) : Prop :=
  ∀ pre post, cs = pre ++ post → Text.backslashesAtEnd pre % 2 = 1 → post.head? ≠ some '\\' →
    ∃ d ∈ post.head?, d ≠ quote

variable {quote c d : Char} {cs : List Char}

/-! ### Runs and the front of a text -/

/-- An empty text has no runs. -/
theorem guardsRuns_nil : GuardsRuns quote [] := by
  intro pre post h hodd
  obtain ⟨rfl, -⟩ := List.append_eq_nil_iff.mp h.symm
  cases hodd

/-- A backslash alone stands before nothing. -/
theorem not_guardsRuns_backslash : ¬ GuardsRuns quote ['\\'] := by
  intro h
  obtain ⟨d, hd, -⟩ := h ['\\'] [] rfl rfl nofun
  cases hd

/-- Any other character belongs to no run. -/
theorem guardsRuns_char (hc : c ≠ '\\') : GuardsRuns quote (c :: cs) ↔ GuardsRuns quote cs := by
  have hrun (pre : List Char) : Text.backslashesAtEnd (c :: pre) = Text.backslashesAtEnd pre :=
    Text.backslashesAtEnd_append_cons hc [] pre
  constructor
  · rintro h pre post rfl hodd
    exact h (c :: pre) post rfl (by rwa [hrun])
  · intro h pre post heq hodd
    obtain ⟨rfl, -⟩ | ⟨pre, rfl, rfl⟩ := List.cons_eq_append_iff.mp heq
    · cases hodd
    · exact h pre post rfl (by rwa [hrun] at hodd)

/-- A pair of backslashes does not matter to the runs behind it. -/
theorem guardsRuns_backslash_backslash :
    GuardsRuns quote ('\\' :: '\\' :: cs) ↔ GuardsRuns quote cs := by
  constructor
  · rintro h pre post rfl hodd
    exact h ('\\' :: '\\' :: pre) post rfl (by rwa [Text.backslashesAtEnd_backslash_backslash])
  · intro h pre post heq hodd hpost
    obtain ⟨rfl, -⟩ | ⟨pre, rfl, htail⟩ := List.cons_eq_append_iff.mp heq
    · cases hodd
    obtain ⟨rfl, rfl⟩ | ⟨pre, rfl, rfl⟩ := List.cons_eq_append_iff.mp htail
    · exact absurd rfl hpost
    · rw [Text.backslashesAtEnd_backslash_backslash] at hodd
      exact h pre post rfl hodd hpost

/-- A backslash before another character is a run of its own. -/
theorem guardsRuns_backslash (hd : d ≠ '\\') :
    GuardsRuns quote ('\\' :: d :: cs) ↔ d ≠ quote ∧ GuardsRuns quote (d :: cs) := by
  rw [guardsRuns_char hd]
  have hrun (pre : List Char) :
      Text.backslashesAtEnd ('\\' :: d :: pre) = Text.backslashesAtEnd pre :=
    Text.backslashesAtEnd_append_cons hd ['\\'] pre
  have hhead : (d :: cs).head? ≠ some '\\' := fun h => hd (Option.some.inj h)
  constructor
  · intro h
    refine ⟨?_, ?_⟩
    · obtain ⟨d', hd', hne⟩ := h ['\\'] (d :: cs) rfl rfl hhead
      cases hd'
      exact hne
    · rintro pre post rfl hodd
      exact h ('\\' :: d :: pre) post rfl (by rwa [hrun])
  · rintro ⟨hne, h⟩ pre post heq hodd
    obtain ⟨rfl, -⟩ | ⟨pre, rfl, htail⟩ := List.cons_eq_append_iff.mp heq
    · cases hodd
    obtain ⟨rfl, rfl⟩ | ⟨pre, rfl, rfl⟩ := List.cons_eq_append_iff.mp htail
    · exact fun _ => ⟨d, rfl, hne⟩
    · exact h pre post rfl (by rwa [hrun] at hodd)

/-- **A text is quotable if and only if it guards its runs.** -/
theorem isQuotable_iff_guardsRuns : isQuotable quote cs = true ↔ GuardsRuns quote cs := by
  fun_induction isQuotable quote cs with
  | case1 => exact iff_of_true rfl guardsRuns_nil
  | case2 => exact iff_of_false Bool.false_ne_true not_guardsRuns_backslash
  | case3 ds ih => rw [ih, guardsRuns_backslash_backslash]
  | case4 d ds hd ih => rw [Bool.and_eq_true, bne_iff_ne, ih, guardsRuns_backslash hd]
  | case5 c cs hc ih => rw [ih, guardsRuns_char hc]

/-- What is read of a literal that denotes its text. -/
theorem lex_literal_iff (hquote : isQuote quote = true) (text : String) :
    lex (literal quote text.toList) = [.ok (.string text)] ↔ GuardsRuns quote text.toList := by
  rw [← isQuotable_iff_guardsRuns]
  constructor
  · intro h
    have hblank : Text.isBlank quote = false := by
      simp only [isQuote, Bool.or_eq_true, beq_iff_eq] at hquote
      rcases hquote with rfl | rfl <;> rfl
    rw [literal, lex_cons hblank] at h
    exact (isQuotable_of_scan (List.cons.inj h).1).2
  · intro h
    have hend : Delimited [] := by
      intro c hc
      cases hc
    rw [literal, lex_quoted hquote h hend, lex_nil, String.ofList_toList]

end Token

namespace Source

/-- A source has one token if its text is read as that token. -/
theorem exists_tokens_eq_singleton_iff {source : Source} {token : Token} :
    (∃ span, source.tokens = .ok [⟨token, span⟩]) ↔ Token.lex source.chars = [.ok token] := by
  have hlex : _ ↔ Token.lex source.chars = [token].map .ok := exists_tokens_iff
  rw [← List.map_singleton, ← hlex]
  constructor
  · rintro ⟨span, h⟩
    exact ⟨_, h, rfl⟩
  · rintro ⟨ts, h, hts⟩
    obtain ⟨⟨_, span⟩, rfl, rfl⟩ := List.map_eq_singleton_iff.mp hts
    exact ⟨span, h⟩

/-- **A text has a literal if and only if it guards its runs of backslashes.** With a given quote
this is the literal in which that quote is doubled, and a text is the only token of some source if
and only if one of the two quotes will do. -/
theorem tokens_literal_iff {quote : Char} (hquote : Token.isQuote quote = true) (text : String) :
    (∀ id, (∃ span, (Source.mk id (String.ofList (Token.literal quote text.toList))).tokens =
        .ok [⟨.string text, span⟩]) ↔ Token.GuardsRuns quote text.toList) ∧
    ((∃ source span, Source.tokens source = .ok [⟨.string text, span⟩]) ↔
      ∃ quote, Token.isQuote quote = true ∧ Token.GuardsRuns quote text.toList) := by
  have hliteral {quote : Char} (hquote : Token.isQuote quote = true) (id : Nat) :
      (∃ span, (Source.mk id (String.ofList (Token.literal quote text.toList))).tokens =
        .ok [⟨.string text, span⟩]) ↔ Token.GuardsRuns quote text.toList := by
    rw [exists_tokens_eq_singleton_iff, Source.chars, String.toList_ofList,
      Token.lex_literal_iff hquote]
  refine ⟨hliteral hquote, ?_, ?_⟩
  · rintro ⟨source, h⟩
    have hlex := exists_tokens_eq_singleton_iff.mp h
    have hwritable := Token.isWritable_string_of_mem_lex (hlex ▸ List.mem_singleton_self _)
    rcases hwritable with hsingle | hdouble
    · exact ⟨'\'', rfl, Token.isQuotable_iff_guardsRuns.mp hsingle⟩
    · exact ⟨'"', rfl, Token.isQuotable_iff_guardsRuns.mp hdouble⟩
  · rintro ⟨quote, hquote, h⟩
    exact ⟨_, (hliteral hquote 0).mpr h⟩

/-- A text that has a literal between quotation marks but none between apostrophes. -/
theorem tokens_literal_apostrophe :
    (∃ span, Source.tokens ⟨0, "\"it\\'s\\\\\""⟩ = .ok [⟨.string "it\\'s\\\\", span⟩]) ∧
    ¬ ∃ span, Source.tokens ⟨0, "'it\\''s\\\\'"⟩ = .ok [⟨.string "it\\'s\\\\", span⟩] := by
  have hdouble := (tokens_literal_iff (show Token.isQuote '"' = true from rfl) "it\\'s\\\\").1 0
  have hsingle := (tokens_literal_iff (show Token.isQuote '\'' = true from rfl) "it\\'s\\\\").1 0
  have hdoubleText : String.ofList (Token.literal '"' "it\\'s\\\\".toList) =
      "\"it\\'s\\\\\"" := by decide +kernel
  have hsingleText : String.ofList (Token.literal '\'' "it\\'s\\\\".toList) =
      "'it\\''s\\\\'" := by decide +kernel
  rw [hdoubleText] at hdouble
  rw [hsingleText] at hsingle
  refine ⟨hdouble.mpr ?_, mt hsingle.mp ?_⟩
  · exact Token.isQuotable_iff_guardsRuns.mp (by decide +kernel)
  · exact mt Token.isQuotable_iff_guardsRuns.mpr (by decide +kernel)

end Source

end EventFilter
