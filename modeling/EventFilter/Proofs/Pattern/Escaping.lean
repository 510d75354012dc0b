import EventFilter.Filter
import EventFilter.Proofs.Pattern.Matching
import EventFilter.Proofs.Printer.RoundTrip
import EventFilter.Proofs.Token.Literal

/-!
# Patterns in string literals

A pattern reaches LIKE through a string literal, which has rules of its own for backslashes and
quotes. The two never get in each other's way: a valid pattern is quotable, whatever the quote, and
so its literal denotes it as it is. With a backslash before every special character any text becomes
a pattern that matches that text alone (`Pattern.escape`), and so can be compared, or taken for the
beginning of others, through LIKE.
Main statement: what tests against written patterns compile to, and what tests against escaped texts
come to (`Filter.compile_likeTest`).
-/

namespace EventFilter

open PatternItem

namespace PatternItem

variable {t cs : List Char}

/-- Characters before other items take themselves. -/
theorem cuts_chars_append {items : List PatternItem} :
    Cuts (t.map .char ++ items) cs ↔ ∃ rest, cs = t ++ rest ∧ Cuts items rest := by
  induction t generalizing cs with
  | nil =>
    constructor
    · exact fun h => ⟨cs, rfl, h⟩
    · rintro ⟨rest, rfl, h⟩
      exact h
  | cons c t ih =>
    rw [List.map_cons, List.cons_append, cuts_char]
    constructor
    · rintro ⟨more, rfl, h⟩
      obtain ⟨rest, rfl, hrest⟩ := ih.mp h
      exact ⟨rest, rfl, hrest⟩
    · rintro ⟨rest, rfl, hrest⟩
      exact ⟨t ++ rest, rfl, ih.mpr ⟨rest, rfl, hrest⟩⟩

/-- Characters alone cut themselves only. -/
theorem cuts_chars : Cuts (t.map .char) cs ↔ cs = t := by
  rw [← List.append_nil (t.map _), cuts_chars_append]
  constructor
  · rintro ⟨rest, rfl, h⟩
    rw [cuts_nil.mp h, List.append_nil]
  · rintro rfl
    exact ⟨[], (List.append_nil cs).symm, cuts_nil.mpr rfl⟩

/-- Characters before a run cut what they begin. -/
theorem cuts_chars_anyRun : Cuts (t.map .char ++ [.anyRun]) cs ↔ t <+: cs := by
  rw [cuts_chars_append]
  constructor
  · rintro ⟨rest, rfl, -⟩
    exact List.prefix_append t rest
  · rintro ⟨rest, rfl⟩
    exact ⟨rest, rfl, cuts_cons.mpr
      ⟨rest, [], .anyRun rest, cuts_nil.mpr rfl, (List.append_nil rest).symm⟩⟩

end PatternItem

namespace Pattern

/-- **A text with a backslash before every special character.** -/
def escape (cs : List Char) : List Char :=
  cs.flatMap fun c => if isSpecial c then ['\\', c] else [c]

/-- An escaped text spells its characters. -/
theorem escape_eq_flatMap_spelling (cs : List Char) :
    escape cs = (cs.map .char).flatMap spelling := by
  rw [List.flatMap_map]
  rfl

/-- The pattern that is spelled by some items. -/
def ofItems (items : List PatternItem) : Pattern where
  text := String.ofList (items.flatMap spelling)
  items := items
  read_text := by rw [String.toList_ofList, read_eq_ok_iff]

/-- The text of the pattern that is spelled by some items. -/
theorem toList_text_ofItems (items : List PatternItem) :
    (ofItems items).text.toList = items.flatMap spelling := String.toList_ofList

end Pattern

namespace Filter

/-- **The text of a test with LIKE**: the attribute `x` against a pattern between two quotes. -/
def likeTest (quote : Char) (cs : List Char) : String :=
  "x LIKE " ++ String.ofList (Token.literal quote cs)

variable {functions : Registry} {quote : Char}

/-- The tokens of a test with a quotable pattern. -/
theorem lex_likeTest (hquote : Token.isQuote quote = true) (p : Pattern) :
    Token.lex (likeTest quote p.text.toList).toList =
      [.ok (.identifier "x"), .ok (.keyword .like), .ok (.string p.text)] := by
  have hliteral : Token.lex (Token.literal quote p.text.toList) = [.ok (.string p.text)] := by
    rw [Token.lex_literal_iff hquote, ← Token.isQuotable_iff_guardsRuns]
    exact isQuotable_of_read hquote p.read_text
  have hblank {rest : List Char} : Token.Delimited (' ' :: rest) := by
    rintro _ ⟨⟩
    exact List.mem_cons_self
  have hx : Token.ofWord ['x'] = .identifier "x" := by decide
  have hlike : Token.ofWord ['L', 'I', 'K', 'E'] = .keyword .like := by decide
  have htext : (likeTest quote p.text.toList).toList = 'x' :: ([] ++ ' ' :: 'L' ::
      (['I', 'K', 'E'] ++ ' ' :: Token.literal quote p.text.toList)) := by
    rw [likeTest, String.toList_append, String.toList_ofList (l := Token.literal _ _)]
    rfl
  rw [htext, Token.lex_word (by decide) (by decide) rfl hblank, hx, Token.lex_blank (by decide),
    Token.lex_word (by decide) (by decide) (by decide) hblank, hlike, Token.lex_blank (by decide),
    hliteral]

/-- **A test with a valid pattern compiles** to a test of the attribute with that pattern. -/
theorem exists_compile_likeTest (functions : Registry) (hquote : Token.isQuote quote = true)
    (p : Pattern) : ∃ f nameSpan span, compile functions (likeTest quote p.text.toList) = .ok f ∧
      f.expr = .like (.attr "x" nameSpan) p span := by
  have hlex : Token.lex (Source.mk 0 (likeTest quote p.text.toList)).chars =
      [Token.identifier "x", .keyword .like, .string p.text].map .ok := lex_likeTest hquote p
  obtain ⟨ts, hts, htokens⟩ := Source.exists_tokens_iff.mpr hlex
  obtain ⟨⟨_, s⟩, ts, rfl, rfl, htail⟩ := List.map_eq_cons_iff.mp htokens
  obtain ⟨⟨_, s'⟩, ts, rfl, rfl, hlast⟩ := List.map_eq_cons_iff.mp htail
  obtain ⟨⟨_, s''⟩, rfl, rfl⟩ := List.map_eq_singleton_iff.mp hlast
  have hattr : Phrase functions (.chain .sum) [⟨.identifier "x", s⟩] (.attr "x" s) :=
    Phrase.attr.loosen (by decide)
  have htest : Phrase functions .top [⟨.identifier "x", s⟩, ⟨.keyword .like, s'⟩,
      ⟨.string p.text, s''⟩] (.like (.attr "x" s) p (s.merge s'')) :=
    (Phrase.like hattr p.ofText_text).loosen (by decide)
  have hparse := Source.parse_eq_ok_iff_phrase.mpr ⟨_, hts, htest⟩
  refine ⟨⟨likeTest quote p.text.toList, _⟩, s, s.merge s'', ?_, rfl⟩
  rw [compile, ofSource, hparse]
  rfl

/-- **What a test with a valid pattern comes to** is whether the pattern matches. -/
theorem exists_evaluate_likeTest (functions : Registry) (hquote : Token.isQuote quote = true)
    (p : Pattern) {env : Environment} {u : String} (hx : env.valueOf "x" = some (.string u)) :
    ∃ f, compile functions (likeTest quote p.text.toList) = .ok f ∧
      f.evaluate env = .ok (.boolean (p.accepts u)) := by
  obtain ⟨f, nameSpan, span, hf, hexpr⟩ := exists_compile_likeTest functions hquote p
  refine ⟨f, hf, ?_⟩
  rw [evaluate, hexpr, Expr.eval, Expr.run, Expr.run, hx]
  rfl

/-- **Patterns and their escapes survive string literals**, with either quote. The test with a valid
pattern compiles to a test with exactly that pattern. Where the attribute is a text, the test with
an escaped text comes to whether the two are equal, and with a `%` behind the escaped text to
whether it begins the attribute. -/
theorem compile_likeTest (functions : Registry) (hquote : Token.isQuote quote = true) :
    (∀ p : Pattern, ∃ f nameSpan span, compile functions (likeTest quote p.text.toList) = .ok f ∧
      f.expr = .like (.attr "x" nameSpan) p span) ∧
    ∀ (t u : String) (env : Environment), env.valueOf "x" = some (.string u) →
      (∃ f, compile functions (likeTest quote (Pattern.escape t.toList)) = .ok f ∧
        f.evaluate env = .ok (.boolean (u = t))) ∧
      ∃ f, compile functions (likeTest quote (Pattern.escape t.toList ++ ['%'])) = .ok f ∧
        f.evaluate env = .ok (.boolean (t.toList <+: u.toList)) := by
  refine ⟨exists_compile_likeTest functions hquote, ?_⟩
  intro t u env hx
  have hitems (items : List PatternItem) :
      ∃ f, compile functions (likeTest quote (items.flatMap spelling)) = .ok f ∧
        f.evaluate env = .ok (.boolean ((Pattern.ofItems items).accepts u)) := by
    have htest := exists_evaluate_likeTest functions hquote (Pattern.ofItems items) hx
    rwa [Pattern.toList_text_ofItems] at htest
  refine ⟨?_, ?_⟩
  · obtain ⟨f, hf, heval⟩ := hitems (t.toList.map .char)
    rw [← Pattern.escape_eq_flatMap_spelling] at hf
    have haccepts : (Pattern.ofItems (t.toList.map .char)).accepts u = decide (u = t) := by
      rw [Bool.eq_iff_iff, Pattern.accepts_iff, decide_eq_true_iff, ← String.toList_inj]
      exact cuts_chars
    exact ⟨f, hf, by rw [heval, haccepts]⟩
  · obtain ⟨f, hf, heval⟩ := hitems (t.toList.map .char ++ [.anyRun])
    rw [List.flatMap_append, ← Pattern.escape_eq_flatMap_spelling] at hf
    have haccepts : (Pattern.ofItems (t.toList.map .char ++ [.anyRun])).accepts u =
        decide (t.toList <+: u.toList) := by
      rw [Bool.eq_iff_iff, Pattern.accepts_iff, decide_eq_true_iff]
      exact cuts_chars_anyRun
    exact ⟨f, hf, by rw [heval, haccepts]⟩

/-- A text in which quotes, backslashes and wildcards stand next to one another. -/
theorem compile_likeTest_mixed :
    likeTest '\'' (Pattern.escape "\\'%_".toList ++ ['%']) = "x LIKE '\\\\''\\%\\_%'" ∧
    ∃ f, compile ⟨[]⟩ "x LIKE '\\\\''\\%\\_%'" = .ok f ∧
      f.evaluate ⟨fun _ => some (.string "\\'%_\\"), fun _ => none⟩ = .ok (.boolean true) := by
  have htext : likeTest '\'' (Pattern.escape "\\'%_".toList ++ ['%']) =
      "x LIKE '\\\\''\\%\\_%'" := by decide +kernel
  have hquote : Token.isQuote '\'' = true := rfl
  obtain ⟨f, hf, heval⟩ := ((compile_likeTest ⟨[]⟩ hquote).2 "\\'%_" "\\'%_\\"
    ⟨fun _ => some (.string "\\'%_\\"), fun _ => none⟩ rfl).2
  rw [htext] at hf
  refine ⟨htext, f, hf, ?_⟩
  rw [heval]
  decide +kernel

end Filter

end EventFilter
