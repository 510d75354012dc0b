import EventFilter.Proofs.Phrase.Nodes
import EventFilter.Proofs.Phrase.Spans

/-!
# The texts of nodes

The span of a node goes from the first to the last of the tokens that it stands in, so that the text
there has these tokens and no others, at the same distances from each other
(`Source.Tiles.excerpt`). They are the same phrase there (`Phrase.mapSpans`), and any phrase is one
of the loosest level. So the text of a node denotes the node, if the node has a phrase; the test
behind an infix NOT has not, and its text denotes its negation.
Main statement: the text of a node of a parsed source parses to that node, moved to the beginning
(`Source.parse_text_of_mem_nodes`).
-/

namespace EventFilter

open Parse (negated)

/-! ### Moving spans -/

namespace Span

variable {source : Source} {bytes : Nat} {s s' : Span}

/-- A span with a number of bytes added to its offsets, in a source with that many more in front. -/
def shiftRight (source : Source) (bytes : Nat) (s : Span) : Span :=
  ⟨source, s.start + bytes, s.stop + bytes⟩

/-- A span over a source, that does not begin before an offset. -/
structure IsBehind (source : Source) (bytes : Nat) (s : Span) : Prop where
  source_eq : s.source = source
  le_start : bytes ≤ s.start
  le_stop : bytes ≤ s.stop

/-- Spans behind an offset can be moved to the left and back. -/
theorem IsBehind.shiftRight_shiftLeft (h : s.IsBehind source bytes) (source' : Source) :
    (s.shiftLeft source' bytes).shiftRight source bytes = s := by
  obtain ⟨rfl, hstart, hstop⟩ := h
  rw [shiftLeft, shiftRight, Nat.sub_add_cancel hstart, Nat.sub_add_cancel hstop]

/-- What is merged of spans behind an offset is behind it. -/
theorem IsBehind.merge (h : s.IsBehind source bytes) (h' : s'.IsBehind source bytes)
    (hsource : source.text ≠ "") : (s.merge s').IsBehind source bytes := by
  rw [merge_eq hsource h.source_eq h'.source_eq]
  have hstop := Nat.le_trans h.le_stop (Nat.le_max_left s.stop s'.stop)
  exact ⟨rfl, Nat.le_min.mpr ⟨h.le_start, h'.le_start⟩, hstop⟩

/-- Spans are merged before they are moved or after. -/
theorem keepsMerge_shiftLeft {source' : Source} (hsource : source.text ≠ "")
    (hsource' : source'.text ≠ "") :
    KeepsMerge (IsBehind source bytes) (shiftLeft source' bytes) where
  merge h h' := h.merge h' hsource
  map_merge {s s'} h h' := by
    have hmoved : (s.shiftLeft source' bytes).merge (s'.shiftLeft source' bytes) = _ :=
      merge_eq hsource' rfl rfl
    rw [merge_eq hsource h.source_eq h'.source_eq, hmoved]
    simp only [shiftLeft, Nat.sub_min_sub_right, Nat.sub_max_sub_right]

end Span

/-! ### The text of a phrase -/

/-- A source with tokens has a text. -/
theorem Source.text_ne_empty_of_tokens {source : Source} {ts : List Lexeme}
    (h : source.tokens = .ok ts) (hts : ts ≠ []) : source.text ≠ "" := by
  intro htext
  have htiles := tokens_eq_ok_iff_tiles.mp h
  rw [chars, htext] at htiles
  have hlex := htiles.lexemesFrom_eq
  rw [show "".toList = [] from rfl, lexemesFrom_blanks rfl] at hlex
  exact hts (List.map_eq_nil_iff.mp hlex.symm)

namespace Phrase

variable {functions : Registry} {level : Level} {source : Source} {ts us : List Lexeme} {e : Expr}

/-- The tokens of a phrase in a source stand in order, and the source has a text. -/
theorem inOrder (h : Phrase functions level us e) (htokens : source.tokens = .ok ts)
    (hus : us <:+: ts) : source.InOrder us ∧ source.text ≠ "" := by
  have horder := (Source.tokens_eq_ok_iff_tiles.mp htokens).inOrder.1
  refine ⟨horder.sublist hus.sublist, Source.text_ne_empty_of_tokens htokens ?_⟩
  rintro rfl
  obtain ⟨t, more, rfl, -⟩ := h.exists_head
  exact List.cons_ne_nil t more (List.eq_nil_of_infix_nil hus)

/-- No token of a phrase begins before its expression does. -/
theorem isBehind (h : Phrase functions level us e) (horder : source.InOrder us)
    (hsource : source.text ≠ "") : ∀ t ∈ us, t.span.IsBehind source e.span.start := by
  obtain ⟨first, hfirst, last, -, hspan⟩ := h.covers hsource horder
  rw [hspan]
  intro t ht
  have hlt := horder.start_lt_stop t ht
  have hle : first.span.start ≤ t.span.start := by
    obtain ⟨more, rfl⟩ := List.head?_eq_some_iff.mp hfirst
    rcases List.mem_cons.mp ht with rfl | hmore
    · exact Nat.le_refl _
    · have hsplit : source.InOrder ([first] ++ more) := horder
      exact (hsplit.start_le_and_stop_le List.mem_cons_self hmore).1
  exact ⟨horder.source_eq t ht, hle, Nat.le_trans hle (Nat.le_of_lt hlt)⟩

/-- Moving the expression of a phrase to the left and back restores it. -/
theorem mapSpans_shiftRight_shiftLeft (h : Phrase functions level us e)
    (htokens : source.tokens = .ok ts) (hus : us <:+: ts) (source' : Source) :
    (e.mapSpans (Span.shiftLeft source' e.span.start)).mapSpans
      (Span.shiftRight source e.span.start) = e := by
  obtain ⟨horder, hsource⟩ := h.inOrder htokens hus
  rw [Expr.mapSpans_mapSpans]
  exact h.mapSpans_eq_self (fun hs ht => hs.merge ht hsource)
    (fun hs => hs.shiftRight_shiftLeft source') (h.isBehind horder hsource)

/-- **The text of a phrase in a source parses** to the expression of the phrase, moved to the
beginning. -/
theorem parse_text (h : Phrase functions level us e) (htokens : source.tokens = .ok ts)
    (hus : us <:+: ts) (id : Nat) :
    let excerpt : Source := ⟨id, e.span.text⟩
    excerpt.parse functions = .ok (e.mapSpans (Span.shiftLeft excerpt e.span.start)) := by
  intro excerpt
  obtain ⟨horder, hsource⟩ := h.inOrder htokens hus
  obtain ⟨first, hfirst, last, hlast, hspan⟩ := h.covers hsource horder
  have hmem := List.mem_of_head? hfirst
  have htokens' : excerpt.tokens =
      .ok (us.map (·.mapSpan (Span.shiftLeft excerpt e.span.start))) := by
    have htiles := Source.tokens_eq_ok_iff_tiles.mp htokens
    have hstart : e.span.start = first.span.start := by rw [hspan]
    have hexcerpt := htiles.excerpt hus hfirst hlast id
    rw [horder.source_eq first hmem] at hspan
    rw [← hspan, ← hstart] at hexcerpt
    exact hexcerpt
  have hexcerpt : excerpt.text ≠ "" :=
    Source.text_ne_empty_of_tokens htokens' (mt List.map_eq_nil_iff.mp (List.ne_nil_of_mem hmem))
  have hkeeps : Span.KeepsMerge (Span.IsBehind source e.span.start) _ :=
    Span.keepsMerge_shiftLeft hsource hexcerpt
  have hphrase := (h.mapSpans hkeeps (h.isBehind horder hsource)).2
  exact Source.parse_eq_ok_iff_phrase.mpr ⟨_, htokens', hphrase.loosen level.rank_le⟩

/-- What is behind a phrase is read as its next token. -/
theorem head?_lex_dropBytes {t : Lexeme} {more : List Lexeme} (h : Phrase functions level us e)
    (htokens : source.tokens = .ok ts) (hpart : us ++ t :: more <:+: ts) :
    (Token.lex (Text.dropBytes e.span.stop source.chars)).head? = some (.ok t.token) := by
  have htiles := Source.tokens_eq_ok_iff_tiles.mp htokens
  have hus : us <:+: ts := (List.prefix_append us (t :: more)).isInfix.trans hpart
  obtain ⟨horder, hsource⟩ := h.inOrder htokens hus
  obtain ⟨_, _, last, hlast, hspan⟩ := h.covers hsource horder
  obtain ⟨pre, post, rfl⟩ := hpart
  have hlast' : (pre ++ us).getLast? = some last := by
    rw [List.getLast?_append, hlast, Option.some_or]
  rw [List.append_assoc, List.append_assoc, ← List.append_assoc pre, List.cons_append] at htiles
  rw [hspan, htiles.lex_dropBytes hlast']
  rfl

end Phrase

/-! ### The texts of nodes -/

/-- **A test behind an infix NOT**: what LIKE or IN tests is followed by NOT in the source. -/
def Expr.IsNegatedTest (source : Source) (n : Expr) : Prop :=
  ∃ x ∈ n.tested?,
    (Token.lex (Text.dropBytes x.span.stop source.chars)).head? = some (.ok (.keyword .not))

instance (source : Source) (n : Expr) : Decidable (n.IsNegatedTest source) :=
  inferInstanceAs (Decidable (∃ x ∈ n.tested?,
    (Token.lex (Text.dropBytes x.span.stop source.chars)).head? = some (.ok (.keyword .not))))

/-- A node with a phrase is no test behind an infix NOT. -/
theorem Phrase.not_isNegatedTest {functions : Registry} {level : Level} {source : Source}
    {ts us : List Lexeme} {n : Expr} (h : Phrase functions level us n)
    (htokens : source.tokens = .ok ts) (hus : us <:+: ts) : ¬ n.IsNegatedTest source := by
  rintro ⟨x, hx, hnot⟩
  obtain ⟨xs, t, more, hpart, hvalue, ht⟩ := h.exists_behind_tested hx
  rw [hvalue.head?_lex_dropBytes htokens (hpart.trans hus)] at hnot
  exact ht (Except.ok.inj (Option.some.inj hnot))

/-- **The text of a node denotes the node.** By itself, the text at the span of a node of a parsed
source parses to that node with every span moved to the left by where the node begins; the test
behind an infix NOT gets its NOT around it, as in the source. Moved back to the right, the node is
what it was, so that no offset is cut off. -/
theorem Source.parse_text_of_mem_nodes {functions : Registry} {source : Source} {e n : Expr}
    (h : source.parse functions = .ok e) (hn : n ∈ e.nodes) (id : Nat) :
    let excerpt : Source := ⟨id, n.span.text⟩
    let moved := n.mapSpans (Span.shiftLeft excerpt n.span.start)
    (¬ n.IsNegatedTest source → excerpt.parse functions = .ok moved) ∧
    (n.IsNegatedTest source → excerpt.parse functions = .ok (negated moved) ∧
      ∃ s, .unary .not n s ∈ e.nodes) ∧
    moved.mapSpans (Span.shiftRight source n.span.start) = n := by
  obtain ⟨ts, htokens, hphrase⟩ := parse_eq_ok_iff_phrase.mp h
  cases hphrase.standsIn n hn with
  | phrase hpart hself =>
    refine ⟨fun _ => hself.parse_text htokens hpart id, ?_, ?_⟩
    · exact fun htest => absurd htest (hself.not_isNegatedTest htokens hpart)
    · exact hself.mapSpans_shiftRight_shiftLeft htokens hpart _
  | test hpart hself hx hvalue hmem =>
    -- The phrase is that of the negation, which has the span of the node and the node as operand.
    have hnot := hvalue.head?_lex_dropBytes htokens hpart
    have hparse := hself.parse_text htokens hpart id
    have hmoved := hself.mapSpans_shiftRight_shiftLeft htokens hpart ⟨id, n.span.text⟩
    simp only [Expr.mapSpans_negated] at hparse hmoved
    refine ⟨fun htest => absurd ⟨_, hx, hnot⟩ htest, fun _ => ⟨hparse, _, hmem⟩, ?_⟩
    injection hmoved

/-- A test behind an infix NOT, of a name with a character of two bytes, in parentheses. -/
theorem Source.parse_text_of_mem_nodes_notAmong :
    let source : Source := ⟨0, "y OR (é NOT IN (-5))"⟩
    let excerpt : Source := ⟨1, "é NOT IN (-5)"⟩
    ∃ e, source.parse ⟨[]⟩ = .ok e ∧ ∃ n ∈ e.nodes, n.span.text = excerpt.text ∧
      excerpt.parse ⟨[]⟩ = .ok (negated (n.mapSpans (Span.shiftLeft excerpt 6))) := by
  intro source excerpt
  have hrun : ((source.parse ⟨[]⟩).toOption.map fun e => e.nodes.any fun n => decide
      (n.span.text = excerpt.text ∧ n.span.start = 6 ∧ n.IsNegatedTest source)) = some true := by
    decide +kernel
  cases he : source.parse ⟨[]⟩ with
  | error _ =>
    rw [he] at hrun
    cases hrun
  | ok e =>
    rw [he] at hrun
    obtain ⟨n, hn, hfacts⟩ := List.any_eq_true.mp (Option.some.inj hrun)
    obtain ⟨htext, hstart, htest⟩ := of_decide_eq_true hfacts
    have hparse := ((Source.parse_text_of_mem_nodes he hn 1).2.1 htest).1
    rw [htext, hstart] at hparse
    exact ⟨e, rfl, n, hn, htext, hparse⟩

end EventFilter
