import EventFilter.Proofs.Eval.Spans
import EventFilter.Proofs.Phrase.Excerpts
import EventFilter.Proofs.Token.Recasing
import EventFilter.Proofs.Token.Spacing

/-!
# Parsing in another case

The names of calls are looked up and kept in upper case, so a phrase with such names in another case
is a phrase for the same expression (`Phrase.respelled`). The other names, and the texts of string
literals and of patterns, are the words of the expression, in the order of its tokens
(`Phrase.words_eq`): in another case they would be other words.
Main statement: keywords and the names of functions ignore the case of letters, and nothing else
does (`Source.caseLaws`).
-/

namespace EventFilter

open Parse (negated)

/-! ### Phrases with calls in another case -/

/-- A token that goes on phrases is no name, and an opening parenthesis goes on those of every
level. -/
theorem Token.of_rank?_eq_some {token : Token} {n : Nat} (h : token.rank? = some (n + 1)) :
    (∀ name, token ≠ .identifier name) ∧ token ≠ .symbol .leftParen := by
  refine ⟨?_, ?_⟩
  · rintro name rfl
    cases h
  · rintro rfl
    cases h

/-- The operator of a chain is no name and no opening parenthesis. -/
theorem Chain.of_operator? {c : Chain} {token : Token} {op : BinaryOp}
    (h : c.operator? token = some op) :
    (∀ name, token ≠ .identifier name) ∧ token ≠ .symbol .leftParen := by
  have hrank := Chain.rank?_of_operator? h
  rw [← c.rank_operand] at hrank
  exact Token.of_rank?_eq_some hrank

/-- The phrases of a list, with names in another case. -/
theorem Separated.exists_respelled {us us' : List Lexeme} {items : List (List Lexeme × Expr)}
    (h : Separated us (items.map (·.1))) (hus : Respelled us us') :
    ∃ items' : List (List Lexeme × Expr), Separated us' (items'.map (·.1)) ∧
      items'.map (·.2) = items.map (·.2) ∧
      ∀ i' ∈ items', ∃ i ∈ items, i'.2 = i.2 ∧ Respelled i.1 i'.1 := by
  induction items generalizing us us' with
  | nil =>
    cases h
    cases hus
    exact ⟨[], .none, rfl, List.forall_mem_nil _⟩
  | cons i items ih =>
    cases items with
    | nil =>
      cases h
      exact ⟨[(us', i.2)], .one us', rfl,
        List.forall_mem_singleton.mpr ⟨i, List.mem_singleton_self i, rfl, hus⟩⟩
    | cons j items =>
      cases h with
      | more _ comma hrest =>
        obtain ⟨ts', vs, rfl, hts, hvs⟩ := hus.exists_of_append_cons (by simp) (by simp)
        obtain ⟨items', hitems', hvalues, hall⟩ := ih hrest hvs
        cases items' with
        | nil => cases hvalues
        | cons j' items' =>
          refine ⟨(ts', i.2) :: j' :: items', .more ts' comma hitems', ?_, ?_⟩
          · rw [List.map_cons, hvalues, List.map_cons (a := i)]
          · refine List.forall_mem_cons.mpr ⟨⟨i, List.mem_cons_self, rfl, hts⟩, ?_⟩
            intro i' hi'
            obtain ⟨k, hk, hkeep⟩ := hall i' hi'
            exact ⟨k, List.mem_cons_of_mem i hk, hkeep⟩

/-- A phrase has tokens. -/
theorem Phrase.ne_nil {functions : Registry} {level : Level} {ts : List Lexeme} {e : Expr}
    (h : Phrase functions level ts e) : ts ≠ [] := by
  obtain ⟨t, more, rfl, -⟩ := h.exists_head
  exact List.cons_ne_nil t more

/-- **A phrase with the names of calls in another case** is a phrase for the same expression. -/
theorem Phrase.respelled {functions : Registry} {level : Level} {ts ts' : List Lexeme} {e : Expr}
    (h : Phrase functions level ts e) (hts : Respelled ts ts') : Phrase functions level ts' e := by
  have hitems {items items' : List (List Lexeme × Expr)}
      (ih : ∀ i ∈ items, ∀ {ts'}, Respelled i.1 ts' → Phrase functions .top ts' i.2)
      (h : ∀ i' ∈ items', ∃ i ∈ items, i'.2 = i.2 ∧ Respelled i.1 i'.1) :
      ∀ i' ∈ items', Phrase functions .top i'.1 i'.2 := by
    intro i' hi'
    obtain ⟨i, hi, hvalue, hrespelled⟩ := h i' hi'
    rw [hvalue]
    exact ih i hi hrespelled
  induction h generalizing ts' with
  | operand _ ih => exact .operand (ih hts)
  | chained _ hop _ ihl ihr =>
    obtain ⟨hname, hparen⟩ := Chain.of_operator? hop
    obtain ⟨ls, rs, rfl, hls, hrs⟩ := hts.exists_of_append_cons hname hparen
    exact .chained (ihl hls) hop (ihr hrs)
  | comparison _ ih => exact .comparison (ih hts)
  | not _ ih =>
    obtain ⟨us, rfl, hus⟩ := hts.exists_of_cons nofun
    exact .not (ih hus)
  | sum _ ih => exact .sum (ih hts)
  | compare _ hop _ ihl ihr =>
    obtain ⟨hname, hparen⟩ := Token.of_rank?_eq_some (ComparisonOp.rank?_of_ofToken? hop)
    obtain ⟨ls, rs, rfl, hls, hrs⟩ := hts.exists_of_append_cons hname hparen
    exact .compare (ihl hls) hop (ihr hrs)
  | like _ hp ih =>
    obtain ⟨xs, us, rfl, hxs, hus⟩ := hts.exists_of_append_cons nofun nofun
    obtain rfl := hus.eq_singleton
    exact .like (ih hxs) hp
  | notLike _ hp ih =>
    obtain ⟨xs, us, rfl, hxs, hus⟩ := hts.exists_of_append_cons nofun nofun
    obtain ⟨vs, rfl, hvs⟩ := hus.exists_of_cons nofun
    obtain rfl := hvs.eq_singleton
    exact .notLike (ih hxs) hp
  | among _ hne hsep _ ih ihitems =>
    obtain ⟨xs, us, rfl, hxs, hus⟩ := hts.exists_of_append_cons nofun nofun
    obtain ⟨vs, rfl, hvs⟩ := hus.exists_of_cons nofun
    obtain ⟨ws, close, rfl, hws, hclose⟩ := hvs.exists_of_append_cons nofun nofun
    cases hclose
    obtain ⟨items', hsep', hvalues, hall⟩ := hsep.exists_respelled hws
    rw [← hvalues]
    refine .among (ih hxs) ?_ hsep' (hitems ihitems hall)
    rintro rfl
    exact hne (List.map_eq_nil_iff.mp hvalues.symm)
  | notAmong _ hne hsep _ ih ihitems =>
    obtain ⟨xs, us, rfl, hxs, hus⟩ := hts.exists_of_append_cons nofun nofun
    obtain ⟨us, rfl, hus'⟩ := hus.exists_of_cons nofun
    obtain ⟨vs, rfl, hvs⟩ := hus'.exists_of_cons nofun
    obtain ⟨ws, close, rfl, hws, hclose⟩ := hvs.exists_of_append_cons nofun nofun
    cases hclose
    obtain ⟨items', hsep', hvalues, hall⟩ := hsep.exists_respelled hws
    rw [← hvalues]
    refine .notAmong (ih hxs) ?_ hsep' (hitems ihitems hall)
    rintro rfl
    exact hne (List.map_eq_nil_iff.mp hvalues.symm)
  | primary _ ih => exact .primary (ih hts)
  | negativeNumber hn =>
    obtain ⟨us, rfl, hus⟩ := hts.exists_of_cons nofun
    obtain rfl := hus.eq_singleton
    exact .negativeNumber hn
  | negate _ hnumber ih =>
    obtain ⟨us, rfl, hus⟩ := hts.exists_of_cons nofun
    refine .negate (ih hus) ?_
    rintro digits s' us' rfl
    obtain ⟨vs, rfl, -⟩ := hus.symm.exists_of_cons nofun
    exact hnumber digits s' vs rfl
  | number hn =>
    obtain rfl := hts.eq_singleton
    exact .number hn
  | string =>
    obtain rfl := hts.eq_singleton
    exact .string
  | true =>
    obtain rfl := hts.eq_singleton
    exact .true
  | false =>
    obtain rfl := hts.eq_singleton
    exact .false
  | present =>
    obtain ⟨us, rfl, hus⟩ := hts.exists_of_cons nofun
    obtain rfl := hus.eq_singleton
    exact .present
  | attr =>
    obtain rfl := hts.eq_singleton
    exact .attr
  | call hsep _ hcall ihitems =>
    obtain ⟨name', vs, rfl, hname, hvs⟩ := hts.exists_of_call
    obtain ⟨ws, close, rfl, hws, hclose⟩ := hvs.exists_of_append_cons nofun nofun
    cases hclose
    obtain ⟨items', hsep', hvalues, hall⟩ := hsep.exists_respelled hws
    refine .call hsep' (hitems ihitems hall) ?_
    rw [Parse.checkedCall_eq_ok_iff, ← Registry.offers_asciiUpper] at hcall ⊢
    rwa [hvalues, hname]
  | parenthesized _ ih =>
    obtain ⟨us, rfl, hus⟩ := hts.exists_of_cons nofun
    obtain ⟨xs, close, rfl, hxs, hclose⟩ := hus.exists_of_append_cons nofun nofun
    cases hclose
    exact .parenthesized (ih hxs)

/-! ### The words of an expression -/

mutual

/-- **The words of a tree** from left to right: the names of attributes, the texts of string
literals and of patterns. -/
def Tree.words : Tree → List String
  | .literal (.string text) => [text]
  | .literal _ => []
  | .attr name | .present name => [name]
  | .unary _ x => x.words
  | .binary _ l r => l.words ++ r.words
  | .among x set => x.words ++ wordsOfList set
  | .like x p => x.words ++ [p.text]
  | .call _ args => wordsOfList args

/-- The words of a list of trees. -/
def Tree.wordsOfList : List Tree → List String
  | [] => []
  | t :: ts => t.words ++ wordsOfList ts

end

namespace Token

/-- The word of a token before another one: a string literal is one, and so is a name, unless it is
that of a function. -/
def word : Token → Option Token → List String
  | .identifier _, some (.symbol .leftParen) => []
  | .identifier name, _ => [name]
  | .string text, _ => [text]
  | _, _ => []

/-- **The words of tokens**, in order. -/
def words : List Token → List String
  | [] => []
  | token :: tokens => token.word tokens.head? ++ words tokens

variable {token : Token} {tokens more : List Token} {next : Option Token}

/-- What stands behind a token matters to its word only if it is an opening parenthesis. -/
theorem word_eq_word_none (h : next ≠ some (.symbol .leftParen)) :
    token.word next = token.word none := by
  cases token with
  | identifier name =>
    rw [word]
    · rfl
    · exact h
  | number | string | keyword | symbol => rfl

/-- **The words of tokens behind one another**, if the latter do not begin with a parenthesis. -/
theorem words_append (h : more.head? ≠ some (.symbol .leftParen)) :
    words (tokens ++ more) = words tokens ++ words more := by
  induction tokens with
  | nil => rfl
  | cons token tokens ih =>
    rw [List.cons_append, words, words, ih, List.append_assoc]
    congr 1
    cases tokens with
    | nil => exact word_eq_word_none h
    | cons => rfl

/-- A keyword has no word. -/
@[simp] theorem words_keyword (k : Keyword) : words (.keyword k :: tokens) = words tokens := rfl

/-- A symbol has no word. -/
@[simp] theorem words_symbol (s : Symbol) : words (.symbol s :: tokens) = words tokens := rfl

/-- The words around a keyword. -/
@[simp] theorem words_append_keyword (k : Keyword) :
    words (tokens ++ .keyword k :: more) = words tokens ++ words more := by
  rw [words_append (by simp), words_keyword]

/-- The words around a symbol. -/
theorem words_append_symbol {s : Symbol} (hs : s ≠ .leftParen) :
    words (tokens ++ .symbol s :: more) = words tokens ++ words more := by
  rw [words_append (by simpa using hs), words_symbol]

/-- The words around a comma. -/
@[simp] theorem words_append_comma :
    words (tokens ++ .symbol .comma :: more) = words tokens ++ words more :=
  words_append_symbol nofun

/-- The words before a closing parenthesis. -/
@[simp] theorem words_append_rightParen :
    words (tokens ++ [.symbol .rightParen]) = words tokens := by
  have hparen : Symbol.rightParen ≠ .leftParen := nofun
  rw [words_append_symbol hparen, words, List.append_nil]

/-- The name of a function is no word. -/
@[simp] theorem words_call (name : String) :
    words (.identifier name :: .symbol .leftParen :: tokens) = words tokens := rfl

/-- The words around an operator. -/
theorem words_append_of_rank? {n : Nat} (h : token.rank? = some (n + 1)) :
    words (tokens ++ token :: more) = words tokens ++ words more := by
  cases token with
  | identifier | number | string => cases h
  | keyword k => exact words_append_keyword k
  | symbol s =>
    refine words_append_symbol ?_
    rintro rfl
    cases h

end Token

/-- The words of a list of phrases are those of its members. -/
theorem Separated.words_eq {us : List Lexeme} {items : List (List Lexeme × Expr)}
    (h : Separated us (items.map (·.1)))
    (hitems : ∀ i ∈ items, Token.words (i.1.map (·.token)) = i.2.tree.words) :
    Token.words (us.map (·.token)) = Tree.wordsOfList (Expr.trees (items.map (·.2))) := by
  induction items generalizing us with
  | nil =>
    cases h
    rfl
  | cons i items ih =>
    obtain ⟨hi, hitems⟩ := List.forall_mem_cons.mp hitems
    rw [List.map_cons, Expr.trees, Tree.wordsOfList, ← hi]
    cases items with
    | nil =>
      cases h
      exact (List.append_nil _).symm
    | cons j items =>
      cases h with
      | more _ comma hrest =>
        rw [List.map_append, List.map_cons, Token.words_append_comma, ih hrest hitems]

/-- **The words of a phrase** are those of its expression. -/
theorem Phrase.words_eq {functions : Registry} {level : Level} {ts : List Lexeme} {e : Expr}
    (h : Phrase functions level ts e) : Token.words (ts.map (·.token)) = e.tree.words := by
  induction h with
  | operand _ ih | comparison _ ih | sum _ ih | primary _ ih => exact ih
  | @chained c _ _ _ _ _ _ _ hop _ ihl ihr =>
    have hrank := Chain.rank?_of_operator? hop
    rw [← c.rank_operand] at hrank
    rw [List.map_append, List.map_cons, Token.words_append_of_rank? hrank, ihl, ihr]
    rfl
  | not _ ih | negate _ _ ih => exact ih
  | compare _ hop _ ihl ihr =>
    rw [List.map_append, List.map_cons,
      Token.words_append_of_rank? (ComparisonOp.rank?_of_ofToken? hop), ihl, ihr]
    rfl
  | like _ hp ih | notLike _ hp ih =>
    simp only [List.map_append, List.map_cons, List.map_nil, Token.words_append_keyword,
      Token.words_keyword, ih, ← Pattern.text_of_ofText hp]
    rfl
  | among _ _ hsep _ ih ihitems | notAmong _ _ hsep _ ih ihitems =>
    simp only [List.map_append, List.map_cons, List.map_nil, Token.words_append_keyword,
      Token.words_keyword, Token.words_symbol, Token.words_append_rightParen, ih,
      hsep.words_eq ihitems]
    rfl
  | negativeNumber hn | number hn =>
    obtain ⟨n, -, rfl⟩ := Parse.integer_eq_ok_iff.mp hn
    rfl
  | string | true | false | present | attr => rfl
  | call hsep _ hcall ihitems =>
    obtain ⟨-, rfl⟩ := Parse.checkedCall_eq_ok_iff.mp hcall
    simp only [List.map_append, List.map_cons, List.map_nil, Token.words_call,
      Token.words_append_rightParen, hsep.words_eq ihitems]
    rfl
  | parenthesized _ ih =>
    simp only [List.map_append, List.map_cons, List.map_nil, Token.words_symbol,
      Token.words_append_rightParen, ih, Expr.tree_withSpan]

/-! ### Sources in another case -/

namespace Source

variable {functions : Registry} {source source' : Source} {offset : Nat} {cs cs' : List Char}
  {ts ts' : List Lexeme} {e : Expr}

/-- Where one text goes on with a symbol, so does the other. -/
theorem Parallel.head?_eq_symbol_iff (h : source.Parallel source' offset cs cs' ts ts')
    {s : Symbol} : (ts'.map (·.token)).head? = some (.symbol s) ↔
      (ts.map (·.token)).head? = some (.symbol s) := by
  cases h with
  | nil => rfl
  | token _ _ _ _ _ _ hraise _ =>
    simp only [List.map_cons, List.head?_cons, Option.some.injEq]
    constructor
    · rintro rfl
      exact Token.eq_symbol_of_raise hraise.symm
    · rintro rfl
      exact Token.eq_symbol_of_raise hraise

/-- **Texts with the same words** differ in the case of keywords and of names before parentheses
only. -/
theorem Parallel.respelled_of_words_eq (h : source.Parallel source' offset cs cs' ts ts')
    (hwords : Token.words (ts'.map (·.token)) = Token.words (ts.map (·.token))) :
    Respelled (ts.map (·.mapSpan (Span.moveTo source'))) ts' := by
  induction h with
  | nil => exact .nil
  | @token offset blanks blanks' c c' cs cs' rest rest' ts ts' token token' _ _ _ _ _ _ hraise
      hparallel ih =>
    rw [List.map_cons, List.map_cons] at hwords
    cases token with
    | keyword k =>
      obtain rfl := Token.eq_keyword_of_raise hraise
      exact .same _ (ih hwords)
    | symbol s =>
      obtain rfl := Token.eq_symbol_of_raise hraise
      exact .same _ (ih hwords)
    | number digits =>
      obtain rfl := Token.eq_number_of_raise hraise
      exact .same _ (ih hwords)
    | string text =>
      obtain ⟨text', rfl⟩ := Token.exists_string_of_raise hraise
      obtain ⟨rfl, htail⟩ := List.cons.inj hwords
      exact .same _ (ih htail)
    | identifier name =>
      obtain ⟨name', rfl, hname⟩ := Token.exists_identifier_of_raise hraise
      by_cases hparen : (ts.map (·.token)).head? = some (.symbol .leftParen)
      · -- The names are those of functions, and no words.
        have hparen' := hparallel.head?_eq_symbol_iff.mpr hparen
        rw [Token.words, Token.words, hparen, hparen'] at hwords
        obtain ⟨⟨_, s⟩, us, rfl⟩ := List.exists_cons_of_ne_nil fun h : ts = [] => by
          rw [h] at hparen
          cases hparen
        cases hparen
        obtain ⟨us', rfl, hus⟩ := (ih hwords).exists_of_cons nofun
        exact .call hname hus
      · have hparen' := mt hparallel.head?_eq_symbol_iff.mp hparen
        rw [Token.words, Token.words, Token.word_eq_word_none hparen,
          Token.word_eq_word_none hparen'] at hwords
        obtain ⟨rfl, htail⟩ := List.cons.inj hwords
        exact .same _ (ih htail)

/-- Spans of a source with a text can be merged before they are moved or after. -/
theorem keepsMerge_moveTo (hsource : source.text ≠ "") (hsource' : source'.text ≠ "") :
    Span.KeepsMerge (fun s => s.source = source) (Span.moveTo source') where
  merge hs ht := by rw [Span.merge_eq hsource hs ht]
  map_merge {s t} hs ht := by
    have hmoved : (s.moveTo source').merge (t.moveTo source') = _ :=
      Span.merge_eq hsource' rfl rfl
    rw [Span.merge_eq hsource hs ht, hmoved]
    rfl

/-- A phrase of the tokens of a source is one at the same places of another source. -/
theorem phrase_moveTo (h : Phrase functions .top ts e) (htokens : source.tokens = .ok ts)
    (hsource' : source'.text ≠ "") :
    Phrase functions .top (ts.map (·.mapSpan (Span.moveTo source')))
      (e.mapSpans (Span.moveTo source')) := by
  obtain ⟨horder, hsource⟩ := h.inOrder htokens List.infix_rfl
  exact (h.mapSpans (keepsMerge_moveTo hsource hsource') horder.source_eq).2

/-- **In another case, a source parses** to the same expression at the same places. -/
theorem Recased.parse_eq (h : source.Recased source') (hparse : source.parse functions = .ok e) :
    source'.parse functions = .ok (e.mapSpans (Span.moveTo source')) := by
  obtain ⟨ts, htokens, hphrase⟩ := parse_eq_ok_iff_phrase.mp hparse
  obtain ⟨ts', htokens', -, hiff⟩ := exists_tokens_of_map_toUpper_eq htokens h.map_toUpper_eq
  have hts := hiff.mp h
  have hne := hts.ne_nil (mt List.map_eq_nil_iff.mp hphrase.ne_nil)
  have hmoved := phrase_moveTo hphrase htokens (text_ne_empty_of_tokens htokens' hne)
  exact parse_eq_ok_iff_phrase.mpr ⟨ts', htokens', hmoved.respelled hts⟩

/-- Tokens of a source that are moved to another one can be moved back. -/
theorem map_moveTo_moveTo (htokens : source.tokens = .ok ts) (source' : Source) :
    (ts.map (·.mapSpan (Span.moveTo source'))).map (·.mapSpan (Span.moveTo source)) = ts := by
  have hsource := (tokens_eq_ok_iff_tiles.mp htokens).inOrder.1.source_eq
  have hback : ∀ t ∈ ts, (t.mapSpan (Span.moveTo source')).mapSpan (Span.moveTo source) = t := by
    intro t ht
    rw [← hsource t ht]
    rfl
  rw [List.map_map]
  exact (List.map_congr_left hback).trans (List.map_id' ts)

/-- If a source parses in another case, it parses. -/
theorem Recased.exists_parse_eq (h : source.Recased source')
    (hparse : source'.parse functions = .ok e) : ∃ e, source.parse functions = .ok e := by
  obtain ⟨us, hus, hphrase⟩ := parse_eq_ok_iff_phrase.mp hparse
  obtain ⟨ts, htokens, -⟩ := exists_tokens_of_map_toUpper_eq hus h.map_toUpper_eq.symm
  obtain ⟨ts', htokens', -, hiff⟩ := exists_tokens_of_map_toUpper_eq htokens h.map_toUpper_eq
  cases hus.symm.trans htokens'
  have hts := (hiff.mp h).symm.mapSpan (Span.moveTo source)
  rw [map_moveTo_moveTo htokens] at hts
  have hne := hts.ne_nil (mt List.map_eq_nil_iff.mp hphrase.ne_nil)
  have hmoved := phrase_moveTo hphrase hus (text_ne_empty_of_tokens htokens hne)
  exact ⟨_, parse_eq_ok_iff_phrase.mpr ⟨ts, htokens, hmoved.respelled hts⟩⟩

/-- Sources that parse to the same expression differ in case where it does not matter. -/
theorem recased_of_parse_eq (hparse : source.parse functions = .ok e)
    (hparse' : source'.parse functions = .ok (e.mapSpans (Span.moveTo source')))
    (halike : source'.chars.map Char.toUpper = source.chars.map Char.toUpper) :
    source.Recased source' := by
  obtain ⟨ts, htokens, hphrase⟩ := parse_eq_ok_iff_phrase.mp hparse
  obtain ⟨us, hus, hphrase'⟩ := parse_eq_ok_iff_phrase.mp hparse'
  obtain ⟨ts', htokens', hparallel, hiff⟩ := exists_tokens_of_map_toUpper_eq htokens halike
  cases hus.symm.trans htokens'
  refine hiff.mpr (hparallel.respelled_of_words_eq ?_)
  rw [hphrase.words_eq, hphrase'.words_eq, Expr.tree_mapSpans]

/-- **The words of a parsed source** are those of its tokens, and the tokens are as they are
written. -/
theorem exists_words_eq_of_parse (hparse : source.parse functions = .ok e) :
    ∃ ts, source.tokens = .ok ts ∧ e.tree.words = Token.words (ts.map (·.token)) ∧
      ∀ t ∈ ts, t.token.IsWritten t.span.text.toList := by
  obtain ⟨ts, htokens, hphrase⟩ := parse_eq_ok_iff_phrase.mp hparse
  refine ⟨ts, htokens, hphrase.words_eq.symm, ?_⟩
  intro t ht
  obtain ⟨c, cs, htext, -, hscan⟩ := readsAs_of_mem_tokens htokens t ht
  rw [htext]
  exact Token.isWritten_of_scan hscan

/-- **What case is to a source and another one.** -/
structure CaseLaws (functions : Registry) (source source' : Source) : Prop where
  /-- In another case, where case does not matter, a source parses if and only if it does. -/
  parses_iff : source.Recased source' →
    ((∃ e, source.parse functions = .ok e) ↔ ∃ e, source'.parse functions = .ok e)
  /-- It parses to the same expression, each node of which has the same offsets. -/
  parse_eq : source.Recased source' → ∀ e, source.parse functions = .ok e →
    source'.parse functions = .ok (e.mapSpans (Span.moveTo source'))
  /-- That expression has the same value in every environment, or fails for the same reason at the
  same offsets. -/
  eval_eq : ∀ (e : Expr) env, (e.mapSpans (Span.moveTo source')).eval env =
    mapBlame (Span.moveTo source') (e.eval env)
  /-- Nowhere else does case not matter: where letters in another case leave the expression, they
  are in keywords and in the names of functions. -/
  recased : ∀ e, source.parse functions = .ok e →
    source'.chars.map Char.toUpper = source.chars.map Char.toUpper →
    source'.parse functions = .ok (e.mapSpans (Span.moveTo source')) → source.Recased source'
  /-- The names of attributes and the texts of strings and patterns are those of the tokens, which
  are as they are written. -/
  words_eq : ∀ e, source.parse functions = .ok e → ∃ ts, source.tokens = .ok ts ∧
    e.tree.words = Token.words (ts.map (·.token)) ∧
    ∀ t ∈ ts, t.token.IsWritten t.span.text.toList

/-- **Keywords and the names of functions ignore the case of letters, and nothing else does**,
whatever the functions. -/
theorem caseLaws (functions : Registry) (source source' : Source) :
    CaseLaws functions source source' where
  parses_iff h := by
    constructor
    · rintro ⟨e, he⟩
      exact ⟨_, h.parse_eq he⟩
    · rintro ⟨e, he⟩
      exact h.exists_parse_eq he
  parse_eq h _ he := h.parse_eq he
  eval_eq e env := e.eval_mapSpans env (Span.moveTo source')
  recased _ he halike he' := recased_of_parse_eq he he' halike
  words_eq _ he := exists_words_eq_of_parse he

/-- A keyword and a function in another case, and a name as it was. -/
theorem caseLaws_mixedCase :
    let source : Source := ⟨0, "NOT upper(a)"⟩
    let source' : Source := ⟨1, "nOt UPPer(a)"⟩
    let functions : Registry := ⟨[.define "Upper" [.string] none .string fun _ => .ok default]⟩
    source.Recased source' ∧ ∃ e, source.parse functions = .ok e ∧
      source'.parse functions = .ok (e.mapSpans (Span.moveTo source')) := by
  intro source source' functions
  let negation : Lexeme := ⟨.keyword .not, source, 0, 3⟩
  let function : Lexeme := ⟨.identifier "upper", source, 4, 9⟩
  let more : List Lexeme := [⟨.symbol .leftParen, source, 9, 10⟩, ⟨.identifier "a", source, 10, 11⟩,
    ⟨.symbol .rightParen, source, 11, 12⟩]
  have htokens : source.tokens = .ok ([] ++ negation :: function :: more) := by decide +kernel
  have htokens' : source.tokens = .ok ([negation] ++ function :: more) := htokens
  have hnegation : source.RecasedFrom 0 ['N', 'O', 'T'] ['n', 'O', 't'] :=
    .of_ignoresCaseAt rfl fun o hlow hhigh =>
      (ignoresCaseAt_iff htokens ⟨hlow, hhigh⟩).mpr rfl
  have hfunction : source.RecasedFrom 4 ['u', 'p', 'p', 'e', 'r'] ['U', 'P', 'P', 'e', 'r'] :=
    .of_ignoresCaseAt rfl fun o hlow hhigh =>
      (ignoresCaseAt_iff htokens' ⟨hlow, hhigh⟩).mpr rfl
  have hchars : source.chars =
      ['N', 'O', 'T'] ++ ([' '] ++ (['u', 'p', 'p', 'e', 'r'] ++ ['(', 'a', ')'])) := by
    decide +kernel
  have hchars' : source'.chars =
      ['n', 'O', 't'] ++ ([' '] ++ (['U', 'P', 'P', 'e', 'r'] ++ ['(', 'a', ')'])) := by
    decide +kernel
  have hrecased : source.Recased source' := by
    rw [Recased, hchars, hchars']
    exact hnegation.append ((RecasedFrom.refl ..).append (hfunction.append (.refl ..)))
  have hparse : (source.parse functions).isOk = true := by decide +kernel
  cases he : source.parse functions with
  | error _ =>
    rw [he] at hparse
    cases hparse
  | ok e =>
    have hlaws := caseLaws functions source source'
    exact ⟨hrecased, e, rfl, hlaws.parse_eq hrecased e he⟩

end Source

end EventFilter
