import EventFilter.Proofs.Eval.Spans
import EventFilter.Proofs.Grammar
import EventFilter.Proofs.Phrase.Excerpts
import EventFilter.Proofs.Token.Spacing

/-!
# Parentheses that add nothing

A phrase in parentheses is a phrase of every level. So it fits wherever the phrase was, and what
stands before and behind does not matter: no rule but one looks into its parts, and that one, for a
minus, only asks whether a number comes next. Rule by rule, the tokens of any node can be put in
parentheses without a change to the tree (`Phrase.takesParens`). In the text, a parenthesis goes on
no token and is a token of its own, so that parentheses around the text of a node are parentheses
around its tokens (`Source.exists_tokens_parenthesize`).
Main statement: with the text of any node in parentheses a source parses to the same tree
(`Source.parse_parenthesize`).
-/

namespace EventFilter

open Parse (negated)

/-! ### Parentheses around tokens -/

/-- Tokens in parentheses. -/
def inParens (ts : List Lexeme) : List Lexeme :=
  ⟨.symbol .leftParen, .detached⟩ :: (ts ++ [⟨.symbol .rightParen, .detached⟩])

/-- **Tokens are a phrase for a tree**, whatever its spans are. -/
def PhraseFor (functions : Registry) (level : Level) (ts : List Lexeme) (t : Tree) : Prop :=
  ∃ e, Phrase functions level ts e ∧ e.tree = t

/-- **Tokens take parentheses at a span**: the phrase at that span, among the others, can be put in
parentheses, and the tokens are a phrase for the tree then. -/
def TakesParens (functions : Registry) (level : Level) (ts : List Lexeme) (t : Tree) (s : Span) :
    Prop :=
  ∃ pre us post level' n, ts = pre ++ (us ++ post) ∧ Phrase functions level' us n ∧ n.span = s ∧
    PhraseFor functions level (pre ++ (inParens us ++ post)) t

/-- A part of a list can be exchanged for any other. -/
theorem Separated.exists_exchange {us ts : List Lexeme} {l r : List (List Lexeme)}
    (h : Separated us (l ++ ts :: r)) : ∃ before after, us = before ++ (ts ++ after) ∧
      ∀ ts', Separated (before ++ (ts' ++ after)) (l ++ ts' :: r) := by
  generalize htss : l ++ ts :: r = tss at h
  induction h generalizing l with
  | none => exact absurd htss (by simp)
  | one vs =>
    obtain ⟨rfl, htail⟩ := List.append_eq_singleton_iff.mp htss |>.resolve_right (by simp)
    cases htail
    refine ⟨[], [], by simp, fun ts' => ?_⟩
    rw [List.append_nil]
    exact .one ts'
  | @more us v vss vs comma hrest ih =>
    cases l with
    | nil =>
      cases htss
      exact ⟨[], ⟨.symbol .comma, comma⟩ :: us, rfl, fun ts' => .more ts' comma hrest⟩
    | cons w l =>
      obtain ⟨rfl, htail⟩ := List.cons.inj htss
      obtain ⟨before, after, rfl, hexchange⟩ := ih htail
      refine ⟨w ++ ⟨.symbol .comma, comma⟩ :: before, after, by simp, fun ts' => ?_⟩
      have hsep := hexchange ts'
      rw [List.append_assoc, List.cons_append, List.cons_append]
      cases l with
      | nil => exact .more w comma hsep
      | cons x l => exact .more w comma hsep

namespace TakesParens

variable {functions : Registry} {level level' : Level} {ts us : List Lexeme} {e : Expr}
  {t t' : Tree} {s : Span}

/-- A phrase takes parentheses around it. -/
theorem self (h : Phrase functions level ts e) : TakesParens functions level ts e.tree e.span := by
  have hparens : Phrase functions level (inParens ts) (e.withSpan (.merge .detached .detached)) :=
    (Phrase.parenthesized (h.loosen level.rank_le)).loosen (Nat.zero_le _)
  refine ⟨[], ts, [], level, e, by simp, h, rfl, ?_⟩
  rw [List.append_nil]
  exact ⟨_, hparens, e.tree_withSpan _⟩

/-- What takes parentheses takes them at every looser level. -/
theorem loosen (h : TakesParens functions level ts t s) (hr : level.rank ≤ level'.rank) :
    TakesParens functions level' ts t s := by
  obtain ⟨pre, us, post, lower, n, hts, hus, hs, e, he, htree⟩ := h
  exact ⟨pre, us, post, lower, n, hts, hus, hs, e, he.loosen hr, htree⟩

/-- **What takes parentheses takes them inside any rule** that makes a phrase of a phrase for the
same tree, if that begins with the same token or with a parenthesis. -/
theorem within (h : TakesParens functions level ts t s) (before after : List Lexeme)
    (hus : us = before ++ (ts ++ after))
    (hrule : ∀ ts' e', Phrase functions level ts' e' → e'.tree = t →
      (∀ x ∈ ts'.head?, x ∈ ts.head? ∨ x.token = .symbol .leftParen) →
      PhraseFor functions level' (before ++ (ts' ++ after)) t') :
    TakesParens functions level' us t' s := by
  obtain ⟨pre, vs, post, lower, n, rfl, hvs, hs, e, he, htree⟩ := h
  refine ⟨before ++ pre, vs, post ++ after, lower, n, by simpa using hus, hvs, hs, ?_⟩
  have hhead : ∀ x ∈ (pre ++ (inParens vs ++ post)).head?,
      x ∈ (pre ++ (vs ++ post)).head? ∨ x.token = .symbol .leftParen := by
    intro x hx
    cases pre with
    | nil =>
      cases hx
      exact .inr rfl
    | cons p pre => exact .inl hx
  simpa using hrule _ e he htree hhead

/-- The nodes of an expression that has a phrase take parentheses if those of its operands do. -/
theorem of_phrase (h : Phrase functions level ts e)
    (hchildren : ∀ c ∈ e.children, ∀ n ∈ c.nodes,
      TakesParens functions level ts e.tree n.span) :
    ∀ n ∈ e.nodes, TakesParens functions level ts e.tree n.span := by
  intro n hn
  rcases Expr.mem_nodes_iff.mp hn with rfl | ⟨c, hc, hn⟩
  · exact self h
  · exact hchildren c hc n hn

/-- The nodes of an operator between its operands. -/
theorem of_combine {lower lower' : Level} {op : BinaryOp} {l r : Expr} {x : Lexeme}
    (hl : Phrase functions lower ts l) (hr : Phrase functions lower' us r)
    (hrule : ∀ {ts us l r}, Phrase functions lower ts l → Phrase functions lower' us r →
      Phrase functions level (ts ++ x :: us) (.combine op l r))
    (ihl : ∀ n ∈ l.nodes, TakesParens functions lower ts l.tree n.span)
    (ihr : ∀ n ∈ r.nodes, TakesParens functions lower' us r.tree n.span) :
    ∀ n ∈ (Expr.combine op l r).nodes,
      TakesParens functions level (ts ++ x :: us) (Expr.combine op l r).tree n.span := by
  apply of_phrase (hrule hl hr)
  refine List.forall_mem_cons.mpr ⟨fun n hn => ?_, List.forall_mem_singleton.mpr fun n hn => ?_⟩
  · refine (ihl n hn).within [] (x :: us) rfl fun ts' l' hl' htree _ => ?_
    exact ⟨_, hrule hl' hr, congrArg (Tree.binary op · r.tree) htree⟩
  · refine (ihr n hn).within (ts ++ [x]) [] (by simp) fun us' r' hr' htree _ => ?_
    rw [List.append_nil, List.append_assoc]
    exact ⟨_, hrule hl hr', congrArg (Tree.binary op l.tree) htree⟩

/-- The nodes of an infix NOT and its test, which begin and end where the NOT does. -/
theorem of_negated (h : Phrase functions level ts (negated e))
    (hchildren : ∀ c ∈ e.children, ∀ n ∈ c.nodes,
      TakesParens functions level ts (negated e).tree n.span) :
    ∀ n ∈ (negated e).nodes, TakesParens functions level ts (negated e).tree n.span := by
  apply of_phrase h
  refine List.forall_mem_singleton.mpr fun n hn => ?_
  rcases Expr.mem_nodes_iff.mp hn with rfl | ⟨c, hc, hn⟩
  · exact self h
  · exact hchildren c hc n hn

/-- Phrases for the same trees are as many. -/
theorem length_eq_of_trees_eq {items items' : List (List Lexeme × Expr)}
    (h : Expr.trees (items'.map (·.2)) = Expr.trees (items.map (·.2))) :
    items'.length = items.length := by
  simpa using congrArg List.length h

/-- Phrases for the same trees as some are some. -/
theorem ne_nil_of_trees_eq {items items' : List (List Lexeme × Expr)}
    (h : Expr.trees (items'.map (·.2)) = Expr.trees (items.map (·.2))) (hne : items ≠ []) :
    items' ≠ [] :=
  List.ne_nil_of_length_pos (length_eq_of_trees_eq h ▸ List.length_pos_iff.mpr hne)

/-- The nodes of the expressions of a list, inside any rule that makes a phrase of a list of phrases
for the same trees. -/
theorem of_items {items : List (List Lexeme × Expr)} {vs : List Lexeme}
    (hus : Separated us (items.map (·.1))) (hitems : ∀ i ∈ items, Phrase functions .top i.1 i.2)
    (ih : ∀ i ∈ items, ∀ n ∈ i.2.nodes, TakesParens functions .top i.1 i.2.tree n.span)
    (before after : List Lexeme) (hvs : vs = before ++ (us ++ after))
    (hrule : ∀ us' (items' : List (List Lexeme × Expr)), Separated us' (items'.map (·.1)) →
      (∀ i ∈ items', Phrase functions .top i.1 i.2) →
      Expr.trees (items'.map (·.2)) = Expr.trees (items.map (·.2)) →
      PhraseFor functions level (before ++ (us' ++ after)) t) :
    ∀ c ∈ items.map (·.2), ∀ n ∈ c.nodes, TakesParens functions level vs t n.span := by
  intro c hc n hn
  obtain ⟨i, hi, rfl⟩ := List.mem_map.mp hc
  have hi' := ih i hi n hn
  obtain ⟨l, r, rfl⟩ := List.append_of_mem hi
  rw [List.map_append, List.map_cons] at hus
  obtain ⟨front, back, rfl, hexchange⟩ := hus.exists_exchange
  refine hi'.within (before ++ front) (back ++ after) (by simpa using hvs)
    fun ts' e' h' htree _ => ?_
  have hphrases : ∀ j ∈ l ++ (ts', e') :: r, Phrase functions .top j.1 j.2 := by
    simp only [List.forall_mem_append, List.forall_mem_cons] at hitems ⊢
    exact ⟨hitems.1, h', hitems.2.2⟩
  have hsep : Separated (front ++ (ts' ++ back)) ((l ++ (ts', e') :: r).map (·.1)) := by
    rw [List.map_append, List.map_cons]
    exact hexchange ts'
  simpa using hrule _ _ hsep hphrases (by simp [htree])

end TakesParens

open TakesParens (of_phrase of_combine of_negated of_items length_eq_of_trees_eq
  ne_nil_of_trees_eq)

/-- **Every node of the expression of a phrase takes parentheses.** -/
theorem Phrase.takesParens {functions : Registry} {level : Level} {ts : List Lexeme} {e : Expr}
    (h : Phrase functions level ts e) :
    ∀ n ∈ e.nodes, TakesParens functions level ts e.tree n.span := by
  induction h with
  | @operand c ts e _ ih =>
    exact fun n hn => (ih n hn).loosen (Nat.le_of_lt c.rank_operand_lt)
  | comparison _ ih | sum _ ih | primary _ ih => exact fun n hn => (ih n hn).loosen (by decide)
  | chained hl hop hr ihl ihr =>
    exact of_combine hl hr (fun hl hr => .chained hl hop hr) ihl ihr
  | compare hl hop hr ihl ihr =>
    exact of_combine hl hr (fun hl hr => .compare hl hop hr) ihl ihr
  | @not s ts x hx ih =>
    apply of_phrase (.not hx)
    refine List.forall_mem_singleton.mpr fun n hn => ?_
    refine (ih n hn).within [⟨.keyword .not, s⟩] [] (by simp) fun ts' x' hx' htree _ => ?_
    rw [List.append_nil]
    exact ⟨_, .not hx', congrArg (Tree.unary .not) htree⟩
  | @negate s ts x hx hnumber ih =>
    apply of_phrase (.negate hx hnumber)
    refine List.forall_mem_singleton.mpr fun n hn => ?_
    refine (ih n hn).within [⟨.symbol .minus, s⟩] [] (by simp) fun ts' x' hx' htree hhead => ?_
    rw [List.append_nil]
    refine ⟨_, .negate hx' ?_, congrArg (Tree.unary .negate) htree⟩
    -- The operand begins with a number only if it did before.
    rintro digits s' us rfl
    rcases hhead _ rfl with hsame | hparen
    · obtain ⟨more, rfl⟩ := List.head?_eq_some_iff.mp hsame
      exact hnumber digits s' more rfl
    · cases hparen
  | @like ts x s s' text p hx hp ih =>
    apply of_phrase (.like hx hp)
    refine List.forall_mem_singleton.mpr fun n hn => ?_
    refine (ih n hn).within [] _ rfl fun ts' x' hx' htree _ => ?_
    exact ⟨_, .like hx' hp, congrArg (Tree.like · p) htree⟩
  | @notLike ts x s₀ s s' text p hx hp ih =>
    apply of_negated (.notLike hx hp)
    refine List.forall_mem_singleton.mpr fun n hn => ?_
    refine (ih n hn).within [] _ rfl fun ts' x' hx' htree _ => ?_
    exact ⟨_, .notLike hx' hp, congrArg (fun t => Tree.unary .not (.like t p)) htree⟩
  | @among ts x s s' s'' us items hx hne hus hitems ih ihitems =>
    apply of_phrase (.among hx hne hus hitems)
    refine List.forall_mem_cons.mpr ⟨fun n hn => ?_, ?_⟩
    · refine (ih n hn).within [] _ rfl fun ts' x' hx' htree _ => ?_
      exact ⟨_, .among hx' hne hus hitems, congrArg (Tree.among · _) htree⟩
    · refine of_items hus hitems ihitems (ts ++ [⟨.keyword .among, s⟩, ⟨.symbol .leftParen, s'⟩])
        [⟨.symbol .rightParen, s''⟩] (by simp) fun us' items' hus' hitems' htrees => ?_
      have hne' := ne_nil_of_trees_eq htrees hne
      rw [List.append_assoc]
      exact ⟨_, .among hx hne' hus' hitems', congrArg (Tree.among x.tree) htrees⟩
  | @notAmong ts x s₀ s s' s'' us items hx hne hus hitems ih ihitems =>
    apply of_negated (.notAmong hx hne hus hitems)
    refine List.forall_mem_cons.mpr ⟨fun n hn => ?_, ?_⟩
    · refine (ih n hn).within [] _ rfl fun ts' x' hx' htree _ => ?_
      refine ⟨_, .notAmong hx' hne hus hitems, ?_⟩
      exact congrArg (fun t => Tree.unary .not (.among t _)) htree
    · refine of_items hus hitems ihitems
        (ts ++ [⟨.keyword .not, s₀⟩, ⟨.keyword .among, s⟩, ⟨.symbol .leftParen, s'⟩])
        [⟨.symbol .rightParen, s''⟩] (by simp) fun us' items' hus' hitems' htrees => ?_
      have hne' := ne_nil_of_trees_eq htrees hne
      rw [List.append_assoc]
      refine ⟨_, .notAmong hx hne' hus' hitems', ?_⟩
      exact congrArg (fun ts => Tree.unary .not (.among x.tree ts)) htrees
  | negativeNumber h =>
    obtain ⟨n, -, rfl⟩ := Parse.integer_eq_ok_iff.mp h
    exact of_phrase (.negativeNumber h) nofun
  | number h =>
    obtain ⟨n, -, rfl⟩ := Parse.integer_eq_ok_iff.mp h
    exact of_phrase (.number h) nofun
  | string => exact of_phrase .string nofun
  | true => exact of_phrase .true nofun
  | false => exact of_phrase .false nofun
  | present => exact of_phrase .present nofun
  | attr => exact of_phrase .attr nofun
  | @call s s' s'' name us e items hus hitems hcall ihitems =>
    obtain ⟨hoffers, rfl⟩ := Parse.checkedCall_eq_ok_iff.mp hcall
    apply of_phrase (.call hus hitems hcall)
    refine of_items hus hitems ihitems [⟨.identifier name, s⟩, ⟨.symbol .leftParen, s'⟩]
      [⟨.symbol .rightParen, s''⟩] rfl fun us' items' hus' hitems' htrees => ?_
    have hoffers' : functions.Offers name (items'.map (·.2)).length := by
      rwa [List.length_map, length_eq_of_trees_eq htrees, ← List.length_map (·.2)]
    exact ⟨_, .call hus' hitems' (Parse.checkedCall_eq_ok_iff.mpr ⟨hoffers', rfl⟩),
      congrArg (Tree.call _) htrees⟩
  | @parenthesized s s' ts e h ih =>
    apply of_phrase (.parenthesized h)
    intro c hc n hn
    rw [Expr.children_withSpan] at hc
    have hinner := ih n (Expr.mem_nodes_of_child hc hn)
    refine hinner.within [⟨.symbol .leftParen, s⟩] [⟨.symbol .rightParen, s'⟩] rfl
      fun ts' e' h' htree _ => ?_
    refine ⟨_, .parenthesized h', ?_⟩
    rw [Expr.tree_withSpan, Expr.tree_withSpan, htree]

/-! ### Parentheses in a text -/

namespace Token

/-- An opening parenthesis is a token of its own. -/
theorem lex_leftParen (cs : List Char) :
    lex ('(' :: cs) = .ok (.symbol .leftParen) :: lex cs := by
  rw [lex_cons (by decide)]
  rfl

/-- A closing parenthesis is a token of its own. -/
theorem lex_rightParen (cs : List Char) :
    lex (')' :: cs) = .ok (.symbol .rightParen) :: lex cs := by
  rw [lex_cons (by decide)]
  rfl

end Token

namespace Source

variable {functions : Registry} {level : Level} {source : Source} {pre us post : List Lexeme}
  {e n : Expr}

/-- **A source with the text at a span in parentheses.** -/
def parenthesize (source : Source) (id : Nat) (s : Span) : Source :=
  ⟨id, String.ofList (Text.takeBytes s.start source.chars ++
    '(' :: (s.text.toList ++ ')' :: Text.dropBytes s.stop source.chars))⟩

/-- The text in parentheses, from the end of one part of a source to the end of the next one. -/
theorem chars_parenthesize {front body back : List Char}
    (h : source.chars = front ++ (body ++ back)) (id : Nat) :
    (source.parenthesize id ⟨source, Text.byteLength front,
      Text.byteLength front + Text.byteLength body⟩).chars =
      front ++ '(' :: (body ++ ')' :: back) := by
  rw [parenthesize, chars, String.toList_ofList, Span.text_eq_of_append h, String.toList_ofList,
    ← Text.byteLength_append, h, Text.takeBytes_append, ← List.append_assoc, Text.dropBytes_append]

/-- **Parentheses around the text of a phrase** are parentheses around its tokens. -/
theorem exists_tokens_parenthesize (h : source.tokens = .ok (pre ++ (us ++ post)))
    (hus : Phrase functions level us n) (id : Nat) :
    ∃ ts, (source.parenthesize id n.span).tokens = .ok ts ∧
      ts.map (·.token) = (pre ++ (inParens us ++ post)).map (·.token) := by
  obtain ⟨horder, hsource⟩ := hus.inOrder h ⟨pre, post, List.append_assoc pre us post⟩
  obtain ⟨first, hfirst, last, hlast, hspan⟩ := hus.covers hsource horder
  obtain ⟨front, blanks, body, back, hchars, hblanks, hstart, hstop, hfront, hbody, hback⟩ :=
    (tokens_eq_ok_iff_tiles.mp h).cut hfirst hlast
  rw [horder.source_eq first (List.mem_of_head? hfirst), hstart, hstop] at hspan
  rw [exists_tokens_iff, hspan, chars_parenthesize hchars]
  rw [Token.lex_append_delimiter (Token.lex_append_blanks hfront.lex_eq hblanks) (by decide),
    Token.lex_leftParen, Token.lex_append_delimiter hbody.lex_eq (by decide),
    Token.lex_rightParen, hback.lex_eq]
  simp [inParens]

/-- **Parentheses that are not needed do no harm.** With the text of any node in parentheses, a
source that parses does so to the same tree, which has the same value in every environment, or fails
for the same reason. It does not matter what the node is, or where: the test behind an infix NOT,
which ends where the NOT does, has the NOT inside its parentheses. -/
theorem parse_parenthesize (h : source.parse functions = .ok e) (hn : n ∈ e.nodes) (id : Nat) :
    ∃ e', (source.parenthesize id n.span).parse functions = .ok e' ∧ e'.tree = e.tree ∧
      ∀ env, (e'.eval env).mapError (·.cause) = (e.eval env).mapError (·.cause) := by
  obtain ⟨ts, htokens, hphrase⟩ := parse_eq_ok_iff_phrase.mp h
  obtain ⟨pre, us, post, level, m, rfl, hus, hspan, e₀, he₀, htree⟩ := hphrase.takesParens n hn
  obtain ⟨ts, htokens', hts⟩ := exists_tokens_parenthesize htokens hus id
  have hlegible : ∀ t ∈ pre ++ (inParens us ++ post), t.Legible := by
    have hlegible := legible_of_tokens htokens
    simp only [inParens, List.forall_mem_append, List.forall_mem_cons] at hlegible ⊢
    exact ⟨hlegible.1, ⟨nofun, hlegible.2.1, nofun, nofun⟩, hlegible.2.2⟩
  have hderives := he₀.derives hlegible
  rw [← hts, htree] at hderives
  rw [hspan] at htokens'
  obtain ⟨e', hparse, htree'⟩ := exists_parse_iff.mpr ⟨ts, htokens', hderives⟩
  exact ⟨e', hparse, htree', Expr.eval_of_tree_eq htree'⟩

/-- A negative number behind a minus, and with parentheses around it. -/
theorem parse_parenthesize_negativeNumber :
    let source : Source := ⟨0, "é - -5"⟩
    let wide : Source := ⟨1, "é - (-5)"⟩
    ∃ e e', source.parse ⟨[]⟩ = .ok e ∧ wide.parse ⟨[]⟩ = .ok e' ∧ e'.tree = e.tree := by
  intro source wide
  have hrun : ((source.parse ⟨[]⟩).toOption.map fun e => e.nodes.any fun n => decide
      (source.parenthesize 1 n.span = wide)) = some true := by
    decide +kernel
  cases he : source.parse ⟨[]⟩ with
  | error _ =>
    rw [he] at hrun
    cases hrun
  | ok e =>
    rw [he] at hrun
    obtain ⟨n, hn, hwide⟩ := List.any_eq_true.mp (Option.some.inj hrun)
    obtain ⟨e', hparse, htree, -⟩ := parse_parenthesize he hn 1
    rw [of_decide_eq_true hwide] at hparse
    exact ⟨e, e', rfl, hparse, htree⟩

end Source

end EventFilter
