import EventFilter.Proofs.Phrase.Calls
import EventFilter.Proofs.Phrase.Parsing
import EventFilter.Proofs.Token.Tiling
import EventFilter.Proofs.Tree

/-!
# The spans of phrases

No rule of the grammar looks at spans: they are merged as phrases are put together, and nothing
else. So the expression of a phrase goes wherever its tokens go, if merging them there is the same
(`Phrase.mapSpans`), and its span goes from the first of its tokens to the last
(`Phrase.exists_span_eq`).
-/

namespace EventFilter

open Parse (negated)

/-! ### Expressions with other spans -/

namespace Expr

mutual

/-- **An expression with all of its spans mapped.** -/
def mapSpans (f : Span → Span) : Expr → Expr
  | literal v s => literal v (f s)
  | attr name s => attr name (f s)
  | unary op x s => unary op (mapSpans f x) (f s)
  | binary op l r s => binary op (mapSpans f l) (mapSpans f r) (f s)
  | present name nameSpan s => present name (f nameSpan) (f s)
  | among x set s => among (mapSpans f x) (mapSpansList f set) (f s)
  | like x p s => like (mapSpans f x) p (f s)
  | call name args s => call name (mapSpansList f args) (f s)

/-- A list of expressions with all of their spans mapped. -/
def mapSpansList (f : Span → Span) : List Expr → List Expr
  | [] => []
  | e :: es => mapSpans f e :: mapSpansList f es

end

variable {f g : Span → Span}

@[simp] theorem mapSpansList_eq_map (f : Span → Span) (es : List Expr) :
    mapSpansList f es = es.map (mapSpans f) := by
  induction es with
  | nil => rfl
  | cons e es ih => rw [mapSpansList, ih, List.map_cons]

@[simp] theorem span_mapSpans (e : Expr) : (e.mapSpans f).span = f e.span := by
  cases e <;> rfl

/-- A node is mapped after it gets another span. -/
theorem mapSpans_withSpan (e : Expr) (s : Span) :
    (e.withSpan s).mapSpans f = (e.mapSpans f).withSpan (f s) := by
  cases e <;> rfl

/-- A negation that adds no text is mapped with its operand. -/
theorem mapSpans_negated (e : Expr) : (negated e).mapSpans f = negated (e.mapSpans f) := by
  rw [negated, mapSpans, negated, span_mapSpans]

/-- An operator is mapped with its operands if merging their spans is. -/
theorem mapSpans_combine {op : BinaryOp} {l r : Expr}
    (h : f (l.span.merge r.span) = (f l.span).merge (f r.span)) :
    (combine op l r).mapSpans f = combine op (l.mapSpans f) (r.mapSpans f) := by
  rw [combine, mapSpans, h, combine, span_mapSpans, span_mapSpans]

/-- Mapping twice is mapping once. -/
theorem mapSpans_mapSpans (e : Expr) : (e.mapSpans g).mapSpans f = e.mapSpans (f ∘ g) := by
  induction e using operandInduction with
  | literal | attr | present => rfl
  | unary op x s ih | like x p s ih => rw [mapSpans, mapSpans, ih, mapSpans, Function.comp_apply]
  | binary op l r s ihl ihr => rw [mapSpans, mapSpans, ihl, ihr, mapSpans, Function.comp_apply]
  | among x set s ih ihset =>
    have hset : (set.map (mapSpans g)).map (mapSpans f) = set.map (mapSpans (f ∘ g)) := by
      rw [List.map_map]
      exact List.map_congr_left ihset
    simp only [mapSpans, mapSpansList_eq_map, ih, hset, Function.comp_apply]
  | call name args s ih =>
    have hargs : (args.map (mapSpans g)).map (mapSpans f) = args.map (mapSpans (f ∘ g)) := by
      rw [List.map_map]
      exact List.map_congr_left ih
    simp only [mapSpans, mapSpansList_eq_map, hargs, Function.comp_apply]

/-- Mapping spans leaves the tree. -/
@[simp] theorem tree_mapSpans (e : Expr) : (e.mapSpans f).tree = e.tree := by
  induction e using operandInduction with
  | literal | attr | present => rfl
  | unary op x s ih | like x p s ih => rw [mapSpans, tree, tree, ih]
  | binary op l r s ihl ihr => rw [mapSpans, tree, tree, ihl, ihr]
  | among x set s ih ihset =>
    have hset : (set.map (mapSpans f)).map tree = set.map tree := by
      rw [List.map_map]
      exact List.map_congr_left ihset
    rw [mapSpans, tree, tree, ih, mapSpansList_eq_map, trees_eq_map, hset, trees_eq_map]
  | call name args s ih =>
    have hargs : (args.map (mapSpans f)).map tree = args.map tree := by
      rw [List.map_map]
      exact List.map_congr_left ih
    rw [mapSpans, tree, tree, mapSpansList_eq_map, trees_eq_map, hargs, trees_eq_map]

end Expr

/-! ### Phrases with other spans -/

/-- **A map of spans goes along with merging** them, for spans with a property that merging
keeps. -/
structure Span.KeepsMerge (P : Span → Prop) (f : Span → Span) : Prop where
  merge {s t : Span} : P s → P t → P (s.merge t)
  map_merge {s t : Span} : P s → P t → f (s.merge t) = (f s).merge (f t)

namespace Span.KeepsMerge

variable {P : Span → Prop} {f : Span → Span} {s : Span} {e : Expr}

/-- The span of an expression and one behind it. -/
theorem map_span_merge (hf : KeepsMerge P f) (he : P e.span) (hs : P s) :
    f (e.span.merge s) = (e.mapSpans f).span.merge (f s) := by
  rw [hf.map_merge he hs, Expr.span_mapSpans]

/-- The span of an expression and one before it. -/
theorem map_merge_span (hf : KeepsMerge P f) (hs : P s) (he : P e.span) :
    f (s.merge e.span) = (f s).merge (e.mapSpans f).span := by
  rw [hf.map_merge hs he, Expr.span_mapSpans]

end Span.KeepsMerge

/-- A list keeps its commas. -/
theorem Separated.mapSpans (f : Span → Span) {us : List Lexeme} {tss : List (List Lexeme)}
    (h : Separated us tss) :
    Separated (us.map (·.mapSpan f)) (tss.map (·.map (·.mapSpan f))) := by
  induction h with
  | none => exact .none
  | one ts => exact .one _
  | more ts comma _ ih =>
    rw [List.map_append]
    exact .more _ _ ih

/-- A phrase of a list and its expression, both with their spans mapped. -/
def mapItem (f : Span → Span) (i : List Lexeme × Expr) : List Lexeme × Expr :=
  (i.1.map (·.mapSpan f), i.2.mapSpans f)

/-- The expressions of a list with their spans mapped. -/
theorem map_snd_mapItem (f : Span → Span) (items : List (List Lexeme × Expr)) :
    (items.map (mapItem f)).map (·.2) = Expr.mapSpansList f (items.map (·.2)) := by
  simp [mapItem]

/-- The parts of a list with their spans mapped. -/
theorem Separated.mapItem {us : List Lexeme} {items : List (List Lexeme × Expr)}
    (h : Separated us (items.map (·.1))) (f : Span → Span) :
    Separated (us.map (·.mapSpan f)) ((items.map (mapItem f)).map (·.1)) := by
  have hmap := h.mapSpans f
  rw [List.map_map] at hmap ⊢
  exact hmap

namespace Phrase

variable {functions : Registry} {level : Level} {ts : List Lexeme} {e : Expr}

/-- **A phrase goes wherever its tokens go.** -/
theorem mapSpans {P : Span → Prop} {f : Span → Span} (hf : Span.KeepsMerge P f)
    (h : Phrase functions level ts e) (hts : ∀ t ∈ ts, P t.span) :
    P e.span ∧ Phrase functions level (ts.map (·.mapSpan f)) (e.mapSpans f) := by
  have hlist {us : List Lexeme} {items : List (List Lexeme × Expr)}
      (hus : Separated us (items.map (·.1))) (hP : ∀ t ∈ us, P t.span)
      (ih : ∀ i ∈ items, (∀ t ∈ i.1, P t.span) →
        P i.2.span ∧ Phrase functions .top (i.1.map (·.mapSpan f)) (i.2.mapSpans f)) :
      ∀ i ∈ items.map (mapItem f), Phrase functions .top i.1 i.2 := by
    intro _ hmem
    obtain ⟨i, hi, rfl⟩ := List.mem_map.mp hmem
    exact (ih i hi fun t ht => hP t ((hus.isInfix i.1 (List.mem_map_of_mem hi)).subset ht)).2
  induction h with
  | operand _ ih =>
    obtain ⟨hP, h⟩ := ih hts
    exact ⟨hP, .operand h⟩
  | chained _ hop _ ihl ihr =>
    obtain ⟨hl, hr⟩ := List.forall_mem_append.mp hts
    obtain ⟨hlP, hl⟩ := ihl hl
    obtain ⟨hrP, hr⟩ := ihr (List.forall_mem_cons.mp hr).2
    rw [List.map_append, List.map_cons, Expr.mapSpans_combine (hf.map_merge hlP hrP)]
    exact ⟨hf.merge hlP hrP, .chained hl hop hr⟩
  | comparison _ ih =>
    obtain ⟨hP, h⟩ := ih hts
    exact ⟨hP, .comparison h⟩
  | not _ ih =>
    obtain ⟨hs, hts⟩ := List.forall_mem_cons.mp hts
    obtain ⟨hP, h⟩ := ih hts
    rw [Expr.mapSpans, hf.map_merge_span hs hP]
    exact ⟨hf.merge hs hP, .not h⟩
  | sum _ ih =>
    obtain ⟨hP, h⟩ := ih hts
    exact ⟨hP, .sum h⟩
  | compare _ hop _ ihl ihr =>
    obtain ⟨hl, hr⟩ := List.forall_mem_append.mp hts
    obtain ⟨hlP, hl⟩ := ihl hl
    obtain ⟨hrP, hr⟩ := ihr (List.forall_mem_cons.mp hr).2
    rw [List.map_append, List.map_cons, Expr.mapSpans_combine (hf.map_merge hlP hrP)]
    exact ⟨hf.merge hlP hrP, .compare hl hop hr⟩
  | like _ hp ih =>
    simp only [List.forall_mem_append, List.forall_mem_cons] at hts
    obtain ⟨hvalue, -, hs, -⟩ := hts
    obtain ⟨hP, h⟩ := ih hvalue
    rw [List.map_append, Expr.mapSpans, hf.map_span_merge hP hs]
    exact ⟨hf.merge hP hs, .like h hp⟩
  | notLike _ hp ih =>
    simp only [List.forall_mem_append, List.forall_mem_cons] at hts
    obtain ⟨hvalue, -, -, hs, -⟩ := hts
    obtain ⟨hP, h⟩ := ih hvalue
    rw [List.map_append, Expr.mapSpans_negated, Expr.mapSpans, hf.map_span_merge hP hs]
    exact ⟨hf.merge hP hs, .notLike h hp⟩
  | among _ hne hus _ ih ihitems =>
    simp only [List.forall_mem_append, List.forall_mem_cons] at hts
    obtain ⟨hvalue, -, -, hset, hs, -⟩ := hts
    obtain ⟨hP, h⟩ := ih hvalue
    rw [Expr.mapSpans, hf.map_span_merge hP hs, ← map_snd_mapItem]
    simp only [List.map_append, List.map_cons, List.map_nil]
    exact ⟨hf.merge hP hs,
      .among h (mt List.map_eq_nil_iff.mp hne) (hus.mapItem f) (hlist hus hset ihitems)⟩
  | notAmong _ hne hus _ ih ihitems =>
    simp only [List.forall_mem_append, List.forall_mem_cons] at hts
    obtain ⟨hvalue, -, -, -, hset, hs, -⟩ := hts
    obtain ⟨hP, h⟩ := ih hvalue
    rw [Expr.mapSpans_negated, Expr.mapSpans, hf.map_span_merge hP hs,
      ← map_snd_mapItem]
    simp only [List.map_append, List.map_cons, List.map_nil]
    exact ⟨hf.merge hP hs,
      .notAmong h (mt List.map_eq_nil_iff.mp hne) (hus.mapItem f) (hlist hus hset ihitems)⟩
  | primary _ ih =>
    obtain ⟨hP, h⟩ := ih hts
    exact ⟨hP, .primary h⟩
  | negativeNumber hn =>
    obtain ⟨hs, hts⟩ := List.forall_mem_cons.mp hts
    have hP := hf.merge hs (hts _ List.mem_cons_self)
    have hmap := hf.map_merge hs (hts _ List.mem_cons_self)
    obtain ⟨n, hread, rfl⟩ := Parse.integer_eq_ok_iff.mp hn
    refine ⟨hP, ?_⟩
    rw [Expr.mapSpans, hmap]
    exact .negativeNumber (Parse.integer_eq_ok_iff.mpr ⟨n, hread, rfl⟩)
  | negate _ hnumber ih =>
    obtain ⟨hs, hts⟩ := List.forall_mem_cons.mp hts
    obtain ⟨hP, h⟩ := ih hts
    rw [Expr.mapSpans, hf.map_merge_span hs hP]
    refine ⟨hf.merge hs hP, .negate h ?_⟩
    -- The operand begins with a number there only if it does here.
    intro digits s us heq
    obtain ⟨⟨_, s⟩, us, rfl, ht, -⟩ := List.map_eq_cons_iff.mp heq
    cases congrArg Lexeme.token ht
    exact hnumber digits s us rfl
  | number hn =>
    obtain ⟨n, hread, rfl⟩ := Parse.integer_eq_ok_iff.mp hn
    exact ⟨hts _ List.mem_cons_self,
      .number (Parse.integer_eq_ok_iff.mpr ⟨n, hread, rfl⟩)⟩
  | string => exact ⟨hts _ List.mem_cons_self, .string⟩
  | true => exact ⟨hts _ List.mem_cons_self, .true⟩
  | false => exact ⟨hts _ List.mem_cons_self, .false⟩
  | present =>
    obtain ⟨hs, hts⟩ := List.forall_mem_cons.mp hts
    have hP := hf.merge hs (hts _ List.mem_cons_self)
    rw [Expr.mapSpans, hf.map_merge hs (hts _ List.mem_cons_self)]
    exact ⟨hP, .present⟩
  | attr => exact ⟨hts _ List.mem_cons_self, .attr⟩
  | call hus _ hcall ihitems =>
    simp only [List.forall_mem_append, List.forall_mem_cons] at hts
    obtain ⟨hs, -, hargs, hs', -⟩ := hts
    obtain ⟨hoffers, rfl⟩ := Parse.checkedCall_eq_ok_iff.mp hcall
    refine ⟨hf.merge hs hs', ?_⟩
    rw [Expr.mapSpans, hf.map_merge hs hs', ← map_snd_mapItem]
    simp only [List.map_append, List.map_cons, List.map_nil]
    refine .call (hus.mapItem f) (hlist hus hargs ihitems) ?_
    refine Parse.checkedCall_eq_ok_iff.mpr ⟨?_, rfl⟩
    rwa [List.length_map, List.length_map, ← List.length_map (·.2)]
  | parenthesized _ ih =>
    simp only [List.forall_mem_append, List.forall_mem_cons] at hts
    obtain ⟨hs, hinner, hs', -⟩ := hts
    obtain ⟨-, h⟩ := ih hinner
    rw [Expr.span_withSpan, Expr.mapSpans_withSpan, hf.map_merge hs hs', List.map_cons,
      List.map_append]
    exact ⟨hf.merge hs hs', .parenthesized h⟩

/-- A map that leaves the spans of the tokens and all that are merged of them leaves the
expression: its tokens are a phrase for no other. -/
theorem mapSpans_eq_self {P : Span → Prop} {f : Span → Span} (h : Phrase functions level ts e)
    (hmerge : ∀ {s t : Span}, P s → P t → P (s.merge t)) (hf : ∀ {s : Span}, P s → f s = s)
    (hts : ∀ t ∈ ts, P t.span) : e.mapSpans f = e := by
  have hkeeps : Span.KeepsMerge P f := by
    refine ⟨hmerge, fun hs ht => ?_⟩
    rw [hf (hmerge hs ht), hf hs, hf ht]
  have hid : ∀ t ∈ ts, t.mapSpan f = id t := by
    intro t ht
    rw [Lexeme.mapSpan, hf (hts t ht), id]
  have hphrase := (h.mapSpans hkeeps hts).2
  rw [List.map_congr_left hid, List.map_id] at hphrase
  exact hphrase.unique h

end Phrase

/-! ### The span of a phrase -/

/-- A token before another one begins and ends before it. -/
theorem Source.InOrder.start_le_and_stop_le {source : Source} {ts us : List Lexeme}
    (h : source.InOrder (ts ++ us)) {t u : Lexeme} (ht : t ∈ ts) (hu : u ∈ us) :
    t.span.start ≤ u.span.start ∧ t.span.stop ≤ u.span.stop := by
  have hlt := h.start_lt_stop t (List.mem_append_left us ht)
  have hlt' := h.start_lt_stop u (List.mem_append_right ts hu)
  have hle := (List.pairwise_append.mp h.stop_le_start).2.2 t ht u hu
  omega

namespace Span

variable {source : Source} {s s' : Span} {ts us : List Lexeme}

/-- Two spans over one source, which has a text, are merged. -/
theorem merge_eq (hsource : source.text ≠ "") (hs : s.source = source)
    (hs' : s'.source = source) :
    s.merge s' = ⟨source, min s.start s'.start, max s.stop s'.stop⟩ := by
  subst hs
  exact merge_of_source_eq (isDetached_eq_false_iff.mpr hsource) hs'.symm

/-- **A span goes from the first of some tokens to the last of them.** -/
def Covers (s : Span) (ts : List Lexeme) : Prop :=
  ∃ t ∈ ts.head?, ∃ u ∈ ts.getLast?, s = ⟨t.span.source, t.span.start, u.span.stop⟩

/-- A token alone is covered by its span. -/
theorem covers_singleton (t : Lexeme) : t.span.Covers [t] := ⟨t, rfl, t, rfl, rfl⟩

/-- **The spans of what is at both ends merge** to the span of all that stands in order. -/
theorem Covers.merge (h : s.Covers ts) (between : List Lexeme) (h' : s'.Covers us)
    (hsource : source.text ≠ "") (horder : source.InOrder (ts ++ (between ++ us))) :
    (s.merge s').Covers (ts ++ (between ++ us)) := by
  obtain ⟨t, ht, u, hu, rfl⟩ := h
  obtain ⟨t', ht', u', hu', rfl⟩ := h'
  have hmem := List.mem_append_right between (List.mem_of_head? ht')
  have hmem' := List.mem_append_right between (List.mem_of_getLast? hu')
  have hstart := (horder.start_le_and_stop_le (List.mem_of_head? ht) hmem).1
  have hstop := (horder.start_le_and_stop_le (List.mem_of_getLast? hu) hmem').2
  have hs := horder.source_eq t (List.mem_append_left _ (List.mem_of_head? ht))
  have hs' := horder.source_eq t' (List.mem_append_right ts hmem)
  refine ⟨t, ?_, u', ?_, ?_⟩
  · rw [List.head?_append, ht, Option.some_or]
    rfl
  · rw [List.getLast?_append, List.getLast?_append, hu', Option.some_or, Option.some_or]
    rfl
  · rw [merge_eq hsource]
    · simp only [Nat.min_eq_left hstart, Nat.max_eq_right hstop, hs]
    · exact hs
    · exact hs'

/-- Up to a last token. -/
theorem Covers.merge_token (h : s.Covers ts) (between : List Lexeme) (t : Lexeme)
    (hsource : source.text ≠ "") (horder : source.InOrder (ts ++ (between ++ [t]))) :
    (s.merge t.span).Covers (ts ++ (between ++ [t])) :=
  h.merge between (covers_singleton t) hsource horder

/-- From a first token to a last one. -/
theorem covers_merge (t : Lexeme) (between : List Lexeme) (u : Lexeme)
    (hsource : source.text ≠ "") (horder : source.InOrder (t :: (between ++ [u]))) :
    (t.span.merge u.span).Covers (t :: (between ++ [u])) :=
  (covers_singleton t).merge_token between u hsource horder

end Span

/-- **The span of a phrase goes from the first of its tokens to the last.** -/
theorem Phrase.covers {functions : Registry} {source : Source} {level : Level} {ts : List Lexeme}
    {e : Expr} (h : Phrase functions level ts e) (hsource : source.text ≠ "")
    (horder : source.InOrder ts) : e.span.Covers ts := by
  induction h with
  | operand _ ih | comparison _ ih | sum _ ih | primary _ ih => exact ih horder
  | @chained c ts t us l r op _ _ _ ihl ihr | @compare ts t us l r op _ _ _ ihl ihr =>
    have hus : us.Sublist (ts ++ t :: us) :=
      (List.sublist_cons_self t us).trans (List.sublist_append_right ts (t :: us))
    have hl := ihl (horder.sublist (List.sublist_append_left ts (t :: us)))
    have hr := ihr (horder.sublist hus)
    exact hl.merge [t] hr hsource horder
  | @not s ts e _ ih | @negate s ts e _ _ ih =>
    have hx := ih (horder.sublist (List.sublist_cons_self _ ts))
    exact (Span.covers_singleton _).merge [] hx hsource horder
  | @like ts x s s' text p _ _ ih =>
    have hx := ih (horder.sublist (List.sublist_append_left ts _))
    exact hx.merge_token [_] ⟨.string text, s'⟩ hsource horder
  | @notLike ts x s₀ s s' text p _ _ ih =>
    have hx := ih (horder.sublist (List.sublist_append_left ts _))
    exact hx.merge_token [_, _] ⟨.string text, s'⟩ hsource horder
  | @among ts x s s' s'' us items _ _ _ _ ih _ =>
    have hx := ih (horder.sublist (List.sublist_append_left ts _))
    exact hx.merge_token (_ :: _ :: us) ⟨.symbol .rightParen, s''⟩ hsource horder
  | @notAmong ts x s₀ s s' s'' us items _ _ _ _ ih _ =>
    have hx := ih (horder.sublist (List.sublist_append_left ts _))
    exact hx.merge_token (_ :: _ :: _ :: us) ⟨.symbol .rightParen, s''⟩ hsource horder
  | @negativeNumber s s' digits e hn =>
    obtain ⟨n, -, rfl⟩ := Parse.integer_eq_ok_iff.mp hn
    exact Span.covers_merge ⟨.symbol .minus, s⟩ [] ⟨.number digits, s'⟩ hsource horder
  | number hn =>
    obtain ⟨n, -, rfl⟩ := Parse.integer_eq_ok_iff.mp hn
    exact Span.covers_singleton _
  | string | true | false | attr => exact Span.covers_singleton _
  | @present s s' name =>
    exact Span.covers_merge ⟨.keyword .present, s⟩ [] ⟨.identifier name, s'⟩ hsource horder
  | @call s s' s'' name us e items _ _ hcall _ =>
    obtain ⟨-, rfl⟩ := Parse.checkedCall_eq_ok_iff.mp hcall
    exact Span.covers_merge ⟨.identifier name, s⟩ (⟨.symbol .leftParen, s'⟩ :: us)
      ⟨.symbol .rightParen, s''⟩ hsource horder
  | @parenthesized s s' ts e _ _ =>
    rw [Expr.span_withSpan]
    exact Span.covers_merge ⟨.symbol .leftParen, s⟩ ts ⟨.symbol .rightParen, s'⟩ hsource horder

end EventFilter
