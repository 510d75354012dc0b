import EventFilter.Filter
import EventFilter.Proofs.Phrase.Excerpts
import EventFilter.Proofs.Token.Edges

/-!
# How spans are nested

The spans of a parsed tree lie along the tokens of its source. Each node takes up some tokens next
to one another, and its operands take up separate parts of these in the order in which they are
written (`Expr.LaidOut`). This carries over from the operands of a node to the node by one rule
(`Expr.StandsAlong.of_items`), whatever the node is: only the parts that the operands take up
differ from rule to rule of the grammar.
Main statement: the tree of a source takes up its trimmed text, and every node of it is laid out
along its tokens (`Source.laidOut_of_parse`).
-/

namespace EventFilter

open Parse (negated)

/-! ### Tokens and what covers them -/

variable {source : Source} {ts us : List Lexeme} {s s' : Span}

/-- The parts of a list stand one after the other in it. -/
theorem Separated.flatten_sublist {tss : List (List Lexeme)} (h : Separated us tss) :
    tss.flatten.Sublist us := by
  induction h with
  | none => exact List.Sublist.refl _
  | one ts => rw [List.flatten_singleton]
  | @more us vs vss ts comma _ ih =>
    rw [List.flatten_cons]
    exact (List.Sublist.refl ts).append (ih.trans (List.sublist_cons_self _ us))

/-- What covers tokens begins before each of them and ends behind it. -/
theorem Span.Covers.start_le_and_le_stop (h : s.Covers ts) (horder : source.InOrder ts)
    {t : Lexeme} (ht : t ∈ ts) : s.start ≤ t.span.start ∧ t.span.stop ≤ s.stop := by
  obtain ⟨first, hfirst, last, hlast, rfl⟩ := h
  refine ⟨?_, ?_⟩
  · obtain ⟨more, rfl⟩ := List.head?_eq_some_iff.mp hfirst
    rcases List.mem_cons.mp ht with rfl | hmore
    · exact Nat.le_refl _
    · have hsplit : source.InOrder ([first] ++ more) := horder
      exact (hsplit.start_le_and_stop_le List.mem_cons_self hmore).1
  · obtain ⟨before, rfl⟩ := List.getLast?_eq_some_iff.mp hlast
    rcases List.mem_append.mp ht with hbefore | ht
    · exact (horder.start_le_and_stop_le hbefore List.mem_cons_self).2
    · cases List.mem_singleton.mp ht
      exact Nat.le_refl _

/-- What covers some of the tokens is inside what covers all of them. -/
theorem Span.Covers.inside (h : s.Covers us) (h' : s'.Covers ts) (horder : source.InOrder ts)
    (hsub : us.Sublist ts) : s'.start ≤ s.start ∧ s.stop ≤ s'.stop := by
  obtain ⟨first, hfirst, last, hlast, rfl⟩ := h
  have hstart := h'.start_le_and_le_stop horder (hsub.subset (List.mem_of_head? hfirst))
  have hstop := h'.start_le_and_le_stop horder (hsub.subset (List.mem_of_getLast? hlast))
  exact ⟨hstart.1, hstop.2⟩

/-! ### Nodes along tokens -/

namespace Expr

/-- **A node is laid out along tokens** of a source: it begins where a token begins and ends where
one ends, its operands are inside it, and each of them ends before the next one begins. -/
structure LaidOut (source : Source) (ts : List Lexeme) (n : Expr) : Prop where
  source_eq : n.span.source = source
  start_lt_stop : n.span.start < n.span.stop
  start_mem : n.span.start ∈ ts.map (·.span.start)
  stop_mem : n.span.stop ∈ ts.map (·.span.stop)
  inside : ∀ c ∈ n.children, n.span.start ≤ c.span.start ∧ c.span.stop ≤ n.span.stop
  apart : n.children.Pairwise fun c d => c.span.stop ≤ d.span.start

/-- **An expression stands along tokens**: it covers them, and its nodes are laid out along them. -/
structure StandsAlong (source : Source) (ts : List Lexeme) (e : Expr) : Prop where
  covers : e.span.Covers ts
  laidOut : ∀ n ∈ e.nodes, n.LaidOut source ts

variable {e n : Expr} {items : List (List Lexeme × Expr)}

/-- What is laid out along some of the tokens is laid out along all of them. -/
theorem LaidOut.mono (h : n.LaidOut source us) (hsub : us ⊆ ts) : n.LaidOut source ts :=
  { h with
    start_mem := List.map_subset _ hsub h.start_mem
    stop_mem := List.map_subset _ hsub h.stop_mem }

/-- A node that covers tokens is laid out along them if its operands are inside it, one after the
other. -/
theorem LaidOut.of_covers (hspan : n.span.Covers ts) (horder : source.InOrder ts)
    (hinside : ∀ c ∈ n.children, n.span.start ≤ c.span.start ∧ c.span.stop ≤ n.span.stop)
    (hapart : n.children.Pairwise fun c d => c.span.stop ≤ d.span.start) :
    n.LaidOut source ts := by
  obtain ⟨first, hfirst, last, hlast, heq⟩ := hspan
  have hmem := List.mem_of_head? hfirst
  have hlt := horder.start_lt_stop first hmem
  have hbounds := Span.Covers.start_le_and_le_stop ⟨first, hfirst, last, hlast, heq⟩ horder hmem
  refine ⟨?_, by omega, ?_, ?_, hinside, hapart⟩
  · rw [heq]
    exact horder.source_eq first hmem
  · rw [heq]
    exact List.mem_map_of_mem hmem
  · rw [heq]
    exact List.mem_map_of_mem (List.mem_of_getLast? hlast)

/-- A node that covers tokens is laid out along them if its operands cover parts of them, one after
the other. -/
theorem LaidOut.of_items (hspan : e.span.Covers ts) (horder : source.InOrder ts)
    (hchildren : e.children = items.map (·.2)) (hitems : ∀ i ∈ items, i.2.span.Covers i.1)
    (hparts : (items.map (·.1)).flatten.Sublist ts) : e.LaidOut source ts := by
  apply of_covers hspan horder
  · rw [hchildren]
    refine List.forall_mem_map.mpr fun i hi => ?_
    have hpart := (List.sublist_flatten_of_mem (List.mem_map_of_mem hi)).trans hparts
    exact (hitems i hi).inside hspan horder hpart
  · have hpairs := (List.pairwise_flatten.mp (horder.sublist hparts).stop_le_start).2
    rw [hchildren, List.pairwise_map]
    refine (List.pairwise_map.mp hpairs).imp_of_mem fun {i j} hi hj h => ?_
    obtain ⟨_, _, t, ht, hi⟩ := hitems i hi
    obtain ⟨u, hu, _, _, hj⟩ := hitems j hj
    rw [hi, hj]
    exact h t (List.mem_of_getLast? ht) u (List.mem_of_head? hu)

/-- **An expression stands along tokens** that it covers if its operands stand along parts of them,
one after the other. -/
theorem StandsAlong.of_items (items : List (List Lexeme × Expr)) (hspan : e.span.Covers ts)
    (horder : source.InOrder ts)
    (hchildren : e.children = items.map (·.2))
    (hitems : ∀ i ∈ items, i.2.StandsAlong source i.1)
    (hparts : (items.map (·.1)).flatten.Sublist ts) : e.StandsAlong source ts := by
  refine ⟨hspan, fun n hn => ?_⟩
  rcases mem_nodes_iff.mp hn with rfl | ⟨c, hc, hn⟩
  · exact .of_items hspan horder hchildren (fun i hi => (hitems i hi).covers) hparts
  · rw [hchildren] at hc
    obtain ⟨i, hi, rfl⟩ := List.mem_map.mp hc
    have hpart := (List.sublist_flatten_of_mem (List.mem_map_of_mem hi)).trans hparts
    exact ((hitems i hi).laidOut n hn).mono hpart.subset

/-- A node without operands stands along the tokens that it covers. -/
theorem StandsAlong.of_leaf (hspan : e.span.Covers ts) (horder : source.InOrder ts)
    (hchildren : e.children = []) : e.StandsAlong source ts :=
  of_items [] hspan horder hchildren (List.forall_mem_nil _) (List.nil_sublist ts)

/-- A node with one operand stands along the tokens that it covers if the operand stands along some
of them. -/
theorem StandsAlong.of_operand {x : Expr} (hspan : e.span.Covers ts) (horder : source.InOrder ts)
    (hchildren : e.children = [x]) (hx : x.StandsAlong source us) (hpart : us.Sublist ts) :
    e.StandsAlong source ts := by
  refine of_items [(us, x)] hspan horder hchildren ?_ ?_
  · exact List.forall_mem_singleton.mpr hx
  · rwa [List.map_singleton, List.flatten_singleton]

/-- A test of membership stands along the tokens that it covers if its value stands along some of
them and the elements of its list stand along parts of later ones. -/
theorem StandsAlong.of_among {x : Expr} {xs : List Lexeme} (hspan : s.Covers ts)
    (horder : source.InOrder ts) (hx : x.StandsAlong source xs)
    (hitems : ∀ i ∈ items, i.2.StandsAlong source i.1) (hus : Separated us (items.map (·.1)))
    (hparts : (xs ++ us).Sublist ts) : (among x (items.map (·.2)) s).StandsAlong source ts := by
  refine of_items ((xs, x) :: items) hspan horder rfl (List.forall_mem_cons.mpr ⟨hx, hitems⟩) ?_
  rw [List.map_cons, List.flatten_cons]
  exact ((List.Sublist.refl xs).append hus.flatten_sublist).trans hparts

/-- An expression that gets a larger span stands along the tokens that this one covers. -/
theorem StandsAlong.withSpan (h : e.StandsAlong source us) (hs : s.Covers ts)
    (horder : source.InOrder ts) (hpart : us.Sublist ts) :
    (e.withSpan s).StandsAlong source ts := by
  have hspan : (e.withSpan s).span.Covers ts := by rwa [span_withSpan]
  have hself := h.laidOut e e.self_mem_nodes
  have hwider := h.covers.inside hs horder hpart
  refine ⟨hspan, fun n hn => ?_⟩
  rcases mem_nodes_iff.mp hn with rfl | ⟨c, hc, hn⟩
  · apply LaidOut.of_covers hspan horder
    · rw [children_withSpan, span_withSpan]
      intro c hc
      have hinside := hself.inside c hc
      exact ⟨Nat.le_trans hwider.1 hinside.1, Nat.le_trans hinside.2 hwider.2⟩
    · rw [children_withSpan]
      exact hself.apart
  · rw [children_withSpan] at hc
    exact (h.laidOut n (mem_nodes_of_child hc hn)).mono hpart.subset

end Expr

/-! ### Phrases along tokens -/

/-- **The expression of a phrase stands along its tokens.** -/
theorem Phrase.standsAlong {functions : Registry} {level : Level} {e : Expr}
    (h : Phrase functions level ts e) (hsource : source.text ≠ "") (horder : source.InOrder ts) :
    e.StandsAlong source ts := by
  have hspan := h.covers hsource horder
  have hoperand {level us vs x} (hx : Phrase functions level us x)
      (ih : source.InOrder us → x.span.Covers us → x.StandsAlong source us)
      (horder : source.InOrder vs) (hpart : us.Sublist vs) : x.StandsAlong source us :=
    ih (horder.sublist hpart) (hx.covers hsource (horder.sublist hpart))
  -- The parts of a list, of IN or of a call, stand along the tokens of the list.
  have hlist {us vs} {items : List (List Lexeme × Expr)} (hus : Separated us (items.map (·.1)))
      (hitems : ∀ i ∈ items, Phrase functions .top i.1 i.2)
      (ih : ∀ i ∈ items, source.InOrder i.1 → i.2.span.Covers i.1 → i.2.StandsAlong source i.1)
      (horder : source.InOrder vs) (hpart : us.Sublist vs) :
      ∀ i ∈ items, i.2.StandsAlong source i.1 := by
    intro i hi
    have hsub := (hus.isInfix i.1 (List.mem_map_of_mem hi)).sublist.trans hpart
    exact hoperand (hitems i hi) (ih i hi) horder hsub
  induction h with
  | operand h ih | comparison h ih | sum h ih | primary h ih => exact ih horder hspan
  | @chained c ts t us l r op hl hop hr ihl ihr | @compare ts t us l r op hl hop hr ihl ihr =>
    have hright : us.Sublist (t :: us) := List.sublist_cons_self t us
    have hparts : ([ts, us] : List (List Lexeme)).flatten.Sublist (ts ++ t :: us) := by
      rw [List.flatten_cons, List.flatten_singleton]
      exact (List.Sublist.refl ts).append hright
    have hl := hoperand hl ihl horder (List.sublist_append_left ts (t :: us))
    have hr := hoperand hr ihr horder (hright.trans (List.sublist_append_right ts (t :: us)))
    refine .of_items [(ts, l), (us, r)] hspan horder rfl ?_ hparts
    exact List.forall_mem_cons.mpr ⟨hl, List.forall_mem_singleton.mpr hr⟩
  | @not s ts e h ih | @negate s ts e h _ ih =>
    have hx := hoperand h ih horder (List.sublist_cons_self _ ts)
    exact .of_operand hspan horder rfl hx (List.sublist_cons_self _ ts)
  | @like ts x s s' text p hx hp ih =>
    have hx := hoperand hx ih horder (List.sublist_append_left ts _)
    exact .of_operand hspan horder rfl hx (List.sublist_append_left ts _)
  | @notLike ts x s₀ s s' text p hx hp ih =>
    -- The test behind an infix NOT has the span of the negation.
    have hx := hoperand hx ih horder (List.sublist_append_left ts _)
    have htest : (Expr.like x p (x.span.merge s')).StandsAlong source _ :=
      .of_operand hspan horder rfl hx (List.sublist_append_left ts _)
    exact .of_operand hspan horder rfl htest (List.Sublist.refl _)
  | @among ts x s s' s'' us items hx _ hus h ih ihitems =>
    have hlater : us.Sublist (⟨.keyword .among, s⟩ :: ⟨.symbol .leftParen, s'⟩ ::
        (us ++ [⟨.symbol .rightParen, s''⟩])) := ((List.sublist_append_left us _).cons _).cons _
    have hx := hoperand hx ih horder (List.sublist_append_left ts _)
    have hitems := hlist hus h ihitems horder (hlater.trans (List.sublist_append_right ts _))
    exact .of_among hspan horder hx hitems hus ((List.Sublist.refl ts).append hlater)
  | @notAmong ts x s₀ s s' s'' us items hx _ hus h ih ihitems =>
    have hlater : us.Sublist (⟨.keyword .not, s₀⟩ :: ⟨.keyword .among, s⟩ ::
        ⟨.symbol .leftParen, s'⟩ :: (us ++ [⟨.symbol .rightParen, s''⟩])) :=
      (((List.sublist_append_left us _).cons _).cons _).cons _
    have hx := hoperand hx ih horder (List.sublist_append_left ts _)
    have hitems := hlist hus h ihitems horder (hlater.trans (List.sublist_append_right ts _))
    have htest := Expr.StandsAlong.of_among hspan horder hx hitems hus
      ((List.Sublist.refl ts).append hlater)
    exact .of_operand hspan horder rfl htest (List.Sublist.refl _)
  | negativeNumber hn | number hn =>
    obtain ⟨n, -, rfl⟩ := Parse.integer_eq_ok_iff.mp hn
    exact .of_leaf hspan horder rfl
  | string | true | false | present | attr => exact .of_leaf hspan horder rfl
  | @call s s' s'' name us e items hus h hcall ihitems =>
    obtain ⟨-, rfl⟩ := Parse.checkedCall_eq_ok_iff.mp hcall
    have hpart : us.Sublist (⟨.identifier name, s⟩ :: ⟨.symbol .leftParen, s'⟩ ::
        (us ++ [⟨.symbol .rightParen, s''⟩])) :=
      ((List.sublist_append_left us _).cons _).cons _
    refine .of_items items hspan horder rfl (hlist hus h ihitems horder hpart) ?_
    exact hus.flatten_sublist.trans hpart
  | @parenthesized s s' ts e h ih =>
    rw [Expr.span_withSpan] at hspan
    have hpart : ts.Sublist (⟨.symbol .leftParen, s⟩ :: (ts ++ [⟨.symbol .rightParen, s'⟩])) :=
      (List.sublist_append_left ts _).cons _
    exact (hoperand h ih horder hpart).withSpan hspan horder hpart

/-! ### Parsed sources -/

/-- **A node of a parsed source** takes up some of its text. -/
theorem Source.start_lt_stop_and_stop_le {functions : Registry} {e n : Expr}
    (h : source.parse functions = .ok e) (hn : n ∈ e.nodes) :
    n.span.start < n.span.stop ∧ n.span.stop ≤ source.length := by
  obtain ⟨ts, htokens, hphrase⟩ := parse_eq_ok_iff_phrase.mp h
  obtain ⟨horder, hsource⟩ := hphrase.inOrder htokens List.infix_rfl
  have hlaidOut := (hphrase.standsAlong hsource horder).laidOut n hn
  obtain ⟨t, ht, hstop⟩ := List.mem_map.mp hlaidOut.stop_mem
  have hle := (tokens_eq_ok_iff_tiles.mp htokens).stop_le t ht
  rw [hstop, Nat.zero_add] at hle
  exact ⟨hlaidOut.start_lt_stop, hle⟩

/-- **The spans of a parsed source.** The tree of a source takes up its text without the blanks at
its ends, so that this is the text of the filter that the tree makes; and every node of the tree
begins and ends with a token of the source, has its operands inside it, and has them apart from one
another in the order in which they are written. -/
theorem Source.laidOut_of_parse {functions : Registry} {e : Expr}
    (h : source.parse functions = .ok e) :
    e.span.text = String.ofList (Text.trim source.chars) ∧
      (Filter.ofExpr e).source = String.ofList (Text.trim source.chars) ∧
      ∃ ts, source.tokens = .ok ts ∧ ∀ n ∈ e.nodes, n.LaidOut source ts := by
  obtain ⟨ts, htokens, hphrase⟩ := parse_eq_ok_iff_phrase.mp h
  obtain ⟨horder, hsource⟩ := hphrase.inOrder htokens List.infix_rfl
  have hstands := hphrase.standsAlong hsource horder
  have htext : e.span.text = String.ofList (Text.trim source.chars) := by
    obtain ⟨first, hfirst, last, hlast, hspan⟩ := hstands.covers
    rw [hspan, horder.source_eq first (List.mem_of_head? hfirst)]
    exact (tokens_eq_ok_iff_tiles.mp htokens).text_eq_trim hfirst hlast
  exact ⟨htext, htext, ts, htokens, hstands.laidOut⟩

/-- A test behind an infix NOT, of a name with a character of two bytes, in parentheses, between
blanks that are no ASCII. -/
theorem Source.laidOut_of_parse_notAmong :
    let source : Source := ⟨0, "\u2003x OR (é NOT IN (-5, 'a '))\n"⟩
    ∃ e, source.parse ⟨[]⟩ = .ok e ∧ (Filter.ofExpr e).source = "x OR (é NOT IN (-5, 'a '))" ∧
      ∃ ts, source.tokens = .ok ts ∧ ts.length = 13 ∧ ∀ n ∈ e.nodes, n.LaidOut source ts := by
  intro source
  have hrun : (source.parse ⟨[]⟩).toOption.isSome = true := by decide +kernel
  have htrim : String.ofList (Text.trim source.chars) = "x OR (é NOT IN (-5, 'a '))" := by
    decide +kernel
  have hlength : (source.tokens.toOption.map List.length) = some 13 := by decide +kernel
  cases he : source.parse ⟨[]⟩ with
  | error _ =>
    rw [he] at hrun
    cases hrun
  | ok e =>
    obtain ⟨-, htext, ts, htokens, hlaidOut⟩ := Source.laidOut_of_parse he
    rw [htrim] at htext
    rw [htokens] at hlength
    exact ⟨e, rfl, htext, ts, htokens, Option.some.inj hlength, hlaidOut⟩

end EventFilter
