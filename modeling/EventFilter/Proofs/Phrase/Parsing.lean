import EventFilter.Proofs.Phrase
import EventFilter.Proofs.Phrase.Reading

/-!
# The parser reads phrases

What is read off the front of a list of tokens is a phrase (`Parse.phrase_of_read`), and a phrase
is read off the front of every list that it begins and whose rest cannot go on it
(`Phrase.read_append`). In a chain the two sides are built in different orders: the grammar puts one
operand more behind a chain, while the parser carries the chain so far along. So the statement
proved of a chain is that reading it leads to where the parser goes on with that chain.
Main statement: a source parses to an expression exactly if all of its tokens are a phrase for it
(`Source.parse_eq_ok_iff_phrase`).
-/

namespace EventFilter

namespace Parse

variable {functions : Registry} {ending : Span}

/-! ### What is read is a phrase -/

mutual

/-- **What is read is a phrase** of the level. -/
theorem phrase_of_read {level : Level} {ts rest : List Lexeme} {e : Expr}
    (h : read functions ending level ts = .ok (e, rest)) :
    ∃ pre, ts = pre ++ rest ∧ Phrase functions level pre e := by
  match level with
  | .chain c =>
    rw [read_chain, bind_eq_ok_iff] at h
    obtain ⟨⟨first, mid⟩, hfirst, hrest⟩ := h
    have hlt := length_lt_of_read hfirst
    have hrank := c.rank_operand_lt
    obtain ⟨pre, rfl, hpre⟩ := phrase_of_read hfirst
    obtain ⟨more, rfl, hmore⟩ := phrase_of_readChain hrest (.operand hpre)
    exact ⟨pre ++ more, (List.append_assoc ..).symm, hmore⟩
  | .negation =>
    rw [read_negation] at h
    split at h
    · simp only [bind_eq_ok_iff] at h
      obtain ⟨⟨x, mid⟩, hx, h⟩ := h
      cases h
      obtain ⟨pre, rfl, hpre⟩ := phrase_of_read hx
      exact ⟨_ :: pre, rfl, .not hpre⟩
    · obtain ⟨pre, rfl, hpre⟩ := phrase_of_read h
      exact ⟨pre, rfl, .comparison hpre⟩
  | .comparison =>
    rw [read_comparison, bind_eq_ok_iff] at h
    obtain ⟨⟨left, mid⟩, hleft, hrest⟩ := h
    have hlt := length_lt_of_read hleft
    obtain ⟨pre, rfl, hpre⟩ := phrase_of_read hleft
    obtain ⟨more, rfl, hmore⟩ := phrase_of_readComparison hrest hpre
    exact ⟨pre ++ more, (List.append_assoc ..).symm, hmore⟩
  | .sign =>
    rw [read_sign] at h
    split at h
    · simp only [bind_eq_ok_iff] at h
      obtain ⟨x, hx, h⟩ := h
      cases h
      exact ⟨[_, _], rfl, .negativeNumber hx⟩
    · rename_i hnumber
      simp only [bind_eq_ok_iff] at h
      obtain ⟨⟨x, mid⟩, hx, h⟩ := h
      cases h
      obtain ⟨pre, rfl, hpre⟩ := phrase_of_read hx
      refine ⟨_ :: pre, rfl, .negate hpre ?_⟩
      intro digits s us heq
      exact hnumber digits s (us ++ mid) (by rw [heq]; rfl)
    · obtain ⟨pre, rfl, hpre⟩ := phrase_of_read h
      exact ⟨pre, rfl, .primary hpre⟩
  | .primary =>
    rw [read_primary] at h
    split at h
    · simp only [bind_eq_ok_iff] at h
      obtain ⟨x, hx, h⟩ := h
      cases h
      exact ⟨[_], rfl, .number hx⟩
    · cases h
      exact ⟨[_], rfl, .string⟩
    · cases h
      exact ⟨[_], rfl, .true⟩
    · cases h
      exact ⟨[_], rfl, .false⟩
    · cases h
      exact ⟨[_, _], rfl, .present⟩
    · cases h
    · rename_i name span span' rest
      obtain ⟨us, items, close, rfl, hus, hitems, hcall⟩ := items_of_readCall h
      exact ⟨_ :: ⟨_, span'⟩ :: (us ++ [_]), by simp, .call hus hitems hcall⟩
    · cases h
      exact ⟨[_], rfl, .attr⟩
    · simp only [bind_eq_ok_iff] at h
      obtain ⟨⟨x, mid⟩, hx, ⟨close, mid'⟩, hclose, h⟩ := h
      cases h
      obtain ⟨pre, rfl, hpre⟩ := phrase_of_read hx
      obtain rfl := plain_closing_eq_ok_iff.mp hclose
      exact ⟨_ :: (pre ++ [_]), by simp, .parenthesized hpre⟩
    · cases h
termination_by 10 * ts.length + level.rank
decreasing_by
  · omega
  · omega
  · subst_vars
    simp only [List.length_cons]
    omega
  · simp only [Level.rank]
    omega
  · simp only [Level.rank]
    omega
  · omega
  · subst_vars
    simp only [List.length_cons]
    omega
  · simp only [Level.rank]
    omega
  · subst_vars
    simp only [List.length_cons]
    omega
  · subst_vars
    simp only [List.length_cons, Level.top, Level.rank]
    omega

/-- What is read behind a chain goes on with it. -/
theorem phrase_of_readChain {c : Chain} {left e : Expr} {pre ts rest : List Lexeme}
    (h : readChain functions ending c left ts = .ok (e, rest))
    (hleft : Phrase functions (.chain c) pre left) :
    ∃ more, ts = more ++ rest ∧ Phrase functions (.chain c) (pre ++ more) e := by
  rw [readChain_eq] at h
  split at h
  · cases h
    exact ⟨[], rfl, by rwa [List.append_nil]⟩
  · rename_i t us
    split at h
    · cases h
      exact ⟨[], rfl, by rwa [List.append_nil]⟩
    · rename_i op hop
      simp only [bind_eq_ok_iff] at h
      obtain ⟨⟨right, mid⟩, hright, hrest⟩ := h
      have hlt := length_lt_of_read hright
      have hrank := c.operand.rank_le
      obtain ⟨us, rfl, hus⟩ := phrase_of_read hright
      obtain ⟨more, rfl, hmore⟩ := phrase_of_readChain hrest (.chained hleft hop hus)
      refine ⟨t :: (us ++ more), by simp, ?_⟩
      rwa [List.append_assoc] at hmore
termination_by 10 * ts.length
decreasing_by
  all_goals
    subst_vars
    simp only [List.length_cons]
    omega

/-- What is read behind a sum makes a comparison of it. -/
theorem phrase_of_readComparison {left e : Expr} {pre ts rest : List Lexeme}
    (h : readComparison functions ending left ts = .ok (e, rest))
    (hleft : Phrase functions (.chain .sum) pre left) :
    ∃ more, ts = more ++ rest ∧ Phrase functions .comparison (pre ++ more) e := by
  rw [readComparison_eq] at h
  split at h
  · simp only [bind_eq_ok_iff] at h
    obtain ⟨⟨x, mid⟩, hx, h⟩ := h
    cases h
    obtain ⟨text, s, p, rfl, hp, rfl⟩ := plain_likeTail_eq_ok_iff.mp hx
    exact ⟨[_, _, _], rfl, .notLike hleft hp⟩
  · simp only [bind_eq_ok_iff] at h
    obtain ⟨⟨x, mid⟩, hx, h⟩ := h
    cases h
    rename_i s₀ s _
    obtain ⟨s', us, items, close, rfl, hne, hus, hitems, rfl⟩ := items_of_readAmong hx
    exact ⟨⟨_, s₀⟩ :: ⟨_, s⟩ :: ⟨_, s'⟩ :: (us ++ [_]), by simp, .notAmong hleft hne hus hitems⟩
  · obtain ⟨text, s, p, rfl, hp, rfl⟩ := plain_likeTail_eq_ok_iff.mp h
    exact ⟨[_, _], rfl, .like hleft hp⟩
  · rename_i s _
    obtain ⟨s', us, items, close, rfl, hne, hus, hitems, rfl⟩ := items_of_readAmong h
    exact ⟨⟨_, s⟩ :: ⟨_, s'⟩ :: (us ++ [_]), by simp, .among hleft hne hus hitems⟩
  · cases h
    exact ⟨[], rfl, by rw [List.append_nil]; exact .sum hleft⟩
  · split at h
    · cases h
      exact ⟨[], rfl, by rw [List.append_nil]; exact .sum hleft⟩
    · rename_i t us _ _ _ _ _ op hop
      simp only [bind_eq_ok_iff] at h
      obtain ⟨⟨right, mid⟩, hright, h⟩ := h
      cases h
      obtain ⟨us, rfl, hus⟩ := phrase_of_read hright
      exact ⟨t :: us, rfl, .compare hleft hop hus⟩
termination_by 10 * ts.length
decreasing_by
  all_goals
    subst_vars
    simp only [List.length_cons, Level.rank]
    omega

/-- What is read after IN is a list in parentheses. -/
theorem items_of_readAmong {value e : Expr} {ts rest : List Lexeme}
    (h : readAmong functions ending value ts = .ok (e, rest)) :
    ∃ (s : Span) (us : List Lexeme) (items : List (List Lexeme × Expr)) (close : Span),
      ts = ⟨.symbol .leftParen, s⟩ :: (us ++ ⟨.symbol .rightParen, close⟩ :: rest) ∧ items ≠ [] ∧
      Separated us (items.map (·.1)) ∧ (∀ i ∈ items, Phrase functions .top i.1 i.2) ∧
      e = .among value (items.map (·.2)) (value.span.merge close) := by
  rw [readAmong_eq] at h
  split at h
  · simp only [bind_eq_ok_iff] at h
    obtain ⟨⟨set, mid⟩, hset, ⟨close, mid'⟩, hclose, h⟩ := h
    cases h
    obtain ⟨us, items, rfl, hne, hus, hitems, rfl⟩ := items_of_readList hset
    obtain rfl := plain_closing_eq_ok_iff.mp hclose
    exact ⟨_, us, items, close, rfl, hne, hus, hitems, rfl⟩
  · cases h
termination_by 10 * ts.length

/-- What is read behind the opening parenthesis of a call is a list of arguments. -/
theorem items_of_readCall {name : String} {nameSpan : Span} {e : Expr} {ts rest : List Lexeme}
    (h : readCall functions ending name nameSpan ts = .ok (e, rest)) :
    ∃ (us : List Lexeme) (items : List (List Lexeme × Expr)) (close : Span),
      ts = us ++ ⟨.symbol .rightParen, close⟩ :: rest ∧
      Separated us (items.map (·.1)) ∧ (∀ i ∈ items, Phrase functions .top i.1 i.2) ∧
      checkedCall functions name (items.map (·.2)) (nameSpan.merge close) = .ok e := by
  rw [readCall_eq] at h
  split at h
  · simp only [bind_eq_ok_iff] at h
    obtain ⟨x, hx, h⟩ := h
    cases h
    exact ⟨[], [], _, rfl, .none, nofun, hx⟩
  · simp only [bind_eq_ok_iff] at h
    obtain ⟨⟨args, mid⟩, hargs, ⟨close, mid'⟩, hclose, x, hx, h⟩ := h
    cases h
    obtain ⟨us, items, rfl, -, hus, hitems, rfl⟩ := items_of_readList hargs
    obtain rfl := plain_closing_eq_ok_iff.mp hclose
    exact ⟨us, items, close, rfl, hus, hitems, hx⟩
termination_by 10 * ts.length + 9

/-- What is read as a list is one or more phrases with commas between them. -/
theorem items_of_readList {ts rest : List Lexeme} {es : List Expr}
    (h : readList functions ending ts = .ok (es, rest)) :
    ∃ (us : List Lexeme) (items : List (List Lexeme × Expr)), ts = us ++ rest ∧ items ≠ [] ∧
      Separated us (items.map (·.1)) ∧ (∀ i ∈ items, Phrase functions .top i.1 i.2) ∧
      es = items.map (·.2) := by
  rw [readList_eq] at h
  simp only [bind_eq_ok_iff] at h
  obtain ⟨⟨first, mid⟩, hfirst, ⟨more, mid'⟩, hmore, h⟩ := h
  cases h
  have hlt := length_lt_of_read hfirst
  obtain ⟨pre, rfl, hpre⟩ := phrase_of_read hfirst
  simp only [readListTail_eq] at hmore
  split at hmore
  · rename_i comma _
    obtain ⟨us, items, rfl, hne, hus, hitems, rfl⟩ := items_of_readList hmore
    obtain ⟨i, is, rfl⟩ := List.exists_cons_of_ne_nil hne
    refine ⟨_, (pre, first) :: i :: is, ?_, nofun, .more pre comma hus, ?_, rfl⟩
    · simp
    · exact List.forall_mem_cons.mpr ⟨hpre, hitems⟩
  · cases hmore
    exact ⟨pre, [(pre, first)], rfl, nofun, .one pre, by simpa using hpre, rfl⟩
termination_by 10 * ts.length + 8
decreasing_by
  · simp only [Level.top, Level.rank]
    omega
  · subst_vars
    simp_all only [List.length_cons]
    omega

end

/-! ### A phrase is read -/

/-- What ends a chain is left by it. -/
theorem readChain_of_stops {c : Chain} {e : Expr} {rest : List Lexeme}
    (h : (Level.chain c).Stops rest) : readChain functions ending c e rest = .ok (e, rest) := by
  rw [readChain_eq]
  cases rest with
  | nil => rfl
  | cons t rest => simp only [h.operator?_eq_none]

/-- What ends a comparison is left by a sum that is compared with nothing. -/
theorem readComparison_of_stops {e : Expr} {rest : List Lexeme}
    (h : Level.comparison.Stops rest) :
    readComparison functions ending e rest = .ok (e, rest) := by
  rw [readComparison_eq]
  split
  · exact absurd (h.lt_of_cons rfl) (Nat.lt_irrefl _)
  · exact absurd (h.lt_of_cons rfl) (Nat.lt_irrefl _)
  · exact absurd (h.lt_of_cons rfl) (Nat.lt_irrefl _)
  · exact absurd (h.lt_of_cons rfl) (Nat.lt_irrefl _)
  · rfl
  · split
    · rfl
    · rename_i hop
      rw [h.ofToken?_eq_none] at hop
      cases hop

/-- Behind a sum a comparison operator is followed by the sum to compare with. -/
theorem readComparison_operator {left : Expr} {t : Lexeme} {ts : List Lexeme} {op : ComparisonOp}
    (h : ComparisonOp.ofToken? t.token = some op) :
    readComparison functions ending left (t :: ts) =
      read functions ending (.chain .sum) ts >>= fun right =>
        .ok (.combine (.comparison op) left right.1, right.2) := by
  obtain ⟨token, span⟩ := t
  change ComparisonOp.ofToken? token = some op at h
  unfold ComparisonOp.ofToken? at h
  split at h
  all_goals cases h
  all_goals
    rw [readComparison_eq]
    rfl

/-- **A list of tokens is read as an expression** wherever it stands before something that cannot go
on a phrase of the level. A chain is read up to the place where the parser goes on with it. -/
def Reads (functions : Registry) (ending : Span) (level : Level) (ts : List Lexeme) (e : Expr) :
    Prop :=
  match level with
  | .chain c => ∀ rest, c.operand.Stops rest →
    read functions ending (.chain c) (ts ++ rest) = readChain functions ending c e rest
  | level => ∀ rest, level.Stops rest → read functions ending level (ts ++ rest) = .ok (e, rest)

/-- What is read as an expression is read up to what ends the phrase. -/
theorem Reads.append {level : Level} {ts rest : List Lexeme} {e : Expr}
    (h : Reads functions ending level ts e) (hrest : level.Stops rest) :
    read functions ending level (ts ++ rest) = .ok (e, rest) := by
  cases level with
  | chain c =>
    rw [h rest (hrest.mono (Nat.le_of_lt c.rank_operand_lt)), readChain_of_stops hrest]
  | negation | comparison | sign | primary => exact h rest hrest

/-- A list in parentheses is read up to the closing one. -/
theorem readList_append {us rest : List Lexeme} {s : Span} {items : List (List Lexeme × Expr)}
    (hne : items ≠ []) (hus : Separated us (items.map (·.1)))
    (hitems : ∀ i ∈ items, Reads functions ending .top i.1 i.2) :
    readList functions ending (us ++ ⟨.symbol .rightParen, s⟩ :: rest) =
      .ok (items.map (·.2), ⟨.symbol .rightParen, s⟩ :: rest) := by
  induction items generalizing us with
  | nil => exact absurd rfl hne
  | cons i is ih =>
    obtain ⟨hi, his⟩ := List.forall_mem_cons.mp hitems
    rw [readList_eq]
    cases is with
    | nil =>
      cases hus
      rw [hi.append .rightParen]
      simp only [bind, Except.bind]
      rw [readListTail_eq]
      rfl
    | cons j js =>
      obtain _ | _ | ⟨_, comma, hvs⟩ := hus
      rw [List.append_assoc, List.cons_append, hi.append .comma]
      simp only [bind, Except.bind]
      rw [readListTail_eq]
      simp only [ih (List.cons_ne_nil j js) hvs his, List.map_cons]

/-- A list after IN is read up to its closing parenthesis. -/
theorem readAmong_append {value : Expr} {us rest : List Lexeme} {s s' : Span}
    {items : List (List Lexeme × Expr)} (hne : items ≠ []) (hus : Separated us (items.map (·.1)))
    (hitems : ∀ i ∈ items, Reads functions ending .top i.1 i.2) :
    readAmong functions ending value
        (⟨.symbol .leftParen, s⟩ :: (us ++ ⟨.symbol .rightParen, s'⟩ :: rest)) =
      .ok (.among value (items.map (·.2)) (value.span.merge s'), rest) := by
  rw [readAmong_eq]
  simp only [readList_append hne hus hitems]
  rfl

/-- Behind a sum, a token that goes on comparisons decides what is read. -/
theorem Reads.comparison {ts rest : List Lexeme} {t : Lexeme} {e : Expr}
    (h : Reads functions ending (.chain .sum) ts e)
    (ht : t.token.rank? = some Level.comparison.rank) :
    read functions ending .comparison (ts ++ t :: rest) =
      readComparison functions ending e (t :: rest) := by
  rw [read_comparison, h.append]
  · rfl
  · apply Level.Stops.cons
    intro n hn
    rw [ht] at hn
    cases hn
    decide

end Parse

open Parse

/-- A list of phrases does not begin with a closing parenthesis. -/
theorem Separated.exists_head {functions : Registry} {us : List Lexeme}
    {i : List Lexeme × Expr} {is : List (List Lexeme × Expr)}
    (hus : Separated us ((i :: is).map (·.1))) (hi : Phrase functions .top i.1 i.2) :
    ∃ t vs, us = t :: vs ∧ t.token ≠ .symbol .rightParen := by
  obtain ⟨t, vs, hts, ht, -, -⟩ := hi.exists_head
  rw [List.map_cons, hts] at hus
  generalize is.map (·.1) = more at hus
  cases hus with
  | one => exact ⟨t, vs, rfl, ht⟩
  | more _ _ _ => exact ⟨t, _, rfl, ht⟩

/-- **A phrase is read** as the expression that it stands for. -/
theorem Phrase.reads {functions : Registry} {level : Level} {ts : List Lexeme} {e : Expr}
    (h : Phrase functions level ts e) (ending : Span) : Reads functions ending level ts e := by
  induction h with
  | operand _ ih =>
    intro rest hrest
    rw [read_chain, ih.append hrest]
    rfl
  | @chained c ts t us l r op _ hop _ ihl ihr =>
    intro rest hrest
    rw [List.append_assoc, List.cons_append, ihl _ (.operator hop), readChain_eq]
    simp only [hop, ihr.append hrest]
    rfl
  | comparison h ih =>
    intro rest hrest
    obtain ⟨t, us, rfl, -, hnot, -⟩ := h.exists_head
    rw [read_negation]
    split
    · rename_i heq
      cases heq
      exact absurd rfl (hnot (Nat.le_refl _))
    · exact ih rest (hrest.mono (by decide))
  | not _ ih =>
    intro rest hrest
    rw [List.cons_append, read_negation]
    simp only [ih rest hrest]
    rfl
  | sum _ ih =>
    intro rest hrest
    rw [read_comparison, ih.append (hrest.mono (by decide))]
    exact readComparison_of_stops hrest
  | compare _ hop _ ihl ihr =>
    intro rest hrest
    rw [List.append_assoc, List.cons_append, ihl.comparison (ComparisonOp.rank?_of_ofToken? hop),
      readComparison_operator hop, ihr.append (hrest.mono (by decide))]
    rfl
  | like _ hp ih =>
    intro rest _
    rw [List.append_assoc, List.cons_append, ih.comparison rfl, readComparison_eq]
    exact plain_likeTail_eq_ok_iff.mpr ⟨_, _, _, rfl, hp, rfl⟩
  | notLike _ hp ih =>
    intro rest _
    rw [List.append_assoc, List.cons_append, ih.comparison rfl, readComparison_eq]
    exact bind_eq_ok_iff.mpr ⟨_, plain_likeTail_eq_ok_iff.mpr ⟨_, _, _, rfl, hp, rfl⟩, rfl⟩
  | among _ hne hus _ ih ihitems =>
    intro rest _
    rw [List.append_assoc, List.cons_append, ih.comparison rfl, readComparison_eq]
    simp only [List.cons_append, List.append_assoc, List.nil_append]
    exact readAmong_append hne hus fun i hi => ihitems i hi
  | notAmong _ hne hus _ ih ihitems =>
    intro rest _
    rw [List.append_assoc, List.cons_append, ih.comparison rfl, readComparison_eq]
    simp only [List.cons_append, List.append_assoc, List.nil_append]
    rw [readAmong_append hne hus fun i hi => ihitems i hi]
    rfl
  | primary h ih =>
    intro rest hrest
    obtain ⟨t, us, rfl, -, -, hminus⟩ := h.exists_head
    rw [List.cons_append, read_sign]
    split
    · rename_i heq
      exact absurd (congrArg Lexeme.token (List.cons.inj heq).1) (hminus rfl)
    · rename_i heq
      exact absurd (congrArg Lexeme.token (List.cons.inj heq).1) (hminus rfl)
    · exact ih rest (hrest.mono (by decide))
  | negativeNumber h =>
    intro rest hrest
    rw [List.cons_append, List.cons_append, read_sign]
    simp only [h]
    rfl
  | negate h hnumber ih =>
    intro rest hrest
    obtain ⟨t, us, rfl, -⟩ := h.exists_head
    rw [List.cons_append, read_sign]
    split
    · rename_i heq
      cases heq
      exact absurd rfl (hnumber _ _ _)
    · rename_i heq
      cases heq
      rw [ih rest hrest]
      rfl
    · rename_i heq
      exact absurd rfl (heq _ _)
  | number h =>
    intro rest hrest
    rw [List.cons_append, read_primary]
    simp only [h]
    rfl
  | string | true | false | present =>
    intro rest hrest
    rw [List.cons_append, read_primary]
    rfl
  | attr =>
    intro rest hrest
    rw [List.cons_append, read_primary]
    split
    any_goals (rename_i heq; cases heq)
    · exact absurd (hrest.lt_of_cons rfl) (Nat.lt_irrefl _)
    · rfl
    · rename_i hattr _
      exact (hattr _ _ _ rfl).elim
  | @call s s' s'' name us e items hus hitems hcall ihitems =>
    intro rest _
    rw [List.cons_append, List.cons_append, List.append_assoc, read_primary]
    simp only [List.cons_append, List.nil_append]
    rw [readCall_eq]
    cases items with
    | nil =>
      cases hus
      rw [List.map_nil] at hcall
      simp only [List.nil_append, hcall]
      rfl
    | cons i is =>
      obtain ⟨t, vs, rfl, ht⟩ := hus.exists_head (hitems i List.mem_cons_self)
      rw [List.cons_append]
      split
      · rename_i heq
        cases heq
        exact absurd rfl ht
      · rw [← List.cons_append, readList_append (List.cons_ne_nil i is) hus ihitems]
        exact bind_eq_ok_iff.mpr ⟨_, rfl, bind_eq_ok_iff.mpr
          ⟨_, plain_closing_eq_ok_iff.mpr rfl, bind_eq_ok_iff.mpr ⟨_, hcall, rfl⟩⟩⟩
  | parenthesized _ ih =>
    intro rest _
    rw [List.cons_append, List.append_assoc, read_primary]
    simp only [ih.append .rightParen, List.cons_append, List.nil_append]
    rfl

/-- **No tokens are phrases of one level for different expressions**: both are read as the same. -/
theorem Phrase.unique {functions : Registry} {level : Level} {ts : List Lexeme} {e e' : Expr}
    (h : Phrase functions level ts e) (h' : Phrase functions level ts e') : e = e' := by
  have hread := (h.reads .detached).append .nil
  rw [(h'.reads .detached).append .nil] at hread
  cases hread
  rfl

/-- **A source parses** to an expression exactly if all of its tokens are a phrase for it. -/
theorem Source.parse_eq_ok_iff_phrase {functions : Registry} {source : Source} {e : Expr} :
    source.parse functions = .ok e ↔
      ∃ ts, source.tokens = .ok ts ∧ Phrase functions .top ts e := by
  rw [parse_eq_ok_iff_read]
  constructor
  · rintro ⟨ts, hts, h⟩
    obtain ⟨pre, rfl, hpre⟩ := phrase_of_read h
    rw [List.append_nil] at hts
    exact ⟨pre, hts, hpre⟩
  · rintro ⟨ts, hts, h⟩
    refine ⟨ts, hts, ?_⟩
    have := (h.reads source.ending).append .nil
    rwa [List.append_nil] at this

end EventFilter
