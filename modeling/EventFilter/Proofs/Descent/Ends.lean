import Mathlib.Data.List.Basic
import EventFilter.Proofs.Descent.Course

/-!
# The descent ends

Every procedure of the descent follows the reading of its phrases, by induction on a bound for the
tokens that are left: a procedure that has taken a token calls others under the bound, and one that
has taken none calls those of tighter levels (`Descent.FollowsPhrases.phrase`). The induction also
says that the procedures return at all.
Main statement: a descent comes to what the source parses to, by an orderly course
(`Source.exists_orderly_descent`).
-/

namespace EventFilter

namespace Descent

open Parse
open Parsed (plain)

variable {functions : Registry} {ts rest : List Lexeme} {ending : Span} {s : State}
  {around inside : Around} {bound : Nat}

/-- **Phrases of fewer than a number of tokens are followed**, wherever they can be called. -/
def FollowsPhrases (functions : Registry) (ts : List Lexeme) (ending : Span) (bound : Nat) : Prop :=
  ∀ (rest : List Lexeme) (level : Level) (around : Around) (s : State),
    rest.length < bound → At ts rest s → Nests around (.phrase level) s.position →
      Follows ts 0 (around.phrase functions (marksOf ts ending) level) s
        (read functions ending level rest)

/-! ### Lists -/

/-- An expression is a phrase of the loosest level. -/
theorem FollowsPhrases.expression (h : FollowsPhrases functions ts ending bound)
    (hlt : rest.length < bound) (hat : At ts rest s)
    (hnests : Nests around .expression s.position) :
    Follows ts 0 (around.expression functions (marksOf ts ending)) s
      (read functions ending .top rest) := by
  rw [Around.expression]
  refine .enter hnests nofun ?_
  exact h rest .top _ _ hlt (hat.inside _ _) (hnests.inner (by decide))

/-- **A list goes around once for each expression**, and adds those that it reads. -/
theorem FollowsPhrases.listLoop (h : FollowsPhrases functions ts ending bound)
    (hlt : rest.length < bound) (hat : At ts rest s) (hnests : Nests inside .expression s.position)
    (items : List Expr) :
    Follows ts 0 (inside.listLoop functions (marksOf ts ending) items) s
      (readList functions ending rest >>= fun more => .ok (items ++ more.1, more.2)) := by
  -- an expression and the comma behind it leave fewer tokens to the next time around
  induction hlength : rest.length using Nat.strongRecOn generalizing rest s items with
  | _ n ih =>
  rw [Around.listLoop, readList_eq, bind_assoc]
  refine .position (.bind (h.expression hlt hat hnests) fun e rest' s' hread hat' => ?_)
  have hshorter := length_lt_of_read hread
  have hposition := hat.position_lt hat' hshorter
  refine .current hat' ?_
  by_cases hcomma : ∃ span rest'', rest' = ⟨.symbol .comma, span⟩ :: rest''
  · obtain ⟨span, rest'', rfl⟩ := hcomma
    rw [List.length_cons] at hshorter
    have hlt' : s.position < s'.next.position := Nat.lt_succ_of_lt hposition
    have hmore : (readListTail functions ending (⟨.symbol .comma, span⟩ :: rest'') >>= fun more =>
          .ok (e :: more.1, more.2)) >>= (fun more => .ok (items ++ more.1, more.2)) =
        readList functions ending rest'' >>= fun more =>
          .ok (items ++ [e] ++ more.1, more.2) := by
      rw [readListTail_eq, bind_assoc]
      refine bind_congr fun more => ?_
      rw [List.append_assoc]
      rfl
    rw [hmore, List.head?_cons, Option.map_some, if_pos rfl]
    refine .advance hat' (Nat.zero_le _) (.turn hlt' ?_)
    exact ih rest''.length (by omega) (by omega) (hat'.next.turned _ _)
      (nests_of_start_le (fun a ha => (hnests a ha).1) hlt') _ rfl
  · have hend : readListTail functions ending rest' = .ok ([], rest') := by
      rw [readListTail_eq]
      split
      · exact absurd ⟨_, _, rfl⟩ hcomma
      · rfl
    rw [hend, if_neg (mt head?_map_token_eq_some_iff.mp hcomma)]
    exact .turn hposition (.pure (hat'.turned _ _) (items ++ [e]))

/-- A list is followed. -/
theorem FollowsPhrases.list (h : FollowsPhrases functions ts ending bound)
    (hlt : rest.length < bound) (hat : At ts rest s) (hnests : Nests around .list s.position) :
    Follows ts 0 (around.list functions (marksOf ts ending)) s
      (readList functions ending rest) := by
  rw [Around.list]
  refine .enter hnests nofun ?_
  have hloop := h.listLoop hlt (hat.inside .list around) (hnests.inner (by decide)) []
  simp only [List.nil_append] at hloop
  exact bind_pure (readList functions ending rest) ▸ hloop

/-- The list after IN stands in parentheses. -/
theorem FollowsPhrases.set (h : FollowsPhrases functions ts ending bound)
    (hle : rest.length ≤ bound) (hat : At ts rest s) (hnests : Nests around .set s.position)
    (value : Expr) :
    Follows ts 0 (around.set functions (marksOf ts ending) value) s
      (readAmong functions ending value rest) := by
  rw [Around.set]
  refine .enter hnests nofun ?_
  by_cases hopening : ∃ span rest', rest = ⟨.symbol .leftParen, span⟩ :: rest'
  · obtain ⟨span, rest, rfl⟩ := hopening
    rw [List.length_cons] at hle
    rw [readAmong_eq]
    refine .expect (hat.inside _ _) (.bind (h.list hle hat.next ?_) fun items rest' s' _ hat' => ?_)
    · exact nests_of_start_le hnests.start_le (Nat.lt_succ_self _)
    · refine .closing hat' fun span' rest'' heq => ?_
      subst heq
      exact .pure hat'.next _
  · have hread : readAmong functions ending value rest =
        .error (unexpected ending (.symbol .leftParen) rest) := by
      rw [readAmong_eq]
      split
      · exact absurd ⟨_, _, rfl⟩ hopening
      · rfl
    rw [hread]
    exact .expect_of_not (hat.inside _ _) hopening

/-- The arguments of a call stand in parentheses. -/
theorem FollowsPhrases.call (h : FollowsPhrases functions ts ending bound) {span : Span}
    (hlt : rest.length < bound) (hat : At ts (⟨.symbol .leftParen, span⟩ :: rest) s)
    (hnests : Nests around .call s.position) (name : String) (nameSpan : Span) :
    Follows ts 0 (around.call functions (marksOf ts ending) name nameSpan) s
      (readCall functions ending name nameSpan rest) := by
  rw [Around.call]
  refine .enter hnests nofun (.expect (hat.inside _ _) ?_)
  have hat' := (hat.inside .call around).next
  rw [readCall_eq]
  by_cases hclosing : ∃ span rest', rest = ⟨.symbol .rightParen, span⟩ :: rest'
  · obtain ⟨span, rest, rfl⟩ := hclosing
    refine .look (a := []) ?_ (.expect hat' (.ofOutcome hat'.next _))
    rw [Around.arguments, bind_of_ok hat'.current_eq, List.head?_cons, Option.map_some, if_pos rfl]
    rfl
  · split
    · exact absurd ⟨_, _, rfl⟩ hclosing
    · refine .bind ?_ fun args rest' s' _ hat'' => ?_
      · rw [Around.arguments]
        refine .current hat' ?_
        rw [if_neg (mt head?_map_token_eq_some_iff.mp hclosing)]
        exact h.list hlt hat' (nests_of_start_le hnests.start_le (Nat.lt_succ_self _))
      · refine .closing hat'' fun span' rest'' heq => ?_
        subst heq
        exact .ofOutcome hat''.next _

/-! ### Primary phrases -/

/-- PRESENT without a name behind it is refused. -/
theorem read_present_of_not {span : Span}
    (h : ¬∃ name nameSpan rest', rest = ⟨.identifier name, nameSpan⟩ :: rest') :
    read functions ending .primary (⟨.keyword .present, span⟩ :: rest) =
      .error (unexpected ending .identifier rest) := by
  rw [read_primary]
  split <;> simp_all

/-- A name is an attribute unless it begins a call. -/
theorem read_attr_of_not {span : Span} {name : String}
    (h : ¬∃ span' rest', rest = ⟨.symbol .leftParen, span'⟩ :: rest') :
    read functions ending .primary (⟨.identifier name, span⟩ :: rest) =
      .ok (.attr name span, rest) := by
  rw [read_primary]
  split <;> simp_all

/-- **A primary phrase takes a token**, the one that it is owed for. -/
theorem FollowsPhrases.primary (h : FollowsPhrases functions ts ending bound)
    (hle : rest.length ≤ bound) (hat : At ts rest s)
    (hnests : ∀ a ∈ inside, a.start ≤ s.position) :
    Follows ts 1 (inside.primary functions (marksOf ts ending)) s
      (read functions ending .primary rest) := by
  have hinside (p : Procedure) : Nests inside p s.next.position :=
    nests_of_start_le hnests (Nat.lt_succ_self _)
  rw [Around.primary]
  refine .currentSpan hat (.current hat ?_)
  split
  · rename_i digits heq
    obtain ⟨span, rest, rfl⟩ := head?_map_token_eq_some_iff.mp heq
    rw [read_primary]
    exact .advance hat (Nat.le_refl _) (.ofOutcome hat.next _)
  · rename_i text heq
    obtain ⟨span, rest, rfl⟩ := head?_map_token_eq_some_iff.mp heq
    rw [read_primary]
    exact .advance hat (Nat.le_refl _) (.pure hat.next _)
  · rename_i heq
    obtain ⟨span, rest, rfl⟩ := head?_map_token_eq_some_iff.mp heq
    rw [read_primary]
    exact .advance hat (Nat.le_refl _) (.pure hat.next _)
  · rename_i heq
    obtain ⟨span, rest, rfl⟩ := head?_map_token_eq_some_iff.mp heq
    rw [read_primary]
    exact .advance hat (Nat.le_refl _) (.pure hat.next _)
  · rename_i heq
    obtain ⟨span, rest, rfl⟩ := head?_map_token_eq_some_iff.mp heq
    refine .advance hat (Nat.le_refl _) ?_
    by_cases hname : ∃ name nameSpan rest', rest = ⟨.identifier name, nameSpan⟩ :: rest'
    · obtain ⟨name, nameSpan, rest', rfl⟩ := hname
      rw [read_primary]
      exact .expectIdentifier hat.next (.pure hat.next.next _)
    · rw [read_present_of_not hname]
      exact .expectIdentifier_of_not hat.next hname
  · rename_i name heq
    obtain ⟨span, rest, rfl⟩ := head?_map_token_eq_some_iff.mp heq
    rw [List.length_cons] at hle
    refine .advance hat (Nat.le_refl _) (.current hat.next ?_)
    split
    · rename_i hopening
      obtain ⟨span', rest, rfl⟩ := head?_map_token_eq_some_iff.mp hopening
      rw [List.length_cons] at hle
      rw [read_primary]
      exact h.call (by omega) hat.next (hinside _) _ _
    · rename_i hopening
      rw [read_attr_of_not (mt head?_map_token_eq_some_iff.mpr hopening)]
      exact .pure hat.next _
  · rename_i heq
    obtain ⟨span, rest, rfl⟩ := head?_map_token_eq_some_iff.mp heq
    rw [List.length_cons] at hle
    rw [read_primary]
    refine .advance hat (Nat.le_refl _)
      (.bind (h.expression hle hat.next (hinside _)) fun e rest' s' _ hat' => ?_)
    refine .closing hat' fun span' rest'' heq => ?_
    subst heq
    exact .pure hat'.next _
  · have hread : read functions ending .primary rest =
        .error (unexpected ending .expression rest) := by
      rw [read_primary]
      split <;> simp_all
    rw [hread]
    exact .refuse hat (Nat.le_refl _) _

/-- A minus is behind the start of its operand, or there is none. -/
theorem FollowsPhrases.sign (h : FollowsPhrases functions ts ending bound)
    (hle : rest.length ≤ bound) (hat : At ts rest s)
    (hnests : ∀ a ∈ inside, a.start ≤ s.position)
    (hprimary : Follows ts 0 (inside.phrase functions (marksOf ts ending) .primary) s
      (read functions ending .primary rest)) :
    Follows ts 0 (inside.sign functions (marksOf ts ending)) s
      (read functions ending .sign rest) := by
  rw [Around.sign]
  refine .current hat ?_
  split
  · rename_i hminus
    obtain ⟨span, rest, rfl⟩ := head?_map_token_eq_some_iff.mp hminus
    rw [List.length_cons] at hle
    refine .currentSpan hat (.advance hat (Nat.zero_le _) (.current hat.next ?_))
    split
    · rename_i digits hnumber
      obtain ⟨span', rest, rfl⟩ := head?_map_token_eq_some_iff.mp hnumber
      rw [read_sign]
      exact .currentSpan hat.next (.advance hat.next (Nat.zero_le _) (.ofOutcome hat.next.next _))
    · rename_i hnumber
      have hread : read functions ending .sign (⟨.symbol .minus, span⟩ :: rest) =
          read functions ending .sign rest >>= fun x =>
            .ok (.unary .negate x.1 (span.merge x.1.span), x.2) := by
        rw [read_sign]
        split <;> simp_all
      rw [hread]
      refine .bind (h rest .sign inside s.next hle hat.next ?_) fun e rest' s' _ hat' => ?_
      · exact nests_of_start_le hnests (Nat.lt_succ_self _)
      · exact .pure hat' _
  · rename_i hminus
    have hread : read functions ending .sign rest = read functions ending .primary rest := by
      rw [read_sign]
      split <;> simp_all
    rw [hread]
    exact hprimary

/-! ### Chains -/

/-- **A chain goes around once for each operator.** -/
theorem FollowsPhrases.chainLoop (h : FollowsPhrases functions ts ending bound)
    (hle : rest.length ≤ bound) (hat : At ts rest s)
    (hnests : ∀ a ∈ inside, a.start ≤ s.position) (c : Chain) (left : Expr) :
    Follows ts 0 (inside.chainLoop functions (marksOf ts ending) c left) s
      (readChain functions ending c left rest) := by
  -- an operator and its operand leave fewer tokens to the next time around
  induction hlength : rest.length using Nat.strongRecOn generalizing rest s left with
  | _ n ih =>
  rw [Around.chainLoop, readChain_eq]
  refine .current hat ?_
  cases rest with
  | nil => exact .pure hat left
  | cons t rest =>
    rw [List.length_cons] at hle hlength
    simp only [List.head?_cons, Option.map_some, Option.bind_some]
    cases c.operator? t.token with
    | none => exact .pure hat left
    | some op =>
      have hinside : Nests inside (.phrase c.operand) s.next.position :=
        nests_of_start_le hnests (Nat.lt_succ_self _)
      refine .position (.advance hat (Nat.zero_le _)
        (.bind (h rest c.operand inside s.next hle hat.next hinside)
          fun right rest' s' hread hat' => ?_))
      have hshorter := length_lt_of_read hread
      have hposition := hat.position_lt hat' (Nat.lt_succ_of_lt hshorter)
      refine .turn hposition
        (ih rest'.length (by omega) (by omega) (hat'.turned _ _) (fun a ha => ?_) _ rfl)
      exact Nat.le_trans (hnests a ha) (Nat.le_of_lt hposition)

/-! ### Comparisons -/

/-- A NOT before its operand, or none. -/
theorem FollowsPhrases.negation (h : FollowsPhrases functions ts ending bound)
    (hle : rest.length ≤ bound) (hat : At ts rest s)
    (hnests : ∀ a ∈ inside, a.start ≤ s.position)
    (hcomparison : Follows ts 0 (inside.phrase functions (marksOf ts ending) .comparison) s
      (read functions ending .comparison rest)) :
    Follows ts 0 (inside.negation functions (marksOf ts ending)) s
      (read functions ending .negation rest) := by
  rw [Around.negation, read_negation]
  refine .current hat ?_
  split
  · rename_i hnot
    obtain ⟨span, rest, rfl⟩ := head?_map_token_eq_some_iff.mp hnot
    rw [List.length_cons] at hle
    refine .currentSpan hat (.advance hat (Nat.zero_le _)
      (.bind (h rest .negation inside s.next hle hat.next ?_) fun e rest' s' _ hat' => ?_))
    · exact nests_of_start_le hnests (Nat.lt_succ_self _)
    · exact .pure hat' _
  · rename_i hnot
    split
    · exact absurd rfl hnot
    · exact hcomparison

/-- A pattern is taken as it is read. -/
theorem Follows.pattern (hat : At ts rest s) (hnests : Nests around .pattern s.position)
    (value : Expr) :
    Follows ts 0 (around.pattern (marksOf ts ending) value) s
      (plain (likeTail ending value rest)) := by
  rw [Around.pattern]
  refine .enter hnests nofun (.currentSpan (hat.inside _ _) (.current (hat.inside _ _) ?_))
  split
  · rename_i text heq
    obtain ⟨span, rest, rfl⟩ := head?_map_token_eq_some_iff.mp heq
    refine .advance (hat.inside _ _) (Nat.zero_le _) ?_
    rw [likeTail]
    cases Pattern.ofText text with
    | ok p => exact .pure (hat.inside _ _).next _
    | error e => exact .ofOutcome (hat.inside _ _).next (.error ⟨.invalidPattern e, span⟩)
  · have hread : plain (likeTail ending value rest) = .error (unexpected ending .pattern rest) := by
      unfold likeTail
      split <;> simp_all
    rw [hread]
    exact .refuse (hat.inside _ _) (Nat.zero_le _) _

/-- A LIKE is followed by its pattern, and negated if there was a NOT. -/
theorem Follows.like (span : Span) (hat : At ts (⟨.keyword .like, span⟩ :: rest) s)
    (hnests : ∀ a ∈ inside, a.start ≤ s.position) (left : Expr) (isNegated : Bool) :
    Follows ts 0 (inside.comparisonRest functions (marksOf ts ending) left isNegated) s
      (plain (likeTail ending left rest) >>= fun e => .ok (negateIf isNegated e.1, e.2)) := by
  rw [Around.comparisonRest]
  refine .current hat (.advance hat (Nat.zero_le _) ?_)
  refine .bind (.pattern hat.next ?_ left) fun e rest' s' _ hat' => .pure hat' _
  exact nests_of_start_le hnests (Nat.lt_succ_self _)

/-- An IN is followed by its list, and negated if there was a NOT. -/
theorem FollowsPhrases.among (h : FollowsPhrases functions ts ending bound) (span : Span)
    (hle : rest.length ≤ bound) (hat : At ts (⟨.keyword .among, span⟩ :: rest) s)
    (hnests : ∀ a ∈ inside, a.start ≤ s.position) (left : Expr) (isNegated : Bool) :
    Follows ts 0 (inside.comparisonRest functions (marksOf ts ending) left isNegated) s
      (readAmong functions ending left rest >>= fun e => .ok (negateIf isNegated e.1, e.2)) := by
  rw [Around.comparisonRest]
  refine .current hat (.current hat (.advance hat (Nat.zero_le _) ?_))
  refine .bind (h.set hle hat.next ?_ left) fun e rest' s' _ hat' => .pure hat' _
  exact nests_of_start_le hnests (Nat.lt_succ_self _)

/-- An operator is followed by another sum, and anything else ends the comparison. -/
theorem FollowsPhrases.operator (h : FollowsPhrases functions ts ending bound) {t : Lexeme}
    (hlt : rest.length < bound) (hat : At ts (t :: rest) s)
    (hnests : ∀ a ∈ inside, a.start ≤ s.position) (left : Expr) (isNegated : Bool)
    (hlike : t.token ≠ .keyword .like) (hamong : t.token ≠ .keyword .among) :
    Follows ts 0 (inside.comparisonRest functions (marksOf ts ending) left isNegated) s
      (match ComparisonOp.ofToken? t.token with
      | none => .ok (left, t :: rest)
      | some op =>
        read functions ending (.chain .sum) rest >>= fun right =>
          .ok (.combine (.comparison op) left right.1, right.2)) := by
  rw [Around.comparisonRest]
  refine .current hat ?_
  rw [if_neg (by simpa using hlike)]
  refine .current hat ?_
  rw [if_neg (by simpa using hamong)]
  refine .current hat ?_
  simp only [List.head?_cons, Option.map_some, Option.bind_some]
  cases ComparisonOp.ofToken? t.token with
  | none => exact .pure hat left
  | some op =>
    refine .advance hat (Nat.zero_le _)
      (.bind (h rest _ inside s.next hlt hat.next ?_) fun right rest' s' _ hat' => .pure hat' _)
    exact nests_of_start_le hnests (Nat.lt_succ_self _)

/-- A NOT before LIKE or IN, as the cursor moves behind it. -/
theorem At.takeNot_eq {span : Span} {t : Lexeme} (h : At ts (⟨.keyword .not, span⟩ :: t :: rest) s)
    (ht : t.token = .keyword .like ∨ t.token = .keyword .among) :
    takeNot (marksOf ts ending) s = some (.ok true, s.next) := by
  rw [takeNot, bind_of_ok h.current_eq, bind_of_ok h.upcoming_eq, if_pos ⟨rfl, by simpa using ht⟩]
  exact bind_of_ok h.advance_eq

/-- No NOT before LIKE or IN, and the cursor stays. -/
theorem At.takeNot_eq_false (h : At ts rest s)
    (hrest : ∀ span t rest', rest = ⟨.keyword .not, span⟩ :: t :: rest' →
      t.token ≠ .keyword .like ∧ t.token ≠ .keyword .among) :
    takeNot (marksOf ts ending) s = some (.ok false, s) := by
  rw [takeNot, bind_of_ok h.current_eq, bind_of_ok h.upcoming_eq, if_neg]
  · rfl
  · rintro ⟨hnot, hnext⟩
    obtain ⟨span, rest', rfl⟩ := head?_map_token_eq_some_iff.mp hnot
    cases rest' with
    | nil => simp at hnext
    | cons t rest' =>
      have := hrest span t rest' rfl
      simp_all

/-- **What may follow a sum** is followed. -/
theorem FollowsPhrases.comparisonRest (h : FollowsPhrases functions ts ending bound)
    (hle : rest.length ≤ bound) (hat : At ts rest s)
    (hnests : ∀ a ∈ inside, a.start ≤ s.position) (left : Expr) :
    Follows ts 0 (takeNot (marksOf ts ending) >>= fun isNegated =>
        inside.comparisonRest functions (marksOf ts ending) left isNegated) s
      (readComparison functions ending left rest) := by
  have hnests' (a : Activation) (ha : a ∈ inside) : a.start ≤ s.next.position :=
    Nat.le_succ_of_le (hnests a ha)
  rw [readComparison_eq]
  -- the reading sees the NOT and the word behind it at once, and the descent moves behind the NOT
  split
  · exact .step (bind_of_ok (hat.takeNot_eq (.inl rfl))) (comes_next s) (Nat.le_succ _)
      (.like _ hat.next hnests' left true)
  · rename_i rest
    simp only [List.length_cons] at hle
    exact .step (bind_of_ok (hat.takeNot_eq (.inr rfl))) (comes_next s) (Nat.le_succ _)
      (h.among _ (by omega) hat.next hnests' left true)
  · refine .look (hat.takeNot_eq_false (by simp)) ?_
    exact bind_pure (plain (likeTail ending left _)) ▸ Follows.like _ hat hnests left false
  · refine .look (hat.takeNot_eq_false (by simp)) ?_
    rw [List.length_cons] at hle
    exact bind_pure (readAmong functions ending left _) ▸
      h.among _ (by omega) hat hnests left false
  · refine .look (hat.takeNot_eq_false (by simp)) ?_
    rw [Around.comparisonRest]
    exact .current hat (.current hat (.current hat (.pure hat left)))
  · rename_i t rest hnotLike hnotAmong hlike hamong
    have hkeyword (k : Keyword) (hk : ∀ span, t ≠ ⟨.keyword k, span⟩) : t.token ≠ .keyword k :=
      fun heq => hk t.span (by rw [← heq])
    refine .look (hat.takeNot_eq_false ?_) ?_
    · rintro span t' rest' ⟨⟩
      exact ⟨fun heq => hnotLike span t'.span rest' rfl (by rw [← heq]),
        fun heq => hnotAmong span t'.span rest' rfl (by rw [← heq])⟩
    · rw [List.length_cons] at hle
      exact h.operator (by omega) hat hnests left false (hkeyword _ hlike) (hkeyword _ hamong)

/-! ### Phrases of all levels -/

/-- **A phrase of one more token is followed**, at a level at a time. -/
theorem FollowsPhrases.phrase (h : FollowsPhrases functions ts ending bound) (level : Level)
    (hle : rest.length ≤ bound) (hat : At ts rest s)
    (hnests : Nests around (.phrase level) s.position) :
    Follows ts 0 (around.phrase functions (marksOf ts ending) level) s
      (read functions ending level rest) := by
  induction hrank : level.rank using Nat.strongRecOn generalizing level around s with
  | _ n ih =>
  subst hrank
  have hat' := hat.inside (.phrase level) around
  let inside : Around := ⟨.phrase level, s.position⟩ :: around
  -- a phrase at the same place is of a tighter level
  have hinner (level' : Level) (hrank : level'.rank < level.rank) :
      Follows ts 0 (inside.phrase functions (marksOf ts ending) level')
        (s.inside (.phrase level) around) (read functions ending level' rest) :=
    ih _ hrank level' hat' (hnests.inner hrank) rfl
  rw [Around.phrase.eq_def]
  cases level with
  | chain c =>
    refine .enter hnests nofun ?_
    rw [read_chain]
    refine .bind (hinner _ c.rank_operand_lt) fun left rest' s' hread hat'' => ?_
    have hshorter := length_lt_of_read hread
    refine h.chainLoop (by omega) hat'' (fun a ha => ?_) c left
    exact Nat.le_trans (hnests.start_le a ha) (Nat.le_of_lt (hat.position_lt hat'' hshorter))
  | negation =>
    refine .enter hnests nofun ?_
    exact h.negation hle hat' hnests.start_le (hinner .comparison (by decide))
  | comparison =>
    refine .enter hnests nofun ?_
    rw [read_comparison]
    refine .bind (hinner (.chain .sum) (by decide)) fun left rest' s' hread hat'' => ?_
    have hshorter := length_lt_of_read hread
    refine h.comparisonRest (by omega) hat'' (fun a ha => ?_) left
    exact Nat.le_trans (hnests.start_le a ha) (Nat.le_of_lt (hat.position_lt hat'' hshorter))
  | sign =>
    refine .enter hnests nofun ?_
    exact h.sign hle hat' hnests.start_le (hinner .primary (by decide))
  | primary => exact .enter_primary hnests (h.primary hle hat' hnests.start_le)

/-- **Phrases of any number of tokens are followed.** -/
theorem followsPhrases (functions : Registry) (ts : List Lexeme) (ending : Span) (bound : Nat) :
    FollowsPhrases functions ts ending bound := by
  induction bound with
  | zero => exact fun _ _ _ _ hlt => absurd hlt (Nat.not_lt_zero _)
  | succ bound ih =>
    intro rest level around s hlt hat hnests
    exact ih.phrase level (Nat.le_of_lt_succ hlt) hat hnests

/-! ### The whole descent -/

/-- **An orderly course** of a descent over the tokens of a source, up to a state. -/
structure Orderly (marks : List Mark) (s : State) : Prop where
  /-- the last token, and no other one, is the end of the input -/
  token_eq_none_iff : ∀ i mark, marks[i]? = some mark →
    (mark.token = none ↔ i + 1 = marks.length)
  /-- the cursor never goes back -/
  sorted : s.log.Pairwise fun m m' => m.position ≤ m'.position
  /-- where it ends is where it has come furthest -/
  position_le : ∀ m ∈ s.log, m.position ≤ s.position
  /-- the cursor never passes the last token -/
  position_lt : s.position < marks.length
  /-- every loop moves it on each time that it goes around -/
  start_lt_of_turned : ∀ p start stop, Moment.turned p start stop ∈ s.log → start < stop
  /-- a procedure that is called inside itself begins further on -/
  start_lt_of_entered : ∀ a around, Moment.entered a around ∈ s.log →
    ∀ b ∈ around, b.procedure = a.procedure → b.start < a.start
  /-- no more primary phrases begin than there are tokens -/
  countP_isPrimary_le : s.log.countP Moment.isPrimary ≤ marks.length

/-- The end of the input is the last mark only. -/
theorem token_eq_none_iff_of_marksOf {i : Nat} {mark : Mark}
    (h : (marksOf ts ending)[i]? = some mark) :
    mark.token = none ↔ i + 1 = (marksOf ts ending).length := by
  rw [length_marksOf]
  rw [marksOf, List.getElem?_append, List.length_map] at h
  split at h
  · rename_i hlt
    rw [List.getElem?_map, List.getElem?_eq_getElem hlt] at h
    cases h
    simp only [reduceCtorEq, false_iff]
    omega
  · rename_i hle
    rw [List.getElem?_singleton, Option.ite_none_right_eq_some] at h
    obtain ⟨hzero, ⟨⟩⟩ := h
    simp only [true_iff]
    omega

/-- What comes from the beginning within the tokens is orderly. -/
theorem orderly_of_comes {n : Nat} (h : Comes .initial s n) (hposition : s.position ≤ ts.length)
    (hcount : n ≤ s.position + 1) : Orderly (marksOf ts ending) s := by
  obtain ⟨ms, hlog, hcourse⟩ := h
  obtain rfl : s.log = ms := hlog
  have hlength := length_marksOf ts ending
  exact {
    token_eq_none_iff := fun _ _ => token_eq_none_iff_of_marksOf
    sorted := hcourse.sorted
    position_le := fun m hm => (hcourse.between m hm).2
    position_lt := by omega
    start_lt_of_turned := fun _ _ _ hm => hcourse.progresses _ hm
    start_lt_of_entered := fun _ _ hm => hcourse.progresses _ hm
    countP_isPrimary_le := by
      rw [hcourse.countP_isPrimary]
      omega }

/-- **What a procedure comes to from the beginning**, by an orderly course, if it follows a
reading. -/
theorem Follows.exists_orderly {α : Type} {x : Descent α}
    {r : Except SyntaxError (α × List Lexeme)} (h : Follows ts 0 x .initial r) :
    ∃ s, x .initial = some ((r.map Prod.fst).mapError .refused, s) ∧
      Orderly (marksOf ts ending) s := by
  match r, h with
  | .error e, ⟨s, n, hx, hposition, hcomes, hcount⟩ =>
    have hcount' : 0 + (n + 0) ≤ s.position + 1 := hcount
    exact ⟨s, hx, orderly_of_comes hcomes hposition (by omega)⟩
  | .ok (a, rest), ⟨s, n, hx, hat, hcomes, hcount⟩ =>
    have hposition := hat.add_length
    have hcount' : 0 + (n + 0) ≤ s.position := hcount
    exact ⟨s, hx, orderly_of_comes hcomes (by omega) (by omega)⟩

/-- The whole parser reads one expression, and then the end of the input. -/
def readWhole (functions : Registry) (ending : Span) (ts : List Lexeme) :
    Except SyntaxError (Expr × List Lexeme) :=
  read functions ending .top ts >>= fun whole =>
    match whole.2 with
    | [] => .ok whole
    | rest => .error (unexpected ending .endOfInput rest)

/-- The descent follows the whole reading. -/
theorem follows_parse (functions : Registry) (ts : List Lexeme) (ending : Span) :
    Follows ts 0 (parse functions (marksOf ts ending)) .initial
      (readWhole functions ending ts) := by
  have hat : At ts ts .initial := ⟨[], rfl, rfl⟩
  have hphrases := followsPhrases functions ts ending (ts.length + 1)
  rw [Descent.parse, readWhole]
  refine .bind (hphrases.expression (Nat.lt_succ_self _) hat (nests_nil _ _))
    fun e rest s _ hat' => .current hat' ?_
  cases rest with
  | nil => exact .pure hat' e
  | cons t rest => exact .refuse hat' (Nat.zero_le _) _

end Descent

namespace Source

variable {functions : Registry} {source : Source} {marks : List Descent.Mark}

/-- What a source parses to is what its tokens are read as. -/
theorem parse_eq_readWhole {ts : List Lexeme} (h : source.tokens = .ok ts) :
    source.parse functions = (Descent.readWhole functions source.ending ts).map Prod.fst := by
  rw [Source.parse, Descent.readWhole, Parse.read, h]
  cases hwhole : Parse.phrase functions source.ending .top ts with
  | error e => simp only [bind, Except.bind, hwhole]; rfl
  | ok whole =>
    simp only [bind, Except.bind, hwhole, Parsed.plain_ok]
    cases whole.rest <;> rfl

/-- **The descent ends** with what the source parses to, after an orderly course: it never runs
without end, and no token is taken from a place out of bounds. -/
theorem exists_orderly_descent (functions : Registry) (h : source.marks = .ok marks) :
    ∃ s, Descent.parse functions marks .initial =
        some ((source.parse functions).mapError .refused, s) ∧
      Descent.Orderly marks s := by
  rw [Source.marks] at h
  cases hts : source.tokens with
  | error e => rw [hts] at h; cases h
  | ok ts =>
    rw [hts] at h
    cases h
    rw [parse_eq_readWhole hts]
    exact (Descent.follows_parse functions ts source.ending).exists_orderly

/-- Two parentheses are opened and none is closed: the end of the input is where the third primary
phrase begins. -/
theorem exists_orderly_descent_unclosed :
    let source : Source := ⟨0, "(("⟩
    let marks : List Descent.Mark :=
      [⟨some (.symbol .leftParen), source, 0, 1⟩, ⟨some (.symbol .leftParen), source, 1, 2⟩,
        ⟨none, source, 2, 2⟩]
    source.marks = .ok marks ∧
      ∃ s, Descent.parse .empty marks .initial =
          some (.error (.refused ⟨.unexpected .expression none, source, 2, 2⟩), s) ∧
        Descent.Orderly marks s := by
  intro source marks
  have hmarks : source.marks = .ok marks := by decide +kernel
  have hrun : (match source.parse .empty with
      | .error e => some e
      | .ok _ => none) = some ⟨.unexpected .expression none, source, 2, 2⟩ := by
    decide +kernel
  obtain ⟨s, hs, horderly⟩ := exists_orderly_descent .empty hmarks
  cases hparse : source.parse .empty with
  | ok e =>
    rw [hparse] at hrun
    cases hrun
  | error e =>
    rw [hparse] at hrun hs
    cases hrun
    exact ⟨hmarks, s, hs, horderly⟩

end Source

end EventFilter
