import EventFilter.Expr.Parse

/-!
# Phrases

The grammar of the filter language with its spans: which lists of tokens are a phrase of a level,
and which expression such a phrase stands for (`Phrase`). There is one rule for each way in which a
phrase is made of others, and no rule looks at what follows a phrase. What follows matters to a
reader only: `Level.Stops` says that a list of tokens cannot go on a phrase of a level.
Main statement: the first token of a phrase tells levels apart (`Phrase.exists_head`).
-/

namespace EventFilter

open Parse (negated integer checkedCall)

/-- Lists of tokens one after the other, with a comma between each and the next. -/
inductive Separated : List Lexeme → List (List Lexeme) → Prop
  | none : Separated [] []
  | one (ts : List Lexeme) : Separated ts [ts]
  | more {us vs : List Lexeme} {vss : List (List Lexeme)} (ts : List Lexeme) (comma : Span)
      (rest : Separated us (vs :: vss)) :
      Separated (ts ++ ⟨.symbol .comma, comma⟩ :: us) (ts :: vs :: vss)

/-- Each part stands in the list. -/
theorem Separated.isInfix {us : List Lexeme} {tss : List (List Lexeme)} (h : Separated us tss) :
    ∀ ts ∈ tss, ts <:+: us := by
  induction h with
  | none => exact nofun
  | one ts => exact List.forall_mem_singleton.mpr List.infix_rfl
  | @more us _ _ ts comma _ ih =>
    refine List.forall_mem_cons.mpr ⟨(List.prefix_append ts _).isInfix, ?_⟩
    intro vs hvs
    have hsuffix : us <:+ ts ++ ⟨.symbol .comma, comma⟩ :: us :=
      (List.suffix_cons _ us).trans (List.suffix_append ts _)
    exact (ih vs hvs).trans hsuffix.isInfix

/-- **A list of tokens is a phrase of a level**, and stands for an expression. Lists of phrases are
given as the pairs of each phrase with its expression. -/
inductive Phrase (functions : Registry) : Level → List Lexeme → Expr → Prop
  /-- an operand alone -/
  | operand {c ts e} : Phrase functions c.operand ts e → Phrase functions (.chain c) ts e
  /-- a chain and one operand more -/
  | chained {c ts t us l r op} : Phrase functions (.chain c) ts l →
      c.operator? t.token = some op → Phrase functions c.operand us r →
      Phrase functions (.chain c) (ts ++ t :: us) (.combine op l r)
  /-- a comparison without NOT -/
  | comparison {ts e} : Phrase functions .comparison ts e → Phrase functions .negation ts e
  /-- NOT -/
  | not {s ts e} : Phrase functions .negation ts e →
      Phrase functions .negation (⟨.keyword .not, s⟩ :: ts) (.unary .not e (s.merge e.span))
  /-- a sum alone -/
  | sum {ts e} : Phrase functions (.chain .sum) ts e → Phrase functions .comparison ts e
  /-- two sums compared -/
  | compare {ts t us l r op} : Phrase functions (.chain .sum) ts l →
      ComparisonOp.ofToken? t.token = some op → Phrase functions (.chain .sum) us r →
      Phrase functions .comparison (ts ++ t :: us) (.combine (.comparison op) l r)
  /-- LIKE -/
  | like {ts x s s' text p} : Phrase functions (.chain .sum) ts x → Pattern.ofText text = .ok p →
      Phrase functions .comparison (ts ++ [⟨.keyword .like, s⟩, ⟨.string text, s'⟩])
        (.like x p (x.span.merge s'))
  /-- NOT LIKE -/
  | notLike {ts x s₀ s s' text p} : Phrase functions (.chain .sum) ts x →
      Pattern.ofText text = .ok p →
      Phrase functions .comparison
        (ts ++ [⟨.keyword .not, s₀⟩, ⟨.keyword .like, s⟩, ⟨.string text, s'⟩])
        (negated (.like x p (x.span.merge s')))
  /-- IN -/
  | among {ts x s s' s'' us} {items : List (List Lexeme × Expr)} :
      Phrase functions (.chain .sum) ts x → items ≠ [] → Separated us (items.map (·.1)) →
      (∀ i ∈ items, Phrase functions .top i.1 i.2) →
      Phrase functions .comparison
        (ts ++ ⟨.keyword .among, s⟩ :: ⟨.symbol .leftParen, s'⟩ ::
          (us ++ [⟨.symbol .rightParen, s''⟩]))
        (.among x (items.map (·.2)) (x.span.merge s''))
  /-- NOT IN -/
  | notAmong {ts x s₀ s s' s'' us} {items : List (List Lexeme × Expr)} :
      Phrase functions (.chain .sum) ts x → items ≠ [] → Separated us (items.map (·.1)) →
      (∀ i ∈ items, Phrase functions .top i.1 i.2) →
      Phrase functions .comparison
        (ts ++ ⟨.keyword .not, s₀⟩ :: ⟨.keyword .among, s⟩ :: ⟨.symbol .leftParen, s'⟩ ::
          (us ++ [⟨.symbol .rightParen, s''⟩]))
        (negated (.among x (items.map (·.2)) (x.span.merge s'')))
  /-- a primary phrase without a minus -/
  | primary {ts e} : Phrase functions .primary ts e → Phrase functions .sign ts e
  /-- a minus that belongs to a number -/
  | negativeNumber {s s' digits e} : integer ("-" ++ digits) (s.merge s') = .ok e →
      Phrase functions .sign [⟨.symbol .minus, s⟩, ⟨.number digits, s'⟩] e
  /-- a minus before anything else -/
  | negate {s ts e} : Phrase functions .sign ts e →
      (∀ digits s' us, ts ≠ ⟨.number digits, s'⟩ :: us) →
      Phrase functions .sign (⟨.symbol .minus, s⟩ :: ts) (.unary .negate e (s.merge e.span))
  /-- a number -/
  | number {s digits e} : integer digits s = .ok e →
      Phrase functions .primary [⟨.number digits, s⟩] e
  /-- a string literal -/
  | string {s text} : Phrase functions .primary [⟨.string text, s⟩] (.literal (.string text) s)
  /-- TRUE -/
  | true {s} : Phrase functions .primary [⟨.keyword .true, s⟩] (.literal (.boolean true) s)
  /-- FALSE -/
  | false {s} : Phrase functions .primary [⟨.keyword .false, s⟩] (.literal (.boolean false) s)
  /-- EXISTS -/
  | present {s s' name} : Phrase functions .primary
      [⟨.keyword .present, s⟩, ⟨.identifier name, s'⟩] (.present name s' (s.merge s'))
  /-- the name of an attribute -/
  | attr {s name} : Phrase functions .primary [⟨.identifier name, s⟩] (.attr name s)
  /-- the call of a function -/
  | call {s s' s'' name us e} {items : List (List Lexeme × Expr)} :
      Separated us (items.map (·.1)) → (∀ i ∈ items, Phrase functions .top i.1 i.2) →
      checkedCall functions name (items.map (·.2)) (s.merge s'') = .ok e →
      Phrase functions .primary
        (⟨.identifier name, s⟩ :: ⟨.symbol .leftParen, s'⟩ ::
          (us ++ [⟨.symbol .rightParen, s''⟩])) e
  /-- an expression in parentheses -/
  | parenthesized {s s' ts e} : Phrase functions .top ts e →
      Phrase functions .primary
        (⟨.symbol .leftParen, s⟩ :: (ts ++ [⟨.symbol .rightParen, s'⟩]))
        (e.withSpan (s.merge s'))

/-! ### Looser levels -/

/-- Levels are told apart by their ranks. -/
theorem Level.eq_of_rank_eq {l l' : Level} (h : l.rank = l'.rank) : l = l' := by
  revert h
  rcases l with (_ | _ | _ | _) | _ | _ | _ | _ <;>
    rcases l' with (_ | _ | _ | _) | _ | _ | _ | _ <;>
    first | exact fun _ => rfl | exact fun h => absurd h (by decide)

/-- The operands of a chain are one level tighter. -/
theorem Chain.rank_operand (c : Chain) : c.operand.rank + 1 = (Level.chain c).rank := by
  cases c <;> rfl

/-- **What carries over from each level to the next looser one** carries over to every looser
level. -/
theorem Level.loosen {motive : Level → Prop}
    (operand : ∀ {c : Chain}, motive c.operand → motive (.chain c))
    (comparison : motive .comparison → motive .negation)
    (sum : motive (.chain .sum) → motive .comparison)
    (primary : motive .primary → motive .sign)
    {level level' : Level} (h : motive level) (hr : level.rank ≤ level'.rank) : motive level' := by
  rcases Nat.eq_or_lt_of_le hr with heq | hlt
  · exact Level.eq_of_rank_eq heq ▸ h
  match level' with
  | .primary => exact absurd hlt (Nat.not_lt_zero _)
  | .sign => exact primary (loosen operand comparison sum primary h (Nat.le_of_lt_succ hlt))
  | .comparison => exact sum (loosen operand comparison sum primary h (Nat.le_of_lt_succ hlt))
  | .negation => exact comparison (loosen operand comparison sum primary h (Nat.le_of_lt_succ hlt))
  | .chain c =>
    rw [← c.rank_operand] at hlt
    exact operand (loosen operand comparison sum primary h (Nat.le_of_lt_succ hlt))
termination_by level'.rank
decreasing_by
  · decide
  · decide
  · decide
  · exact c.rank_operand_lt

/-- **A phrase of a level is one of every looser level.** -/
theorem Phrase.loosen {functions : Registry} {level level' : Level} {ts : List Lexeme} {e : Expr}
    (h : Phrase functions level ts e) (hr : level.rank ≤ level'.rank) :
    Phrase functions level' ts e :=
  Level.loosen (motive := fun level => Phrase functions level ts e)
    .operand .comparison .sum .primary h hr

/-! ### What can follow a phrase -/

/-- The rank of the level at which a token goes on a phrase. An opening parenthesis goes on a phrase
of any level, for it makes a call of a name. -/
def Token.rank? : Token → Option Nat
  | .keyword .or | .keyword .xor => some 7
  | .keyword .and => some 6
  | .keyword .not | .keyword .like | .keyword .among => some 4
  | .symbol .equal | .symbol .notEqual | .symbol .less | .symbol .lessEqual | .symbol .greater
  | .symbol .greaterEqual => some 4
  | .symbol .plus | .symbol .minus => some 3
  | .symbol .star | .symbol .slash | .symbol .percent => some 2
  | .symbol .leftParen => some 0
  | _ => none

/-- **A list of tokens cannot go on a phrase** of a level: its first token, if there is one, goes on
phrases of looser levels at most. -/
def Level.Stops (level : Level) (rest : List Lexeme) : Prop :=
  ∀ t ∈ rest.head?, ∀ n, t.token.rank? = some n → level.rank < n

namespace Level.Stops

variable {level level' : Level} {t : Lexeme} {rest : List Lexeme}

/-- Nothing goes on no phrase. -/
theorem nil : level.Stops [] := fun _ h => absurd h (Option.not_mem_none _)

/-- What cannot go on a phrase cannot go on a tighter one. -/
theorem mono (h : level.Stops rest) (hr : level'.rank ≤ level.rank) : level'.Stops rest :=
  fun t ht n hn => Nat.lt_of_le_of_lt hr (h t ht n hn)

/-- A token that goes on looser phrases only. -/
theorem cons (h : ∀ n, t.token.rank? = some n → level.rank < n) : level.Stops (t :: rest) := by
  rintro _ ⟨⟩
  exact h

/-- The rank of a token that cannot go on a phrase. -/
theorem lt_of_cons (h : level.Stops (t :: rest)) {n : Nat} (hn : t.token.rank? = some n) :
    level.rank < n := h t rfl n hn

/-- A closing parenthesis ends any phrase. -/
theorem rightParen {s : Span} : level.Stops (⟨.symbol .rightParen, s⟩ :: rest) :=
  cons fun _ h => nomatch h

/-- A comma ends any phrase. -/
theorem comma {s : Span} : level.Stops (⟨.symbol .comma, s⟩ :: rest) :=
  cons fun _ h => nomatch h

end Level.Stops

/-- An operator of a chain goes on phrases of its level. -/
theorem Chain.rank?_of_operator? {c : Chain} {t : Token} {op : BinaryOp}
    (h : c.operator? t = some op) : t.rank? = some (Level.chain c).rank := by
  unfold Chain.operator? at h
  split at h <;> first | rfl | cases h

/-- A comparison operator goes on comparisons. -/
theorem ComparisonOp.rank?_of_ofToken? {t : Token} {op : ComparisonOp}
    (h : ComparisonOp.ofToken? t = some op) : t.rank? = some Level.comparison.rank := by
  unfold ComparisonOp.ofToken? at h
  split at h <;> first | rfl | cases h

/-- An operator of a chain ends the operand before it. -/
theorem Level.Stops.operator {c : Chain} {t : Lexeme} {op : BinaryOp} {rest : List Lexeme}
    (h : c.operator? t.token = some op) : c.operand.Stops (t :: rest) :=
  cons fun _ hn => by
    rw [Chain.rank?_of_operator? h] at hn
    cases hn
    exact c.rank_operand_lt

/-- What ends a chain is no operator of it. -/
theorem Level.Stops.operator?_eq_none {c : Chain} {t : Lexeme} {rest : List Lexeme}
    (h : (Level.chain c).Stops (t :: rest)) : c.operator? t.token = none := by
  cases hop : c.operator? t.token with
  | none => rfl
  | some op => exact absurd (h.lt_of_cons (Chain.rank?_of_operator? hop)) (Nat.lt_irrefl _)

/-- What ends a comparison is no comparison operator. -/
theorem Level.Stops.ofToken?_eq_none {t : Lexeme} {rest : List Lexeme}
    (h : Level.comparison.Stops (t :: rest)) : ComparisonOp.ofToken? t.token = none := by
  cases hop : ComparisonOp.ofToken? t.token with
  | none => rfl
  | some op => exact absurd (h.lt_of_cons (ComparisonOp.rank?_of_ofToken? hop)) (Nat.lt_irrefl _)

/-! ### How phrases begin -/

/-- **A phrase begins with a token**, which is no closing parenthesis. Below negations it is not
NOT, and in a primary phrase it is no minus. -/
theorem Phrase.exists_head {functions : Registry} {level : Level} {ts : List Lexeme} {e : Expr}
    (h : Phrase functions level ts e) : ∃ t us, ts = t :: us ∧ t.token ≠ .symbol .rightParen ∧
      (level.rank ≤ 4 → t.token ≠ .keyword .not) ∧
      (level = .primary → t.token ≠ .symbol .minus) := by
  induction h with
  | @operand c _ _ _ ih =>
    obtain ⟨t, us, rfl, hclose, hnot, -⟩ := ih
    refine ⟨t, us, rfl, hclose, fun hr => hnot ?_, nofun⟩
    exact Nat.le_trans (Nat.le_of_lt c.rank_operand_lt) hr
  | chained _ _ _ ih _ =>
    obtain ⟨t, us, rfl, hclose, hnot, -⟩ := ih
    exact ⟨t, _, rfl, hclose, hnot, nofun⟩
  | comparison _ ih =>
    obtain ⟨t, us, rfl, hclose, -, -⟩ := ih
    exact ⟨t, us, rfl, hclose, fun hr => absurd hr (by decide), nofun⟩
  | not => exact ⟨_, _, rfl, nofun, fun hr => absurd hr (by decide), nofun⟩
  | sum _ ih =>
    obtain ⟨t, us, rfl, hclose, hnot, -⟩ := ih
    exact ⟨t, us, rfl, hclose, fun _ => hnot (by decide), nofun⟩
  | compare _ _ _ ih _ | like _ _ ih | notLike _ _ ih | among _ _ _ _ ih _
  | notAmong _ _ _ _ ih _ =>
    obtain ⟨t, us, rfl, hclose, hnot, -⟩ := ih
    exact ⟨t, _, rfl, hclose, fun _ => hnot (by decide), nofun⟩
  | primary _ ih =>
    obtain ⟨t, us, rfl, hclose, hnot, -⟩ := ih
    exact ⟨t, us, rfl, hclose, fun _ => hnot (by decide), nofun⟩
  | negativeNumber | negate => exact ⟨_, _, rfl, nofun, nofun, nofun⟩
  | number | string | true | false | present | attr | call | parenthesized =>
    exact ⟨_, _, rfl, nofun, nofun, nofun⟩

end EventFilter
