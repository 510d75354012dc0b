import EventFilter.Proofs.Phrase.Calls
import EventFilter.Proofs.Tree.Nodes

/-!
# Nodes and their phrases

In the tokens of an expression each of its nodes has tokens of its own, next to one another, which
are a phrase for it. There is one exception: behind the value that LIKE or IN tests, NOT makes one
phrase of the test and its negation, and no phrase is left for the test alone (`StandsIn`).
Main statement: every node of the expression of a phrase stands in its tokens (`Phrase.standsIn`).
-/

namespace EventFilter

open Parse (negated)

/-! ### Operands and tested values -/

namespace Expr

/-- Another span leaves the operands. -/
@[simp] theorem children_withSpan (e : Expr) (s : Span) : (e.withSpan s).children = e.children := by
  cases e <;> rfl

/-- The value that LIKE or IN tests. -/
def tested? : Expr → Option Expr
  | among x _ _ | like x _ _ => some x
  | _ => none

/-- Another span leaves the tested value. -/
@[simp] theorem tested?_withSpan (e : Expr) (s : Span) : (e.withSpan s).tested? = e.tested? := by
  cases e <;> rfl

end Expr

/-! ### Where nodes stand -/

/-- **A node of an expression stands in tokens**: some of them, next to one another, are a phrase
for it, or for its negation if it is the test behind an infix NOT. -/
inductive StandsIn (functions : Registry) (ts : List Lexeme) (e n : Expr) : Prop
  /-- as a phrase -/
  | phrase {level us} : us <:+: ts → Phrase functions level us n → StandsIn functions ts e n
  /-- behind an infix NOT -/
  | test {x xs s us sNot} : xs ++ ⟨.keyword .not, s⟩ :: us <:+: ts →
      Phrase functions .comparison (xs ++ ⟨.keyword .not, s⟩ :: us) (negated n) →
      n.tested? = some x → Phrase functions (.chain .sum) xs x → .unary .not n sNot ∈ e.nodes →
      StandsIn functions ts e n

namespace StandsIn

variable {functions : Registry} {level : Level} {ts us : List Lexeme} {e c n : Expr}

/-- What stands in tokens stands in more of them. -/
theorem of_isInfix (h : StandsIn functions ts e n) (hts : ts <:+: us) :
    StandsIn functions us e n := by
  cases h with
  | phrase hpart h => exact .phrase (hpart.trans hts) h
  | test hpart h hx hxs hmem => exact .test (hpart.trans hts) h hx hxs hmem

/-- What stands in the tokens of an operand stands in those of the node. -/
theorem of_child (h : StandsIn functions ts c n) (hc : c ∈ e.children) :
    StandsIn functions ts e n := by
  cases h with
  | phrase hpart h => exact .phrase hpart h
  | test hpart h hx hxs hmem =>
    exact .test hpart h hx hxs (Expr.mem_nodes_of_child hc hmem)

/-- What stands in the tokens of an expression stands there as well if that gets another span. -/
theorem withSpan (h : StandsIn functions ts e n) (s : Span) :
    StandsIn functions ts (e.withSpan s) n := by
  cases h with
  | phrase hpart h => exact .phrase hpart h
  | test hpart h hx hxs hmem =>
    rcases Expr.mem_nodes_iff.mp hmem with rfl | ⟨c, hc, hmem⟩
    · exact .test hpart h hx hxs (Expr.self_mem_nodes _)
    · rw [← Expr.children_withSpan e s] at hc
      exact .test hpart h hx hxs (Expr.mem_nodes_of_child hc hmem)

/-- The nodes of an expression that has a phrase stand in its tokens if those of its operands do. -/
theorem of_phrase (h : Phrase functions level ts e)
    (hchildren : ∀ c ∈ e.children, ∀ n ∈ c.nodes, StandsIn functions ts c n) :
    ∀ n ∈ e.nodes, StandsIn functions ts e n := by
  intro n hn
  rcases Expr.mem_nodes_iff.mp hn with rfl | ⟨c, hc, hn⟩
  · exact .phrase List.infix_rfl h
  · exact (hchildren c hc n hn).of_child hc

/-- The nodes of an operator before its operand. -/
theorem of_unary {op : UnaryOp} {t : Lexeme} {s : Span}
    (h : Phrase functions level (t :: ts) (.unary op e s))
    (he : ∀ n ∈ e.nodes, StandsIn functions ts e n) :
    ∀ n ∈ (Expr.unary op e s).nodes, StandsIn functions (t :: ts) (.unary op e s) n := by
  apply of_phrase h
  refine List.forall_mem_singleton.mpr fun n hn => ?_
  exact (he n hn).of_isInfix (List.suffix_cons t ts).isInfix

/-- The nodes of an operator between its operands. -/
theorem of_combine {op : BinaryOp} {l r : Expr} {t : Lexeme}
    (h : Phrase functions level (ts ++ t :: us) (.combine op l r))
    (hl : ∀ n ∈ l.nodes, StandsIn functions ts l n)
    (hr : ∀ n ∈ r.nodes, StandsIn functions us r n) :
    ∀ n ∈ (Expr.combine op l r).nodes,
      StandsIn functions (ts ++ t :: us) (.combine op l r) n := by
  have hsuffix : us <:+ ts ++ t :: us := (List.suffix_cons t us).trans (List.suffix_append ts _)
  apply of_phrase h
  refine List.forall_mem_cons.mpr ⟨?_, List.forall_mem_singleton.mpr ?_⟩
  · exact fun n hn => (hl n hn).of_isInfix (List.prefix_append ts _).isInfix
  · exact fun n hn => (hr n hn).of_isInfix hsuffix.isInfix

/-- The nodes of an infix NOT and its test. -/
theorem of_negated {x : Expr} {xs : List Lexeme} {s : Span}
    (h : Phrase functions .comparison (xs ++ ⟨.keyword .not, s⟩ :: us) (negated e))
    (hx : e.tested? = some x) (hxs : Phrase functions (.chain .sum) xs x)
    (hchildren : ∀ c ∈ e.children, ∀ n ∈ c.nodes,
      StandsIn functions (xs ++ ⟨.keyword .not, s⟩ :: us) c n) :
    ∀ n ∈ (negated e).nodes, StandsIn functions (xs ++ ⟨.keyword .not, s⟩ :: us) (negated e) n := by
  intro n hn
  have he : e ∈ (negated e).children := List.mem_singleton_self e
  rcases Expr.mem_nodes_iff.mp hn with rfl | ⟨_, hc, hbelow⟩
  · exact .phrase List.infix_rfl h
  cases List.mem_singleton.mp hc
  rcases Expr.mem_nodes_iff.mp hbelow with rfl | ⟨c, hc, hbelow⟩
  · exact .test List.infix_rfl h hx hxs (Expr.self_mem_nodes _)
  · exact ((hchildren c hc n hbelow).of_child hc).of_child he

end StandsIn

variable {functions : Registry} {level : Level} {ts : List Lexeme} {e : Expr}

/-- **Every node of the expression of a phrase stands in its tokens.** -/
theorem Phrase.standsIn (h : Phrase functions level ts e) :
    ∀ n ∈ e.nodes, StandsIn functions ts e n := by
  -- The parts of a list, of IN or of a call, stand in the tokens of the whole.
  have hitems {us vs : List Lexeme} {items : List (List Lexeme × Expr)}
      (hus : Separated us (items.map (·.1))) (hvs : us <:+: vs)
      (ih : ∀ i ∈ items, ∀ n ∈ i.2.nodes, StandsIn functions i.1 i.2 n) :
      ∀ c ∈ items.map (·.2), ∀ n ∈ c.nodes, StandsIn functions vs c n := by
    intro c hc n hn
    obtain ⟨i, hi, rfl⟩ := List.mem_map.mp hc
    exact (ih i hi n hn).of_isInfix ((hus.isInfix i.1 (List.mem_map_of_mem hi)).trans hvs)
  induction h with
  | operand _ ih | comparison _ ih | sum _ ih | primary _ ih => exact ih
  | chained hl hop hr ihl ihr => exact StandsIn.of_combine (.chained hl hop hr) ihl ihr
  | compare hl hop hr ihl ihr => exact StandsIn.of_combine (.compare hl hop hr) ihl ihr
  | not h ih => exact StandsIn.of_unary (.not h) ih
  | negate h hnumber ih => exact StandsIn.of_unary (.negate h hnumber) ih
  | @like ts x s s' text p hx hp ih =>
    apply StandsIn.of_phrase (.like hx hp)
    refine List.forall_mem_singleton.mpr fun n hn => ?_
    exact (ih n hn).of_isInfix (List.prefix_append ts _).isInfix
  | @notLike ts x s₀ s s' text p hx hp ih =>
    refine StandsIn.of_negated (.notLike hx hp) ?_ hx ?_
    · rfl
    refine List.forall_mem_singleton.mpr fun n hn => ?_
    exact (ih n hn).of_isInfix (List.prefix_append ts _).isInfix
  | @among ts x s s' s'' us items hx hne hus h ih ihitems =>
    apply StandsIn.of_phrase (.among hx hne hus h)
    refine List.forall_mem_cons.mpr ⟨?_, hitems hus ?_ ihitems⟩
    · exact fun n hn => (ih n hn).of_isInfix (List.prefix_append ts _).isInfix
    · exact ⟨ts ++ [⟨.keyword .among, s⟩, ⟨.symbol .leftParen, s'⟩],
        [⟨.symbol .rightParen, s''⟩], by simp⟩
  | @notAmong ts x s₀ s s' s'' us items hx hne hus h ih ihitems =>
    refine StandsIn.of_negated (.notAmong hx hne hus h) ?_ hx ?_
    · rfl
    refine List.forall_mem_cons.mpr ⟨?_, hitems hus ?_ ihitems⟩
    · exact fun n hn => (ih n hn).of_isInfix (List.prefix_append ts _).isInfix
    · exact ⟨ts ++ [⟨.keyword .not, s₀⟩, ⟨.keyword .among, s⟩, ⟨.symbol .leftParen, s'⟩],
        [⟨.symbol .rightParen, s''⟩], by simp⟩
  | negativeNumber h =>
    obtain ⟨n, -, rfl⟩ := Parse.integer_eq_ok_iff.mp h
    exact StandsIn.of_phrase (.negativeNumber h) nofun
  | number h =>
    obtain ⟨n, -, rfl⟩ := Parse.integer_eq_ok_iff.mp h
    exact StandsIn.of_phrase (.number h) nofun
  | string => exact StandsIn.of_phrase .string nofun
  | true => exact StandsIn.of_phrase .true nofun
  | false => exact StandsIn.of_phrase .false nofun
  | present => exact StandsIn.of_phrase .present nofun
  | attr => exact StandsIn.of_phrase .attr nofun
  | @call s s' s'' name us e items hus h hcall ihitems =>
    obtain ⟨-, rfl⟩ := Parse.checkedCall_eq_ok_iff.mp hcall
    apply StandsIn.of_phrase (.call hus h hcall)
    refine hitems hus ?_ ihitems
    exact ⟨[⟨.identifier name, s⟩, ⟨.symbol .leftParen, s'⟩], [⟨.symbol .rightParen, s''⟩], rfl⟩
  | @parenthesized s s' ts e h ih =>
    intro n hn
    rcases Expr.mem_nodes_iff.mp hn with rfl | ⟨c, hc, hn⟩
    · exact .phrase List.infix_rfl (.parenthesized h)
    · rw [Expr.children_withSpan] at hc
      have hstands := (ih n (Expr.mem_nodes_of_child hc hn)).withSpan (s.merge s')
      exact hstands.of_isInfix ⟨[⟨.symbol .leftParen, s⟩], [⟨.symbol .rightParen, s'⟩], rfl⟩

/-- **No NOT is behind the value** of a test that has a phrase. -/
theorem Phrase.exists_behind_tested {x : Expr} (h : Phrase functions level ts e)
    (hx : e.tested? = some x) : ∃ xs t us, xs ++ t :: us <:+: ts ∧
      Phrase functions (.chain .sum) xs x ∧ t.token ≠ .keyword .not := by
  induction h with
  | operand _ ih | comparison _ ih | sum _ ih | primary _ ih => exact ih hx
  | like hvalue | among hvalue =>
    cases hx
    exact ⟨_, _, _, List.infix_rfl, hvalue, nofun⟩
  | @parenthesized s s' ts e _ ih =>
    rw [Expr.tested?_withSpan] at hx
    obtain ⟨xs, t, us, hpart, hvalue, ht⟩ := ih hx
    have hinner : ts <:+: ⟨.symbol .leftParen, s⟩ :: (ts ++ [⟨.symbol .rightParen, s'⟩]) :=
      ⟨[⟨.symbol .leftParen, s⟩], [⟨.symbol .rightParen, s'⟩], rfl⟩
    exact ⟨xs, t, us, hpart.trans hinner, hvalue, ht⟩
  | negativeNumber hn | number hn =>
    obtain ⟨n, -, rfl⟩ := Parse.integer_eq_ok_iff.mp hn
    cases hx
  | call _ _ hcall =>
    obtain ⟨-, rfl⟩ := Parse.checkedCall_eq_ok_iff.mp hcall
    cases hx
  | _ => cases hx

end EventFilter
