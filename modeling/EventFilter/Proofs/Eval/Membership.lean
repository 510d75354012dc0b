import Mathlib.Data.Bool.Basic
import EventFilter.Proofs.Eval.Operator

/-!
# Membership as comparisons

IN compares a value with the elements of a list, one after the other, and ends with the first
element that is equal. A chain of comparisons that are joined by connectives ends with the first
comparison that decides its connective (`Expr.eval_chain`). Both are searches among the outcomes of
comparisons (`search`), so what is left to compare are the outcomes one by one.
Main statement: IN is a disjunction of equalities, and its negation a conjunction of inequalities
(`Expr.eval_among_eq_eval_chain`).
-/

namespace EventFilter

/-! ### Searches -/

section search

variable {ε ε' : Type} {answer : Bool}

/-- **A search for an answer**: the first outcome that is the answer or an error, and the opposite
if there is none. -/
def search (answer : Bool) : List (Except ε Bool) → Except ε Bool
  | [] => .ok !answer
  | .error e :: _ => .error e
  | .ok p :: rest => if p = answer then .ok answer else search answer rest

/-- The answer ends a search. -/
theorem search_answer (rest : List (Except ε Bool)) :
    search answer (.ok answer :: rest) = .ok answer := by
  rw [search, if_pos rfl]

/-- The opposite of the answer is passed over. -/
theorem search_not_answer (rest : List (Except ε Bool)) :
    search answer (.ok (!answer) :: rest) = search answer rest := by
  rw [search, if_neg (by cases answer <;> decide)]

/-- A search in one outcome comes to that outcome. -/
theorem search_singleton (o : Except ε Bool) : search answer [o] = o := by
  cases o with
  | error e => rfl
  | ok p =>
    rcases Bool.eq_or_eq_not p answer with rfl | rfl
    · exact search_answer []
    · rw [search_not_answer, search]

/-- **The beginning of a search** can be replaced by what it comes to. -/
theorem search_search (before after : List (Except ε Bool)) :
    search answer (search answer before :: after) = search answer (before ++ after) := by
  induction before with
  | nil => rw [search, search_not_answer, List.nil_append]
  | cons o before ih =>
    cases o with
    | error e => rfl
    | ok p =>
      rcases Bool.eq_or_eq_not p answer with rfl | rfl
      · rw [search_answer, search_answer, List.cons_append, search_answer]
      · rw [search_not_answer, List.cons_append, search_not_answer, ih]

/-- The opposite answer is found where the opposite outcomes are. -/
theorem search_map_not (outcomes : List (Except ε Bool)) :
    search (!answer) (outcomes.map (·.map not)) = (search answer outcomes).map not := by
  induction outcomes with
  | nil => rfl
  | cons o rest ih =>
    cases o with
    | error e => rfl
    | ok p =>
      rw [List.map_cons, Except.map]
      rcases Bool.eq_or_eq_not p answer with rfl | rfl
      · rw [search_answer, search_answer, Except.map]
      · rw [search_not_answer, search_not_answer, ih]

/-- Errors are changed before a search or after it. -/
theorem search_map_mapError (f : ε → ε') (outcomes : List (Except ε Bool)) :
    search answer (outcomes.map (·.mapError f)) = (search answer outcomes).mapError f := by
  induction outcomes with
  | nil => rfl
  | cons o rest ih =>
    cases o with
    | error e => rfl
    | ok p =>
      have hok (q : Bool) : (Except.ok q : Except ε Bool).mapError f = .ok q := rfl
      rw [List.map_cons, hok]
      rcases Bool.eq_or_eq_not p answer with rfl | rfl
      · rw [search_answer, search_answer, hok]
      · rw [search_not_answer, search_not_answer, ih]

end search

/-! ### Equalities and inequalities -/

/-- **The sort and the place of an error**, without its message. -/
def EvalError.blame (e : EvalError) : ErrorKind × Span := (e.kind, e.span)

namespace ComparisonOp

variable {a b : Value} {left right node node' : Span}

/-- A comparison that does not order its operands never blames the node itself. -/
theorem eval_eq_of_isEquality {op : ComparisonOp} (hop : op.isEquality = true) :
    op.eval a b left right node = op.eval a b left right node' := by
  unfold eval
  simp only [hop, if_true]

/-- **Inequality is the opposite of equality**, and fails where equality does and in the same way,
though the message names the operator. -/
theorem mapError_eval_ne :
    (ne.eval a b left right node).mapError EvalError.blame =
      ((eq.eval a b left right node).map not).mapError EvalError.blame := by
  have htest (o : Ordering) : ne.test o = !eq.test o := by cases o <;> rfl
  unfold eval
  split
  · simp only [isEquality, if_true, htest]
    rfl
  · split
    · unfold Value.integerFor
      cases a.toInteger with
      | error e => rfl
      | ok m =>
        cases b.toInteger with
        | error e => rfl
        | ok n => exact congrArg Except.ok (htest _)
    · exact congrArg Except.ok (htest _)

end ComparisonOp

/-- A connective that its left operand does not decide comes to its right operand. -/
theorem LogicalOp.apply_of_decidedBy_not {op : LogicalOp} {p : Bool}
    (h : op.decidedBy = some (!p)) (q : Bool) : op.apply p q = q := by
  cases op <;> cases p <;> cases h <;> rfl

/-! ### Chains -/

/-- **What a chain compares a value with**: an element, the span of the comparison, and the span of
the connective that joins it to the comparisons before it. -/
structure Link where
  element : Expr
  compared : Span
  joined : Span

namespace Expr

/-- The comparison of a value with the element of a link. -/
def compareLink (cmp : ComparisonOp) (x : Expr) (link : Link) : Expr :=
  binary (.comparison cmp) x link.element link.compared

/-- An expression and the comparisons of a value with some elements, joined from the left. -/
def joinLinks (op : LogicalOp) (cmp : ComparisonOp) (x : Expr) : Expr → List Link → Expr
  | joined, [] => joined
  | joined, link :: rest =>
    joinLinks op cmp x (binary (.logical op) joined (compareLink cmp x link) link.joined) rest

/-- **A chain of comparisons** of one value with several elements, joined from the left. No
connective stands before the first comparison. -/
def chain (op : LogicalOp) (cmp : ComparisonOp) (x : Expr) (first : Link) (rest : List Link) :
    Expr :=
  joinLinks op cmp x (compareLink cmp x first) rest

/-- What comparing two expressions comes to, at a node with a given span. -/
def comparison (env : Environment) (cmp : ComparisonOp) (x : Expr) (node : Span) (e : Expr) :
    Except EvalError Bool := do
  let a ← x.eval env
  let b ← e.eval env
  cmp.eval a b x.span e.span node

variable {env : Environment} {x l r : Expr} {answer : Bool}

/-- A comparison evaluates to what comparing its operands comes to. -/
theorem eval_comparison (cmp : ComparisonOp) (l r : Expr) (s : Span) :
    (binary (.comparison cmp) l r s).eval env = (comparison env cmp l s r).map .boolean := by
  unfold comparison eval
  rw [run, Run.outcome_bind]
  cases (l.run env).outcome with
  | error e => rfl
  | ok a =>
    refine (Run.outcome_bind (r.run env) _).trans ?_
    cases (r.run env).outcome with
    | error e => rfl
    | ok b => rfl

/-- **A connective searches its operands** for what decides it. -/
theorem eval_logical {op : LogicalOp} (hop : op.decidedBy = some answer)
    {a b : Except EvalError Bool} (ha : l.eval env = a.map .boolean)
    (hb : r.eval env = b.map .boolean) (s : Span) :
    (binary (.logical op) l r s).eval env = (search answer [a, b]).map .boolean := by
  unfold eval at ha hb ⊢
  rw [run, Run.outcome_bind, ha]
  cases a with
  | error e => rfl
  | ok p =>
    change (if op.decidedBy = some p then _ else _ : Run Value).outcome = _
    rcases Bool.eq_or_eq_not p answer with rfl | rfl
    · rw [if_pos hop, search_answer]
      rfl
    · have hne : op.decidedBy ≠ some (!answer) := by
        rw [hop]
        cases answer <;> decide
      rw [if_neg hne, search_not_answer, search_singleton, Run.outcome_bind, hb]
      cases b with
      | error e => rfl
      | ok q =>
        have happly := LogicalOp.apply_of_decidedBy_not (p := !answer) (by rwa [Bool.not_not]) q
        exact congrArg (Except.ok ∘ Value.boolean) happly

/-- **A chain searches its comparisons** behind whatever they are joined to. -/
theorem eval_joinLinks {op : LogicalOp} (hop : op.decidedBy = some answer) (cmp : ComparisonOp)
    {joined : Expr} {o : Except EvalError Bool} (ho : joined.eval env = o.map .boolean)
    (links : List Link) :
    (joinLinks op cmp x joined links).eval env =
      (search answer (o :: links.map fun link =>
        comparison env cmp x link.compared link.element)).map .boolean := by
  induction links generalizing joined o with
  | nil => rw [joinLinks, List.map_nil, search_singleton, ho]
  | cons link rest ih =>
    have hlink : (compareLink cmp x link).eval env =
        (comparison env cmp x link.compared link.element).map .boolean := eval_comparison ..
    rw [joinLinks, ih (eval_logical hop ho hlink link.joined), search_search]
    rfl

/-- **A chain evaluates to the search among its comparisons** for what decides its connective. -/
theorem eval_chain {op : LogicalOp} (hop : op.decidedBy = some answer) (cmp : ComparisonOp)
    (x : Expr) (first : Link) (rest : List Link) :
    (chain op cmp x first rest).eval env =
      (search answer ((first :: rest).map fun link =>
        comparison env cmp x link.compared link.element)).map .boolean :=
  eval_joinLinks hop cmp (eval_comparison cmp x first.element first.compared) rest

/-! ### Membership -/

/-- **IN searches the equalities** of its value with its elements for one that holds. -/
theorem eval_among (x : Expr) {set : List Expr} (hset : set ≠ []) (s : Span) :
    (among x set s).eval env = (search true (set.map (comparison env .eq x s))).map .boolean := by
  cases hx : x.eval env with
  | error e =>
    -- The value is not evaluated at all by a search in an empty list.
    obtain ⟨c, cs, rfl⟩ := List.exists_cons_of_ne_nil hset
    unfold eval at hx ⊢
    rw [run, Run.outcome_bind, List.map_cons, comparison, eval, hx]
    rfl
  | ok needle =>
    have hsearch (es : List Expr) : (runAmong env needle x.span s es).outcome =
        (search true (es.map (comparison env .eq x s))).map .boolean := by
      induction es with
      | nil => rfl
      | cons c cs ih =>
        rw [runAmong, Run.outcome_bind, List.map_cons, comparison, hx, ← eval]
        cases c.eval env with
        | error e => rfl
        | ok v =>
          let equal := ComparisonOp.eq.eval needle v x.span c.span s
          refine (Run.outcome_bind (.lift equal) _).trans ?_
          change _ = (search true (equal :: _)).map _
          rw [Run.lift]
          cases equal with
          | error e => rfl
          | ok found =>
            cases found with
            | true => rfl
            | false => exact ih
    unfold eval at hx ⊢
    rw [run, Run.outcome_bind, hx]
    exact hsearch set

/-- NOT turns the truth value of its operand around. -/
theorem eval_not {o : Except EvalError Bool} (ho : x.eval env = o.map .boolean) (s : Span) :
    (unary .not x s).eval env = (o.map not).map .boolean := by
  unfold eval at ho ⊢
  rw [run, Run.outcome_bind, ho]
  cases o with
  | error e => rfl
  | ok p => rfl

/-- Comparing for equality does not depend on the span of the node. -/
theorem comparison_eq (env : Environment) (x : Expr) (s s' : Span) (e : Expr) :
    comparison env .eq x s e = comparison env .eq x s' e := by
  have hspan (a b : Value) : ComparisonOp.eq.eval a b x.span e.span s =
      ComparisonOp.eq.eval a b x.span e.span s' := ComparisonOp.eval_eq_of_isEquality rfl
  unfold comparison
  simp only [hspan]

/-- Comparing for inequality is the opposite of comparing for equality. -/
theorem mapError_comparison_ne (env : Environment) (x : Expr) (s : Span) (e : Expr) :
    (comparison env .ne x s e).mapError EvalError.blame =
      ((comparison env .eq x s e).map not).mapError EvalError.blame := by
  unfold comparison
  cases x.eval env with
  | error err => rfl
  | ok a =>
    cases e.eval env with
    | error err => rfl
    | ok b => exact ComparisonOp.mapError_eval_ne

/-- **IN is a chain of equalities.** The test whether a value is among some elements comes to what
the disjunction of its equalities with them comes to, be it a truth value or an error; and the
negation of the test comes to what the conjunction of the inequalities comes to, but for the message
of an error. It does not matter which spans the chain has. -/
theorem eval_among_eq_eval_chain (env : Environment) (x : Expr) (first : Link) (rest : List Link)
    (s s' : Span) :
    let set := (first :: rest).map (·.element)
    (among x set s).eval env = (chain .or .eq x first rest).eval env ∧
      ((unary .not (among x set s) s').eval env).mapError EvalError.blame =
        ((chain .and .ne x first rest).eval env).mapError EvalError.blame := by
  intro set
  let equality (link : Link) := comparison env .eq x link.compared link.element
  let inequality (link : Link) := comparison env .ne x link.compared link.element
  have hset : set.map (comparison env .eq x s) = (first :: rest).map equality := by
    rw [List.map_map]
    exact List.map_congr_left fun link _ => comparison_eq env x s link.compared link.element
  have hamong : (among x set s).eval env =
      (search true ((first :: rest).map equality)).map .boolean := by
    rw [← hset]
    exact eval_among x (List.cons_ne_nil _ _) s
  refine ⟨hamong.trans (eval_chain rfl .eq x first rest).symm, ?_⟩
  have hcommute (o : Except EvalError Bool) :
      (o.map Value.boolean).mapError EvalError.blame =
        (o.mapError EvalError.blame).map Value.boolean := by
    cases o <;> rfl
  have hopposite : (first :: rest).map (fun link => (inequality link).mapError EvalError.blame) =
      (first :: rest).map fun link => ((equality link).map not).mapError EvalError.blame :=
    List.map_congr_left fun link _ => mapError_comparison_ne env x link.compared link.element
  have hsearch : (search false ((first :: rest).map inequality)).mapError EvalError.blame =
      ((search true ((first :: rest).map equality)).map not).mapError EvalError.blame :=
    calc (search false ((first :: rest).map inequality)).mapError EvalError.blame
        = search false ((first :: rest).map fun link =>
            (inequality link).mapError EvalError.blame) := by
          rw [← search_map_mapError, List.map_map]
          rfl
      _ = search false (((first :: rest).map fun link => (equality link).map not).map
            (·.mapError EvalError.blame)) := by
          rw [hopposite, List.map_map]
          rfl
      _ = (search (!true) (((first :: rest).map equality).map (·.map not))).mapError
            EvalError.blame := by
          rw [search_map_mapError, List.map_map]
          rfl
      _ = _ := by rw [search_map_not]
  have hand : LogicalOp.and.decidedBy = some false := rfl
  rw [eval_not hamong, eval_chain hand, hcommute, hcommute, ← hsearch]

end Expr

end EventFilter
