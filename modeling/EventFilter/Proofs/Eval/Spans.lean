import EventFilter.Proofs.Eval.Outcome
import EventFilter.Proofs.Phrase.Spans

/-!
# Evaluation and spans

Spans are not evaluated: they only say which node an error blames and which call a function is
invoked for. So an expression whose spans are mapped has the same run with its spans mapped
(`Expr.run_mapSpans`).
Main statements: it comes to the same value, or fails with the same cause at the span that is mapped
(`Expr.eval_mapSpans`), and expressions with one tree agree on values and on causes
(`Expr.eval_of_tree_eq`).
-/

namespace EventFilter

/-- An error with another span. -/
def EvalError.mapSpan (f : Span → Span) (e : EvalError) : EvalError := { e with span := f e.span }

/-- An invocation for a call with other spans. -/
def Invocation.mapSpans (f : Span → Span) (i : Invocation) : Invocation :=
  { i with site := i.site.mapSpans f }

section

variable {α β : Type} {f : Span → Span}

/-! ### Steps -/

/-- An outcome with the span of its error mapped. -/
def mapBlame (f : Span → Span) (outcome : Except EvalError α) : Except EvalError α :=
  outcome.mapError (·.mapSpan f)

/-- A step that goes on is mapped step by step. -/
theorem mapBlame_bind (x : Except EvalError α) (g : α → Except EvalError β) :
    mapBlame f (x >>= g) = mapBlame f x >>= fun a => mapBlame f (g a) := by
  cases x <;> rfl

/-- A value that is changed leaves the error to be mapped. -/
theorem mapBlame_map (x : Except EvalError α) (g : α → β) :
    mapBlame f (x.map g) = (mapBlame f x).map g := by
  cases x <;> rfl

/-- An error that is reported at a span is reported at the span that is mapped. -/
theorem mapBlame_mapError {ε : Type} (x : Except ε α) (cause : ε → EvalError.Cause) (s : Span) :
    mapBlame f (x.mapError fun e => ⟨cause e, s⟩) = x.mapError fun e => ⟨cause e, f s⟩ := by
  cases x <;> rfl

/-- Operators blame the spans that they are given. -/
theorem UnaryOp.eval_map (op : UnaryOp) (v : Value) (s : Span) :
    op.eval v (f s) = mapBlame f (op.eval v s) := by
  cases op <;> simp only [eval, Value.booleanFor, Value.integerFor, mapBlame_map, mapBlame_mapError]

/-- Arithmetic blames the spans that it is given. -/
theorem ArithmeticOp.eval_map (op : ArithmeticOp) (a b : Value) (left right node : Span) :
    op.eval a b (f left) (f right) (f node) = mapBlame f (op.eval a b left right node) := by
  simp only [eval, Value.integerFor, mapBlame_bind, mapBlame_mapError]
  congr 1
  funext m
  congr 1
  funext n
  cases op.apply? m n <;> rfl

/-- Comparisons blame the spans that they are given. -/
theorem ComparisonOp.eval_map (op : ComparisonOp) (a b : Value) (left right node : Span) :
    op.eval a b (f left) (f right) (f node) = mapBlame f (op.eval a b left right node) := by
  unfold eval
  split
  · split <;> rfl
  · split
    · simp only [Value.integerFor, mapBlame_bind, mapBlame_mapError]
      rfl
    · rfl

end

/-! ### Runs -/

namespace Run

variable {α β : Type} {f : Span → Span}

/-- **A run with all of its spans mapped.** -/
def mapSpans (f : Span → Span) (x : Run α) : Run α :=
  ⟨x.invocations.map (·.mapSpans f), mapBlame f x.outcome⟩

/-- A run that goes on is mapped step by step. -/
theorem mapSpans_bind (x : Run α) (g : α → Run β) :
    (x >>= g).mapSpans f = x.mapSpans f >>= fun a => (g a).mapSpans f := by
  obtain ⟨invocations, outcome⟩ := x
  cases outcome with
  | error e => rfl
  | ok a =>
    rw [bind_of_outcome_eq_ok rfl, bind_of_outcome_eq_ok rfl]
    simp only [mapSpans, List.map_append]

/-- A step is mapped with its invocations and its outcome. -/
theorem mapSpans_mk (invocations : List Invocation) (outcome : Except EvalError α) :
    mapSpans f ⟨invocations, outcome⟩ =
      ⟨invocations.map (·.mapSpans f), mapBlame f outcome⟩ := rfl

/-- A run that does nothing has no spans. -/
theorem mapSpans_done (a : α) : (done a).mapSpans f = done a := rfl

/-- A step that invokes nothing is mapped with its outcome. -/
theorem mapSpans_lift (outcome : Except EvalError α) :
    (lift outcome).mapSpans f = lift (mapBlame f outcome) := rfl

end Run

namespace Expr

open Run (bind_of_outcome_eq_ok mapSpans_bind mapSpans_mk mapSpans_done mapSpans_lift)

variable {env : Environment} {f : Span → Span}

/-- A search in a list is mapped if the runs of its elements are. -/
theorem runAmong_mapSpans {needle : Value} {valueSpan span : Span} {set : List Expr}
    (h : ∀ c ∈ set, run env (c.mapSpans f) = (run env c).mapSpans f) :
    runAmong env needle (f valueSpan) (f span) (set.map (mapSpans f)) =
      (runAmong env needle valueSpan span set).mapSpans f := by
  induction set with
  | nil => rfl
  | cons c cs ih =>
    obtain ⟨hc, hcs⟩ := List.forall_mem_cons.mp h
    rw [List.map_cons, runAmong, runAmong, mapSpans_bind, hc]
    congr 1
    funext v
    rw [mapSpans_bind, span_mapSpans, ComparisonOp.eval_map]
    congr 1
    funext found
    cases found with
    | true => rfl
    | false => exact ih hcs

/-- The runs of arguments are mapped one by one. -/
theorem runArguments_mapSpans {o : Overload} {index : Nat} {args : List Expr}
    (h : ∀ c ∈ args, run env (c.mapSpans f) = (run env c).mapSpans f) :
    runArguments env o index (args.map (mapSpans f)) =
      (runArguments env o index args).mapSpans f := by
  induction args generalizing index with
  | nil => rfl
  | cons c cs ih =>
    obtain ⟨hc, hcs⟩ := List.forall_mem_cons.mp h
    rw [List.map_cons, runArguments, runArguments]
    cases o.kindAt? index with
    | none =>
      rw [span_mapSpans]
      rfl
    | some kind =>
      simp only [mapSpans_bind, hc, ih hcs, span_mapSpans, mapSpans_lift, mapSpans_done,
        mapBlame_mapError]

/-- **The run of an expression with its spans mapped** is its run with the spans mapped. -/
theorem run_mapSpans (env : Environment) (f : Span → Span) (e : Expr) :
    run env (e.mapSpans f) = (run env e).mapSpans f := by
  induction e using operandInduction with
  | literal | present => rfl
  | attr name s =>
    rw [mapSpans, run, run]
    cases env.valueOf name <;> rfl
  | unary op x s ih =>
    rw [mapSpans, run, run, mapSpans_bind, ih, span_mapSpans]
    simp only [UnaryOp.eval_map]
    rfl
  | like x p s ih =>
    rw [mapSpans, run, run, mapSpans_bind, ih]
    rfl
  | binary op l r s ihl ihr =>
    cases op with
    | arithmetic op =>
      rw [mapSpans, run, run]
      simp only [mapSpans_bind, ihl, ihr, span_mapSpans, ArithmeticOp.eval_map]
      rfl
    | comparison op =>
      rw [mapSpans, run, run]
      simp only [mapSpans_bind, ihl, ihr, span_mapSpans, ComparisonOp.eval_map, ← mapBlame_map]
      rfl
    | logical op =>
      rw [mapSpans, run, run]
      simp only [mapSpans_bind, ihl, ihr, span_mapSpans, Value.booleanFor, mapSpans_lift,
        mapBlame_mapError]
      congr 1
      funext a
      congr 1
      funext p
      split <;> simp only [mapSpans_bind, mapSpans_lift, mapSpans_done, mapBlame_mapError]
  | among x set s ih ihset =>
    rw [mapSpans, run, run, mapSpans_bind, ih, mapSpansList_eq_map, span_mapSpans]
    simp only [runAmong_mapSpans ihset]
  | call name args s ih =>
    rw [mapSpans, run, run, mapSpansList_eq_map, List.length_map]
    cases env.overloads name with
    | none => rfl
    | some fs =>
      simp only
      cases Registry.select fs args.length with
      | none => rfl
      | some o =>
        have hargs : runArguments env o 0 (args.map (mapSpans f)) = _ := runArguments_mapSpans ih
        simp only [mapSpans_bind, hargs, mapSpans_lift, mapSpans_mk, mapBlame_mapError]
        simp only [List.map_cons, List.map_nil, Invocation.mapSpans, mapSpans,
          mapSpansList_eq_map]

/-- **The value of an expression with its spans mapped** is its value, and an error is the same with
its span mapped. -/
theorem eval_mapSpans (env : Environment) (f : Span → Span) (e : Expr) :
    (e.mapSpans f).eval env = mapBlame f (e.eval env) := by
  rw [eval, run_mapSpans]
  rfl

end Expr

/-! ### Expressions with one tree -/

mutual

/-- A tree as an expression with one span at all nodes. -/
def Tree.toExpr (s : Span) : Tree → Expr
  | .literal v => .literal v s
  | .attr name => .attr name s
  | .unary op x => .unary op (x.toExpr s) s
  | .binary op l r => .binary op (l.toExpr s) (r.toExpr s) s
  | .present name => .present name s s
  | .among x set => .among (x.toExpr s) (toExprs s set) s
  | .like x p => .like (x.toExpr s) p s
  | .call name args => .call name (toExprs s args) s

/-- A list of trees as expressions with one span at all nodes. -/
def Tree.toExprs (s : Span) : List Tree → List Expr
  | [] => []
  | t :: ts => t.toExpr s :: toExprs s ts

end

/-- The trees of a list one by one. -/
theorem Tree.toExprs_eq_map (s : Span) (ts : List Tree) : toExprs s ts = ts.map (toExpr s) := by
  induction ts with
  | nil => rfl
  | cons t ts ih => rw [toExprs, ih, List.map_cons]

namespace Expr

/-- With one span at all nodes nothing is left but the tree. -/
theorem mapSpans_const (s : Span) (e : Expr) : e.mapSpans (fun _ => s) = e.tree.toExpr s := by
  have hlist {es : List Expr} (h : ∀ c ∈ es, c.mapSpans (fun _ => s) = c.tree.toExpr s) :
      es.map (mapSpans fun _ => s) = Tree.toExprs s (trees es) := by
    rw [trees_eq_map, Tree.toExprs_eq_map, List.map_map]
    exact List.map_congr_left h
  induction e using operandInduction with
  | literal | attr | present => rfl
  | unary op x s ih | like x p s ih => rw [mapSpans, tree, Tree.toExpr, ih]
  | binary op l r s ihl ihr => rw [mapSpans, tree, Tree.toExpr, ihl, ihr]
  | among x set s ih ihset =>
    rw [mapSpans, tree, Tree.toExpr, ih, mapSpansList_eq_map, hlist ihset]
  | call name args s ih => rw [mapSpans, tree, Tree.toExpr, mapSpansList_eq_map, hlist ih]

/-- **Expressions with one tree agree** in every environment on the value, or on the cause of the
error. -/
theorem eval_of_tree_eq {e e' : Expr} (h : e.tree = e'.tree) (env : Environment) :
    (e.eval env).mapError (·.cause) = (e'.eval env).mapError (·.cause) := by
  have hmapped : e.mapSpans (fun _ => .detached) = e'.mapSpans (fun _ => .detached) := by
    rw [mapSpans_const, mapSpans_const, h]
  have hcause (outcome : Except EvalError Value) :
      (mapBlame (fun _ => .detached) outcome).mapError (·.cause) = outcome.mapError (·.cause) := by
    cases outcome <;> rfl
  rw [← hcause, ← eval_mapSpans, hmapped, eval_mapSpans, hcause]

end Expr

end EventFilter
