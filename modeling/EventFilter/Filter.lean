import EventFilter.Eval
import EventFilter.Event
import EventFilter.Expr.Parse
import EventFilter.Registry.Builtin

/-!
# Filters

A filter is a text that has been parsed once and can be evaluated in many environments. Besides its
value a filter has a verdict: its value has to be a truth value. As a predicate a filter takes every
failure for no match (`Filter.holds_eq_true_iff`).
-/

namespace EventFilter

/-- The environment of an event with some functions. -/
def Environment.ofEvent (event : Event) (functions : Registry) : Environment :=
  { valueOf := event.get?, overloads := functions.lookup }

/-- **A filter**: an expression with the text it came from. -/
structure Filter where
  source : String
  expr : Expr

namespace Filter

instance : BEq Filter := ⟨fun f g => f.source == g.source && f.expr == g.expr⟩

/-- The filter that a source is, with calls checked against some functions. -/
def ofSource (functions : Registry) (source : Source) : Except SyntaxError Filter :=
  (source.parse functions).map fun expr => { source := source.text, expr }

/-- **The filter that a text is.** -/
def compile (functions : Registry) (text : String) : Except SyntaxError Filter :=
  ofSource functions { id := 0, text }

/-- The filter that an expression is, with the text at its span. -/
def ofExpr (expr : Expr) : Filter := { source := expr.span.text, expr }

/-- The value of a filter. -/
def evaluate (f : Filter) (env : Environment) : Except EvalError Value := f.expr.eval env

/-- **The verdict of a filter**: its value, which has to be a truth value. -/
def verdict (f : Filter) (env : Environment) : Except EvalError Bool := do
  let v ← f.evaluate env
  v.booleanFor .filterResult f.expr.span

/-- A filter as a predicate. -/
def holds (f : Filter) (env : Environment) : Bool :=
  match f.verdict env with
  | .ok b => b
  | .error _ => false

/-- A filter holds where its value is true. -/
theorem holds_eq_true_iff {f : Filter} {env : Environment} :
    f.holds env = true ↔ f.evaluate env = .ok (.boolean true) := by
  unfold holds verdict
  cases h : f.evaluate env with
  | error e => simp [bind, Except.bind]
  | ok v =>
    cases v with
    | boolean b => cases b <;> simp [bind, Except.bind]
    | integer n => simp [bind, Except.bind]
    | string s => simp [bind, Except.bind]

end Filter

end EventFilter
