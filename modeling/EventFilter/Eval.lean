import EventFilter.EvalError
import EventFilter.Expr
import EventFilter.Registry

/-!
# Evaluation

An expression is evaluated in an environment, which says what the attributes are and which functions
there are. Operands are evaluated from left to right and the first failure ends the evaluation. A
connective does not evaluate its right operand if the left one decides it, IN stops at the first
equal element, and a call evaluates its arguments only after an overload has been found for it.

`Expr.run` yields more than the outcome: it also lists the functions that were invoked, with their
arguments and in order, so that what is said about the outcome and what is said about invocations is
said of one definition. Functions are maps, so the outcome depends on the environment alone.
-/

namespace EventFilter

/-- **What an expression is evaluated in**: the values of the attributes that are there, and the
overloads under each name of a function. -/
structure Environment where
  valueOf : String → Option Value
  overloads : String → Option (List Overload)

/-- The invocation of a function: the call it was made for, the overload and the arguments. -/
structure Invocation where
  site : Expr
  overload : Overload
  args : List Value

/-- **The run of an evaluation**: what was invoked on the way, and what came out. -/
structure Run (α : Type) where
  invocations : List Invocation
  outcome : Except EvalError α

namespace Run

/-- A run that does nothing. -/
def done {α : Type} (a : α) : Run α := ⟨[], .ok a⟩

/-- A run that fails. -/
def fail {α : Type} (cause : EvalError.Cause) (span : Span) : Run α := ⟨[], .error ⟨cause, span⟩⟩

/-- A run of one step that invokes nothing. -/
def lift {α : Type} (outcome : Except EvalError α) : Run α := ⟨[], outcome⟩

/-- A run that goes on with the value it came to; a failure ends it. -/
def andThen {α β : Type} (x : Run α) (f : α → Run β) : Run β :=
  match x.outcome with
  | .ok a => ⟨x.invocations ++ (f a).invocations, (f a).outcome⟩
  | .error e => ⟨x.invocations, .error e⟩

instance : Monad Run where
  pure := done
  bind := andThen

end Run

/-- A value as an integer, or the error of a node that plays a role. -/
def Value.integerFor (v : Value) (role : Role) (span : Span) : Except EvalError Int32 :=
  v.toInteger.mapError fun e => ⟨.coercion role e, span⟩

/-- A value as a truth value, or the error of a node that plays a role. -/
def Value.booleanFor (v : Value) (role : Role) (span : Span) : Except EvalError Bool :=
  v.toBoolean.mapError fun e => ⟨.coercion role e, span⟩

/-- A truth value is one in every role. -/
@[simp] theorem Value.booleanFor_boolean (b : Bool) (role : Role) (span : Span) :
    (Value.boolean b).booleanFor role span = .ok b := rfl

/-- An integer is not a truth value. -/
@[simp] theorem Value.booleanFor_integer (n : Int32) (role : Role) (span : Span) :
    (Value.integer n).booleanFor role span =
      .error ⟨.coercion role ⟨.integer n, .boolean⟩, span⟩ := rfl

/-- A text is not a truth value. -/
@[simp] theorem Value.booleanFor_string (s : String) (role : Role) (span : Span) :
    (Value.string s).booleanFor role span =
      .error ⟨.coercion role ⟨.string s, .boolean⟩, span⟩ := rfl

/-- The result of an operator on the value of its operand, which stands at `span`. -/
def UnaryOp.eval (op : UnaryOp) (v : Value) (span : Span) : Except EvalError Value :=
  match op with
  | .not => (v.booleanFor (.operand .not) span).map fun b => .boolean (!b)
  | .negate => (v.integerFor (.operand .negate) span).map fun n => .integer (-n)

/-- The result of arithmetic on two values, with the spans of the operands and of the node. -/
def ArithmeticOp.eval (op : ArithmeticOp) (a b : Value) (left right node : Span) :
    Except EvalError Value := do
  let m ← a.integerFor (.left (.arithmetic op)) left
  let n ← b.integerFor (.right (.arithmetic op)) right
  match op.apply? m n with
  | some k => return .integer k
  | none => throw ⟨.divisionByZero, node⟩

/-- **The comparison of two values**, with the spans of the operands and of the node. Truth values
can only be equal or not, with an integer the other value has to be one too, and all else is
compared as text, character by character. -/
def ComparisonOp.eval (op : ComparisonOp) (a b : Value) (left right node : Span) :
    Except EvalError Bool :=
  match a, b with
  | .boolean x, .boolean y =>
    if op.isEquality then .ok (op.test (compare x y)) else .error ⟨.orderedBooleans op, node⟩
  | a, b =>
    if a.kind = .integer ∨ b.kind = .integer then do
      let m ← a.integerFor (.compared op) left
      let n ← b.integerFor (.compared op) right
      return op.test (compare m n)
    else .ok (op.test (compare a.text b.text))

namespace Expr

mutual

/-- **The run of an expression in an environment.** -/
def run (env : Environment) : Expr → Run Value
  | literal v _ => .done v
  | attr name span =>
    match env.valueOf name with
    | some v => .done v
    | none => .fail (.missingAttribute name) span
  | unary op x _ => do
    let v ← run env x
    .lift (op.eval v x.span)
  | binary (.arithmetic op) l r span => do
    let a ← run env l
    let b ← run env r
    .lift (op.eval a b l.span r.span span)
  | binary (.comparison op) l r span => do
    let a ← run env l
    let b ← run env r
    .lift ((op.eval a b l.span r.span span).map .boolean)
  | binary (.logical op) l r _ => do
    let a ← run env l
    let p ← .lift (a.booleanFor (.left (.logical op)) l.span)
    if op.decidedBy = some p then
      .done (.boolean p)
    else
      let b ← run env r
      let q ← .lift (b.booleanFor (.right (.logical op)) r.span)
      .done (.boolean (op.apply p q))
  | present name _ _ => .done (.boolean (env.valueOf name).isSome)
  | among x set span => do
    let needle ← run env x
    runAmong env needle x.span span set
  | like x pattern _ => do
    let v ← run env x
    .done (.boolean (pattern.accepts v.text))
  | call name args span =>
    match env.overloads name with
    | none => .fail (.unknownFunction name) span
    | some fs =>
      match Registry.select fs args.length with
      | none => .fail (.noOverload name args.length) span
      | some f => do
        let values ← runArguments env f 0 args
        let v ← ⟨[⟨call name args span, f, values⟩],
          (f.body values).mapError fun e => ⟨.failed f.name e, span⟩⟩
        .lift ((v.coerce f.returns).mapError fun e => ⟨.coercion (.result f.name) e, span⟩)

/-- The run of a test whether a value is among those of a list, given the spans of the value and of
the whole node. -/
def runAmong (env : Environment) (needle : Value) (valueSpan span : Span) : List Expr → Run Value
  | [] => .done (.boolean false)
  | e :: es => do
    let v ← run env e
    let found ← .lift (ComparisonOp.eq.eval needle v valueSpan e.span span)
    if found then .done (.boolean true) else runAmong env needle valueSpan span es

/-- The run of the arguments of a call from the one at `index` on, each converted to the kind that
the overload declares for it. -/
def runArguments (env : Environment) (f : Overload) (index : Nat) : List Expr → Run (List Value)
  | [] => .done []
  | e :: es =>
    match f.kindAt? index with
    | none => .fail (.unexpectedArgument (index + 1) f.name) e.span
    | some kind => do
      let v ← run env e
      let w ← .lift ((v.coerce kind).mapError fun err =>
        ⟨.coercion (.argument (index + 1) f.name) err, e.span⟩)
      let ws ← runArguments env f (index + 1) es
      .done (w :: ws)

end

/-- **The value of an expression in an environment.** -/
def eval (e : Expr) (env : Environment) : Except EvalError Value := (e.run env).outcome

end Expr

end EventFilter
