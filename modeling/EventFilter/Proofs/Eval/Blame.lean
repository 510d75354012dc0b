import EventFilter.Proofs.Eval.Arguments
import EventFilter.Proofs.Eval.Operator
import EventFilter.Proofs.Registry.Growth
import EventFilter.Proofs.Tree.Nodes

/-!
# The node that is to blame

An evaluation error carries a span, and this is the span of a node of the expression that accounts
for the error: an attribute that is not there, a call that cannot be made, an operand whose value
cannot be converted to what the node above asks of it (`Expr.Asks`), a division by zero, two truth
values put in order, or a call whose function failed (`Expr.Justifies`). As evaluation depends on
the environment alone, what a node accounts for can be seen by evaluating its operands once more.
Main statement: a node with the span of the error justifies its cause
(`Expr.exists_justifies_of_eval_eq_error`).
-/

namespace EventFilter

namespace Expr

/-- **What a node asks of an operand**: that its value, which plays a role, can be converted to a
kind. Of two values that are compared, the one is asked to be an integer if the other is. -/
inductive Asks (env : Environment) : Expr → Expr → Role → Kind → Prop
  /-- NOT and the unary minus -/
  | unary (op x s) : Asks env (.unary op x s) x (.operand op) op.operandKind
  /-- the left operand of arithmetic -/
  | arithmeticLeft (op l r s) :
      Asks env (.binary (.arithmetic op) l r s) l (.left (.arithmetic op)) .integer
  /-- the right operand of arithmetic -/
  | arithmeticRight (op l r s) :
      Asks env (.binary (.arithmetic op) l r s) r (.right (.arithmetic op)) .integer
  /-- the left operand of a connective -/
  | logicalLeft (op l r s) :
      Asks env (.binary (.logical op) l r s) l (.left (.logical op)) .boolean
  /-- the right operand of a connective -/
  | logicalRight (op l r s) :
      Asks env (.binary (.logical op) l r s) r (.right (.logical op)) .boolean
  /-- the left operand of a comparison with an integer -/
  | comparedLeft {op l r s n} : r.eval env = .ok (.integer n) →
      Asks env (.binary (.comparison op) l r s) l (.compared op) .integer
  /-- the right operand of a comparison with an integer -/
  | comparedRight {op l r s n} : l.eval env = .ok (.integer n) →
      Asks env (.binary (.comparison op) l r s) r (.compared op) .integer
  /-- the value that IN looks for where there is an integer -/
  | needle {x set s c n} : c ∈ set → c.eval env = .ok (.integer n) →
      Asks env (.among x set s) x (.compared .eq) .integer
  /-- an element of the list in which IN looks for an integer -/
  | element {x set s c n} : c ∈ set → x.eval env = .ok (.integer n) →
      Asks env (.among x set s) c (.compared .eq) .integer
  /-- an argument of a call, for which the overload declares a kind -/
  | argument {name args s f i c kind} : env.resolve name args.length = some f →
      args[i]? = some c → f.kindAt? i = some kind →
      Asks env (.call name args s) c (.argument (i + 1) f.name) kind

/-- A node asks something of its operands only. -/
theorem Asks.mem_children {env : Environment} {p n : Expr} {role : Role} {kind : Kind}
    (h : Asks env p n role kind) : n ∈ p.children := by
  cases h with
  | unary | arithmeticLeft | logicalLeft | comparedLeft | needle => exact List.mem_cons_self
  | arithmeticRight | logicalRight | comparedRight =>
    exact List.mem_cons_of_mem _ List.mem_cons_self
  | element hc => exact List.mem_cons_of_mem _ hc
  | argument _ hc => exact List.mem_of_getElem? hc

/-- **A node of an expression justifies the cause of an error.** No node justifies an argument that
has no declared kind: a call for which an overload was found has no such argument. -/
inductive Justifies (env : Environment) (e : Expr) : Expr → EvalError.Cause → Prop
  /-- an attribute that is not there -/
  | missing {name s} : env.valueOf name = none →
      Justifies env e (.attr name s) (.missingAttribute name)
  /-- a call of a function that is not known -/
  | unknownFunction {name args s} : env.overloads name = none →
      Justifies env e (.call name args s) (.unknownFunction name)
  /-- a call of a function that is known, but not with so many arguments -/
  | noOverload {name args s fs} : env.overloads name = some fs →
      (∀ f ∈ fs, f.accepts args.length = false) →
      Justifies env e (.call name args s) (.noOverload name args.length)
  /-- a quotient or a remainder whose right operand is zero -/
  | divisionByZero {op l r s v} : op = .div ∨ op = .mod → r.eval env = .ok v →
      v.toInteger = .ok 0 → Justifies env e (.binary (.arithmetic op) l r s) .divisionByZero
  /-- an operand of some node, with a value that cannot be converted to the kind asked of it -/
  | operand {p n role kind v err} : p ∈ e.nodes → Asks env p n role kind →
      n.eval env = .ok v → v.coerce kind = .error err → Justifies env e n (.coercion role err)
  /-- a comparison that puts two truth values in order -/
  | orderedBooleans {op l r s x y} : op.isEquality = false → l.eval env = .ok (.boolean x) →
      r.eval env = .ok (.boolean y) →
      Justifies env e (.binary (.comparison op) l r s) (.orderedBooleans op)
  /-- a call whose function answers its arguments with a failure -/
  | failed {name args s f values err} : env.resolve name args.length = some f →
      ArgumentsTo env f 0 args values → f.body values = .error err →
      Justifies env e (.call name args s) (.failed f.name err)
  /-- a call whose function answers with a value that is not of the declared kind -/
  | result {name args s f values v err} : env.resolve name args.length = some f →
      ArgumentsTo env f 0 args values → f.body values = .ok v →
      v.coerce f.returns = .error err →
      Justifies env e (.call name args s) (.coercion (.result f.name) err)

/-- A node of an operand justifies in the whole expression what it justifies in the operand. -/
theorem Justifies.of_child {env : Environment} {e c n : Expr} {cause : EvalError.Cause}
    (hc : c ∈ e.children) (h : Justifies env c n cause) : Justifies env e n cause := by
  cases h with
  | missing h => exact .missing h
  | unknownFunction h => exact .unknownFunction h
  | noOverload h h' => exact .noOverload h h'
  | divisionByZero hop hv hzero => exact .divisionByZero hop hv hzero
  | operand hp hasks hv herr => exact .operand (mem_nodes_of_child hc hp) hasks hv herr
  | orderedBooleans hop hl hr => exact .orderedBooleans hop hl hr
  | failed hf hargs herr => exact .failed hf hargs herr
  | result hf hargs hv herr => exact .result hf hargs hv herr

/-- **A node is to blame for an error**: it has the span of the error and justifies the cause. -/
def IsBlamed (env : Environment) (e : Expr) (err : EvalError) : Prop :=
  ∃ n ∈ e.nodes, n.span = err.span ∧ Justifies env e n err.cause

variable {env : Environment} {e c n : Expr} {err : EvalError}

/-- Errors of the operands of a node have something to blame there. -/
def OperandsBlamed (env : Environment) (e : Expr) : Prop :=
  ∀ c ∈ e.children, ∀ err, c.eval env = .error err → IsBlamed env c err

/-- What is to blame in an operand is to blame in the whole expression. -/
theorem OperandsBlamed.isBlamed (ih : OperandsBlamed env e) (hc : c ∈ e.children)
    (h : c.eval env = .error err) : IsBlamed env e err := by
  obtain ⟨n, hn, hspan, hn'⟩ := ih c hc err h
  exact ⟨n, mem_nodes_of_child hc hn, hspan, hn'.of_child hc⟩

/-- An operand whose value cannot be converted is to blame. -/
theorem IsBlamed.of_asks {role : Role} {kind : Kind} {v : Value} {e' : CoercionError}
    (hasks : Asks env e n role kind) (hv : n.eval env = .ok v) (he : v.coerce kind = .error e') :
    IsBlamed env e ⟨.coercion role e', n.span⟩ :=
  ⟨n, mem_nodes_of_mem_children hasks.mem_children, rfl,
    .operand e.self_mem_nodes hasks hv he⟩

/-- The expression itself is to blame for what it justifies. -/
theorem IsBlamed.self {cause : EvalError.Cause} (h : Justifies env e e cause) :
    IsBlamed env e ⟨cause, e.span⟩ :=
  ⟨e, e.self_mem_nodes, rfl, h⟩

/-- **A search fails** in one of the elements, or in comparing one with the value looked for. -/
theorem outcome_runAmong_eq_error {needle : Value} {valueSpan span : Span} {set : List Expr}
    (h : (runAmong env needle valueSpan span set).outcome = .error err) :
    ∃ c ∈ set, c.eval env = .error err ∨
      ∃ v, c.eval env = .ok v ∧
        ComparisonOp.eq.eval needle v valueSpan c.span span = .error err := by
  induction set with
  | nil => cases h
  | cons c cs ih =>
    rw [runAmong] at h
    rcases Run.outcome_bind_eq_error_iff.mp h with hc | ⟨v, hv, h⟩
    · exact ⟨c, List.mem_cons_self, .inl hc⟩
    rcases Run.outcome_bind_eq_error_iff.mp h with hcompare | ⟨found, -, h⟩
    · exact ⟨c, List.mem_cons_self, .inr ⟨v, hv, hcompare⟩⟩
    cases found with
    | true => cases h
    | false =>
      obtain ⟨d, hd, hcases⟩ := ih h
      exact ⟨d, List.mem_cons_of_mem c hd, hcases⟩

/-! ### Node by node -/

section nodes

variable {l r x : Expr} {set args : List Expr} {s : Span}

/-- The operand of NOT or of the unary minus fails, or it is to blame for its value. -/
theorem isBlamed_unary {op : UnaryOp} (ih : OperandsBlamed env (unary op x s))
    (h : (unary op x s).eval env = .error err) : IsBlamed env (unary op x s) err := by
  unfold eval run at h
  rcases Run.outcome_bind_eq_error_iff.mp h with hx | ⟨v, hv, hop⟩
  · exact ih.isBlamed List.mem_cons_self hx
  · obtain ⟨e', he, rfl⟩ := UnaryOp.eval_eq_error hop
    exact .of_asks (.unary op x s) hv he

/-- The operands of arithmetic fail, or they or the operation are to blame for their values. -/
theorem isBlamed_arithmetic {op : ArithmeticOp}
    (ih : OperandsBlamed env (binary (.arithmetic op) l r s))
    (h : (binary (.arithmetic op) l r s).eval env = .error err) :
    IsBlamed env (binary (.arithmetic op) l r s) err := by
  unfold eval run at h
  rcases Run.outcome_bind_eq_error_iff.mp h with hl | ⟨a, ha, h⟩
  · exact ih.isBlamed List.mem_cons_self hl
  rcases Run.outcome_bind_eq_error_iff.mp h with hr | ⟨b, hb, hop⟩
  · exact ih.isBlamed (List.mem_cons_of_mem l List.mem_cons_self) hr
  rcases ArithmeticOp.eval_eq_error hop with
    ⟨e', he, rfl⟩ | ⟨e', he, rfl⟩ | ⟨hdivides, hzero, rfl⟩
  · exact .of_asks (.arithmeticLeft op l r s) ha he
  · exact .of_asks (.arithmeticRight op l r s) hb he
  · exact .self (.divisionByZero hdivides hb hzero)

/-- The operands of a comparison fail, or they or the comparison are to blame for their values. -/
theorem isBlamed_comparison {op : ComparisonOp}
    (ih : OperandsBlamed env (binary (.comparison op) l r s))
    (h : (binary (.comparison op) l r s).eval env = .error err) :
    IsBlamed env (binary (.comparison op) l r s) err := by
  unfold eval run at h
  rcases Run.outcome_bind_eq_error_iff.mp h with hl | ⟨a, ha, h⟩
  · exact ih.isBlamed List.mem_cons_self hl
  rcases Run.outcome_bind_eq_error_iff.mp h with hr | ⟨b, hb, hop⟩
  · exact ih.isBlamed (List.mem_cons_of_mem l List.mem_cons_self) hr
  rcases ComparisonOp.eval_eq_error (map_eq_error_iff.mp hop) with
    ⟨n, e', rfl, he, rfl⟩ | ⟨n, e', rfl, he, rfl⟩ | ⟨x, y, rfl, rfl, horder, rfl⟩
  · exact .of_asks (.comparedLeft hb) ha he
  · exact .of_asks (.comparedRight ha) hb he
  · exact .self (.orderedBooleans horder ha hb)

/-- The operands of a connective fail, or they are to blame for their values. -/
theorem isBlamed_logical {op : LogicalOp}
    (ih : OperandsBlamed env (binary (.logical op) l r s))
    (h : (binary (.logical op) l r s).eval env = .error err) :
    IsBlamed env (binary (.logical op) l r s) err := by
  unfold eval run at h
  rcases Run.outcome_bind_eq_error_iff.mp h with hl | ⟨a, ha, h⟩
  · exact ih.isBlamed List.mem_cons_self hl
  rcases Run.outcome_bind_eq_error_iff.mp h with ha' | ⟨p, -, h⟩
  · obtain ⟨e', he, rfl⟩ := Value.booleanFor_eq_error_iff.mp ha'
    exact .of_asks (.logicalLeft op l r s) ha he
  split at h
  · cases h
  rcases Run.outcome_bind_eq_error_iff.mp h with hr | ⟨b, hb, h⟩
  · exact ih.isBlamed (List.mem_cons_of_mem l List.mem_cons_self) hr
  rcases Run.outcome_bind_eq_error_iff.mp h with hb' | ⟨q, -, hdone⟩
  · obtain ⟨e', he, rfl⟩ := Value.booleanFor_eq_error_iff.mp hb'
    exact .of_asks (.logicalRight op l r s) hb he
  · cases hdone

/-- The value or an element of a search fails, or one of them is to blame for its value. -/
theorem isBlamed_among (ih : OperandsBlamed env (among x set s))
    (h : (among x set s).eval env = .error err) : IsBlamed env (among x set s) err := by
  unfold eval run at h
  rcases Run.outcome_bind_eq_error_iff.mp h with hx | ⟨needle, hneedle, h⟩
  · exact ih.isBlamed List.mem_cons_self hx
  obtain ⟨c, hc, herr | ⟨v, hv, hcompare⟩⟩ := outcome_runAmong_eq_error h
  · exact ih.isBlamed (List.mem_cons_of_mem x hc) herr
  rcases ComparisonOp.eval_eq_error hcompare with
    ⟨n, e', rfl, he, rfl⟩ | ⟨n, e', rfl, he, rfl⟩ | ⟨_, _, -, -, hequality, -⟩
  · exact .of_asks (.needle hc hv) hneedle he
  · exact .of_asks (.element hc hneedle) hv he
  · cases hequality

/-- A call cannot be made, or one of its arguments fails or is to blame for its value, or the call
is to blame for what its function answers. -/
theorem isBlamed_call {name : String} (ih : OperandsBlamed env (call name args s))
    (h : (call name args s).eval env = .error err) : IsBlamed env (call name args s) err := by
  rcases eval_call_eq_error h with ⟨hnone, rfl⟩ | ⟨fs, hfs, hselect, rfl⟩ | ⟨f, hf, hcases⟩
  · exact .self (.unknownFunction hnone)
  · refine .self (.noOverload hfs fun f hmem => Bool.eq_false_iff.mpr fun haccepts => ?_)
    obtain ⟨g, hg⟩ := Registry.exists_select_iff.mpr ⟨f, hmem, haccepts⟩
    rw [hselect] at hg
    cases hg
  rcases hcases with ⟨c, hc, herr⟩ | ⟨i, c, kind, v, e', hc, hkind, hv, he, rfl⟩ |
    ⟨values, hvalues, hinvoked⟩
  · exact ih.isBlamed hc herr
  · exact .of_asks (.argument hf hc hkind) hv he
  · rcases Invocation.outcome_eq_error hinvoked with ⟨e', he, rfl⟩ | ⟨v, e', hv, he, rfl⟩
    · exact .self (.failed hf hvalues he)
    · exact .self (.result hf hvalues hv he)

end nodes

/-- **A node is to blame for every error.** -/
theorem isBlamed_of_eval_eq_error (h : e.eval env = .error err) : IsBlamed env e err := by
  induction e using childInduction generalizing err with
  | node e ih =>
    have below : OperandsBlamed env e := fun c hc _ => ih c hc
    cases e with
    | literal | present => cases h
    | attr name s =>
      unfold eval run at h
      split at h
      · cases h
      · rename_i hnone
        cases h
        exact .self (.missing hnone)
    | unary => exact isBlamed_unary below h
    | like x p s =>
      unfold eval run at h
      rcases Run.outcome_bind_eq_error_iff.mp h with hx | ⟨v, -, hdone⟩
      · exact below.isBlamed List.mem_cons_self hx
      · cases hdone
    | among => exact isBlamed_among below h
    | call => exact isBlamed_call below h
    | binary op l r s =>
      cases op with
      | arithmetic => exact isBlamed_arithmetic below h
      | comparison => exact isBlamed_comparison below h
      | logical => exact isBlamed_logical below h

/-- **An error points at the node that caused it.** Its span is that of a node of the expression,
and this node justifies its cause, and so its sort and its message. -/
theorem exists_justifies_of_eval_eq_error (h : e.eval env = .error err) :
    ∃ n ∈ e.nodes, n.span = err.span ∧ Justifies env e n err.cause :=
  isBlamed_of_eval_eq_error h

/-- An argument of the wrong kind, deep in a list. -/
theorem exists_justifies_of_eval_eq_error_argument :
    let left := Overload.define "left" [.string, .integer] none .string fun _ => .ok (.string "")
    let env : Environment :=
      ⟨fun name => if name = "flag" then some (.boolean true) else some (.integer 3),
        fun _ => some [left]⟩
    let source : Source := ⟨0, "n IN (1, LEFT('abc', flag))"⟩
    let call := Expr.call "LEFT"
      [.literal (.string "abc") ⟨source, 14, 19⟩, .attr "flag" ⟨source, 21, 25⟩] ⟨source, 9, 26⟩
    let e := Expr.among (.attr "n" ⟨source, 0, 1⟩) [.literal (.integer 1) ⟨source, 7, 8⟩, call]
      ⟨source, 0, 27⟩
    let err : EvalError :=
      ⟨.coercion (.argument 2 left.name) ⟨.boolean true, .integer⟩, ⟨source, 21, 25⟩⟩
    e.eval env = .error err ∧ ∃ n ∈ e.nodes, n.span = err.span ∧ Justifies env e n err.cause := by
  intro left env source call e err
  have h : e.eval env = .error err := by rfl
  exact ⟨h, exists_justifies_of_eval_eq_error h⟩

end Expr

end EventFilter
