import Mathlib.Data.List.Flatten
import Mathlib.Data.List.Perm.Basic
import EventFilter.Proofs.Eval.Course
import EventFilter.Proofs.Tree.Nodes

/-!
# The order of invocations

Functions are invoked in the order in which the calls of an expression stand in postorder, the
arguments before their call (`Expr.calls`), and each call at most once. Nothing is invoked after an
error. In an expression without AND, OR and IN no call is left out but for an error, so the
invocations are those of the first calls, and of all calls if the expression comes to a value.
Main statement: all of this (`Expr.invocations_in_order`).
-/

namespace EventFilter

namespace Expr

/-! ### Calls in postorder -/

mutual

/-- **The calls in an expression, in postorder**: operands from left to right, for IN the value and
then the list, and the arguments of a call before it. -/
def calls : Expr → List Expr
  | literal .. | attr .. | present .. => []
  | unary _ x _ | like x _ _ => calls x
  | binary _ l r _ => calls l ++ calls r
  | among x set _ => calls x ++ callsOfList set
  | call name args s => callsOfList args ++ [call name args s]

/-- The calls in the expressions of a list, one expression after the other. -/
def callsOfList : List Expr → List Expr
  | [] => []
  | e :: es => calls e ++ callsOfList es

end

/-- The calls in a list are those in its members. -/
theorem callsOfList_eq (es : List Expr) : callsOfList es = es.flatMap calls := by
  induction es with
  | nil => rfl
  | cons e es ih => rw [callsOfList, ih, List.flatMap_cons]

/-- The calls in an expression: those in its operands, and then the expression if it is a call. -/
theorem calls_eq (e : Expr) : e.calls = e.children.flatMap calls ++ [e].filter isCall := by
  cases e <;> simp [calls, children, callsOfList_eq, isCall, List.filter_cons]

/-- **The calls in an expression** are those of its nodes that are calls, each as often. -/
theorem calls_perm (e : Expr) : e.calls.Perm (e.nodes.filter isCall) := by
  induction e using childInduction with
  | node e ih =>
    have hchildren :
        (e.children.flatMap calls).Perm ((e.children.flatMap nodes).filter isCall) := by
      rw [List.filter_flatMap]
      exact .flatMap_left _ ih
    have hnodes : e.nodes.filter isCall =
        [e].filter isCall ++ (e.children.flatMap nodes).filter isCall := by
      rw [← List.filter_append, List.singleton_append, ← nodes_eq]
    rw [calls_eq, hnodes]
    exact List.perm_append_comm.trans (hchildren.append_left _)

/-! ### Where functions are invoked -/

/-- **The calls for which functions are invoked**, in the order of the invocations. -/
def sites (e : Expr) (env : Environment) : List Expr := (e.run env).invocations.map (·.site)

variable {env : Environment} {e : Expr} {operands : List Expr} {own : Option Invocation}

/-- In the course of a node its operands invoke functions, and then the node may do so. -/
theorem Course.sites_eq (h : Course env e operands own) :
    e.sites env = operands.flatMap (·.sites env) ++ own.toList.map (·.site) := by
  rw [sites, h.invocations, List.map_append, List.map_flatMap]
  rfl

/-- An invocation in the course of a node is one of an operand, or that of the node itself. -/
theorem Course.mem_invocations_iff (h : Course env e operands own) {i : Invocation} :
    i ∈ (e.run env).invocations ↔ (∃ c ∈ operands, i ∈ (c.run env).invocations) ∨ i ∈ own := by
  rw [h.invocations, List.mem_append, List.mem_flatMap, Option.mem_toList]
  rfl

/-- A node with an invocation of its own is the call for which this is made. -/
theorem Course.map_site_own (h : Course env e operands own) (hown : own.isSome = e.isCall) :
    own.toList.map (·.site) = [e].filter isCall := by
  cases own with
  | none => simp [← hown]
  | some i =>
    obtain ⟨⟨_, _⟩, -, -⟩ := h.invoked i rfl
    rfl

/-- The operands of a node come to values, unless the node fails with one of them. -/
theorem Course.exists_eval_eq_ok (h : Course env e operands own)
    (hne : own = none → ∀ err, e.eval env ≠ .error err) {c : Expr} (hc : c ∈ operands) :
    ∃ v, c.eval env = .ok v := by
  cases hvalue : c.eval env with
  | ok v => exact ⟨v, rfl⟩
  | error err =>
    obtain ⟨hnone, herr⟩ := h.fails c hc err hvalue
    exact absurd herr (hne hnone err)

/-- **Functions are invoked in the order of the calls**, and for each call at most once. -/
theorem sites_sublist_calls (env : Environment) (e : Expr) : (e.sites env).Sublist e.calls := by
  induction e using childInduction with
  | node e ih =>
    obtain ⟨operands, own, h⟩ := e.exists_course env
    rw [h.sites_eq, calls_eq]
    apply List.Sublist.append
    · have hoperands : (operands.flatMap (·.sites env)).Sublist (operands.flatMap calls) :=
        .flatMap_right _ fun c hc => ih c (h.leading.subset hc)
      exact hoperands.trans (h.leading.sublist.flatMap calls)
    · cases own with
      | none => exact List.nil_sublist _
      | some i =>
        obtain ⟨⟨_, _⟩, -, -⟩ := h.invoked i rfl
        exact List.Sublist.refl _

/-- **Each invocation is that of a call**, with the overload and the arguments of this call. -/
theorem isOf_of_mem_invocations {i : Invocation} (hi : i ∈ (e.run env).invocations) :
    i.IsOf env i.site := by
  induction e using childInduction with
  | node e ih =>
    obtain ⟨operands, own, h⟩ := e.exists_course env
    rcases h.mem_invocations_iff.mp hi with ⟨c, hc, hi⟩ | hi
    · exact ih c (h.leading.subset hc) hi
    · obtain ⟨⟨hresolve, hargs⟩, -, -⟩ := h.invoked i hi
      exact .call hresolve hargs

/-! ### Errors -/

/-- **Evaluation comes to a node**, with some invocations made before: the node is the expression
itself, or evaluation comes to it in an operand, after the operands in front. -/
inductive ComesTo (env : Environment) (n : Expr) : Expr → List Invocation → Prop
  /-- the expression itself -/
  | self : ComesTo env n n []
  /-- in an operand -/
  | operand {e before c after own earlier} : Course env e (before ++ c :: after) own →
      ComesTo env n c earlier →
      ComesTo env n e ((before.flatMap fun d => (d.run env).invocations) ++ earlier)

/-- **Nothing is invoked after an error**: it ends the evaluation of the whole expression. -/
theorem ComesTo.invocations_eq {n : Expr} {earlier : List Invocation} {err : EvalError}
    (h : ComesTo env n e earlier) (herr : n.eval env = .error err) :
    (e.run env).invocations = earlier ++ (n.run env).invocations ∧ e.eval env = .error err := by
  induction h with
  | self => exact ⟨rfl, herr⟩
  | @operand e before c after own earlier hcourse _ ih =>
    obtain ⟨hinvocations, hc⟩ := ih
    obtain ⟨rfl, he⟩ := hcourse.fails c (List.mem_append_right _ List.mem_cons_self) err hc
    have hlast : after = [] := by
      cases after with
      | nil => rfl
      | cons d ds =>
        have hgoesOn := (List.pairwise_append.mp hcourse.goesOn).2.1
        obtain ⟨v, hv⟩ := List.rel_of_pairwise_cons hgoesOn List.mem_cons_self
        rw [hc] at hv
        cases hv
    refine ⟨?_, he⟩
    rw [hcourse.invocations, hlast, List.flatMap_append, List.flatMap_singleton, hinvocations,
      Option.toList_none, List.append_nil, List.append_assoc]

/-- **An invocation that fails** fails the whole expression. -/
theorem eval_eq_error_of_mem_invocations {i : Invocation} {err : EvalError}
    (hi : i ∈ (e.run env).invocations) (herr : i.outcome = .error err) :
    e.eval env = .error err := by
  induction e using childInduction with
  | node e ih =>
    obtain ⟨operands, own, h⟩ := e.exists_course env
    rcases h.mem_invocations_iff.mp hi with ⟨c, hc, hi⟩ | hi
    · exact (h.fails c hc err (ih c (h.leading.subset hc) hi)).2
    · obtain ⟨-, -, heval⟩ := h.invoked i hi
      rw [heval, herr]

/-- An invocation for an expression that comes to a value has come to one. -/
theorem exists_outcome_of_mem_invocations {i : Invocation} {v : Value}
    (hi : i ∈ (e.run env).invocations) (hv : e.eval env = .ok v) : ∃ w, i.outcome = .ok w := by
  cases hi' : i.outcome with
  | ok w => exact ⟨w, rfl⟩
  | error err =>
    rw [eval_eq_error_of_mem_invocations hi hi'] at hv
    cases hv

/-- **An invocation that fails is the last**: each before another one has come to a value. -/
theorem pairwise_invocations (env : Environment) (e : Expr) :
    (e.run env).invocations.Pairwise fun i _ => ∃ v, i.outcome = .ok v := by
  induction e using childInduction with
  | node e ih =>
    obtain ⟨operands, own, h⟩ := e.exists_course env
    rw [h.invocations, List.pairwise_append, List.pairwise_flatMap]
    refine ⟨⟨fun c hc => ih c (h.leading.subset hc), ?_⟩, ?_, ?_⟩
    · refine h.goesOn.imp fun {c d} hvalue i hi j _ => ?_
      obtain ⟨v, hv⟩ := hvalue
      exact exists_outcome_of_mem_invocations hi hv
    · cases own with
      | none => exact .nil
      | some i => exact List.pairwise_singleton _ _
    · intro i hi j hj
      obtain ⟨c, hc, hi⟩ := List.mem_flatMap.mp hi
      have hne (hnone : own = none) (err : EvalError) : e.eval env ≠ .error err := by
        subst hnone
        cases hj
      obtain ⟨v, hv⟩ := h.exists_eval_eq_ok hne hc
      exact exists_outcome_of_mem_invocations hi hv

/-! ### Expressions without AND, OR and IN -/

/-- Lists in place of the first members of a list are the first part of the lists in place of all,
if the last of them is the first part of its list and the others are all of theirs. -/
theorem flatMap_isPrefix {α β : Type} {f g : α → List β} {l l' : List α} (h : l <+: l')
    (hall : l.Pairwise fun a _ => f a = g a) (hpart : ∀ a ∈ l, f a <+: g a) :
    l.flatMap f <+: l'.flatMap g := by
  induction l generalizing l' with
  | nil => exact List.nil_prefix
  | cons a as ih =>
    obtain ⟨rest, rfl⟩ := h
    obtain ⟨hfirst, hall⟩ := List.pairwise_cons.mp hall
    obtain ⟨ha, has⟩ := List.forall_mem_cons.mp hpart
    rw [List.cons_append, List.flatMap_cons, List.flatMap_cons]
    cases as with
    | nil =>
      rw [List.flatMap_nil, List.append_nil]
      exact ha.trans (List.prefix_append _ _)
    | cons b bs =>
      rw [hfirst b List.mem_cons_self, List.prefix_append_right_inj]
      exact ih ⟨rest, rfl⟩ hall has

/-- A node with all its operands evaluated, and invoked if it is a call, invokes all of its calls if
the operands invoke theirs. -/
theorem Course.sites_eq_calls (h : Course env e e.children own) (hown : own.isSome = e.isCall)
    (hchildren : ∀ c ∈ e.children, c.sites env = c.calls) : e.sites env = e.calls := by
  rw [h.sites_eq, calls_eq, h.map_site_own hown, List.flatMap_congr hchildren]

/-- **Without AND, OR and IN** the invocations are those of the first calls, and of all calls if the
expression comes to a value. -/
theorem sites_of_forall_isLazy (env : Environment) (hlazy : ∀ n ∈ e.nodes, n.isLazy = false) :
    e.sites env <+: e.calls ∧ ∀ v, e.eval env = .ok v → e.sites env = e.calls := by
  induction e using childInduction with
  | node e ih =>
    obtain ⟨operands, own, h⟩ := e.exists_course env
    have hchild (c : Expr) (hc : c ∈ e.children) :=
      ih c hc fun n hn => hlazy n (mem_nodes_of_child hc hn)
    have hall (hne : own = none → ∀ err, e.eval env ≠ .error err)
        (hoperands : operands = e.children) (hown : own.isSome = e.isCall) :
        e.sites env = e.calls := by
      subst hoperands
      refine h.sites_eq_calls hown fun c hc => ?_
      obtain ⟨v, hv⟩ := h.exists_eval_eq_ok hne hc
      exact (hchild c hc).2 v hv
    constructor
    · cases own with
      | some i =>
        obtain ⟨⟨_, _⟩, hoperands, -⟩ := h.invoked i rfl
        have heq := hall (fun hnone => by cases hnone) hoperands rfl
        simp only [heq, List.prefix_refl]
      | none =>
        rw [h.sites_eq, calls_eq, Option.toList_none, List.map_nil, List.append_nil]
        refine (flatMap_isPrefix h.leading ?_ ?_).trans (List.prefix_append _ _)
        · refine h.goesOn.imp_of_mem fun {c _} hc _ hvalue => ?_
          obtain ⟨v, hv⟩ := hvalue
          exact (hchild c (h.leading.subset hc)).2 v hv
        · exact fun c hc => (hchild c (h.leading.subset hc)).1
    · intro v hv
      obtain ⟨hoperands, hown⟩ := h.complete (hlazy e e.self_mem_nodes) v hv
      refine hall (fun _ err herr => ?_) hoperands hown
      rw [hv] at herr
      cases herr

/-! ### Order and number -/

/-- **Functions are invoked in the order of the calls.** The calls of an expression are its nodes
that are calls; the invocations are for some of these, in postorder and for each at most once, and
each has the overload and the arguments of its call. Evaluation follows courses, and nothing is
invoked after an error: where evaluation comes to a node that fails, the invocations end with those
for this node, and an invocation that fails is the last. Without AND, OR and IN the invocations are
those of the first calls, and of all of them if the expression comes to a value. For a call that is
refused nothing is evaluated: it fails in the same way whatever its arguments are. -/
theorem invocations_in_order (e : Expr) (env : Environment) :
    e.calls.Perm (e.nodes.filter isCall) ∧
    (e.sites env).Sublist e.calls ∧
    (∀ i ∈ (e.run env).invocations, i.IsOf env i.site) ∧
    (∃ operands own, Course env e operands own) ∧
    (∀ n earlier err, ComesTo env n e earlier → n.eval env = .error err →
      (e.run env).invocations = earlier ++ (n.run env).invocations ∧ e.eval env = .error err) ∧
    ((e.run env).invocations.Pairwise fun i _ => ∃ v, i.outcome = .ok v) ∧
    (∀ i ∈ (e.run env).invocations, ∀ err, i.outcome = .error err → e.eval env = .error err) ∧
    ((∀ n ∈ e.nodes, n.isLazy = false) →
      e.sites env <+: e.calls ∧ ∀ v, e.eval env = .ok v → e.sites env = e.calls) ∧
    ∀ name args span, e = .call name args span → env.resolve name args.length = none →
      e.run env = .fail
        (if env.overloads name = none then .unknownFunction name else .noOverload name args.length)
        span := by
  refine ⟨e.calls_perm, e.sites_sublist_calls env, fun i => isOf_of_mem_invocations,
    e.exists_course env, fun n earlier err h herr => h.invocations_eq herr,
    e.pairwise_invocations env, fun i hi err => eval_eq_error_of_mem_invocations hi,
    sites_of_forall_isLazy env, ?_⟩
  rintro name args span rfl hresolve
  exact run_call_of_resolve_eq_none hresolve

/-- A call behind a failing argument is not made, and one with too many arguments makes none. -/
theorem invocations_in_order_failing :
    let first := Expr.call "OK" [] .detached
    let second := Expr.call "NO" [] .detached
    let e := Expr.call "PAIR" [first, second] .detached
    let tooMany := Expr.call "OK" [e] .detached
    let overload (name : String) (parameters : List Kind) (body : Except FunctionError Value) :=
      Overload.define name parameters none .string fun _ => body
    let env : Environment := ⟨fun _ => none, fun name =>
      if name = "OK" then some [overload "OK" [] (.ok (.string ""))]
      else if name = "NO" then some [overload "NO" [] (.error (.missingArgument 1))]
      else some [overload "PAIR" [.string, .string] (.ok (.string ""))]⟩
    (e.sites env = [first, second] ∧ e.calls = [first, second, e]) ∧
      (∀ n ∈ e.nodes, n.isLazy = false) ∧ e.sites env <+: e.calls ∧
      env.resolve "OK" [e].length = none ∧
      tooMany.run env = .fail (.noOverload "OK" 1) .detached := by
  intro first second e tooMany overload env
  have hlazy : ∀ n ∈ e.nodes, n.isLazy = false := by decide
  have hrefused : env.resolve "OK" [e].length = none := by rfl
  obtain ⟨-, -, -, -, -, -, -, hfirst, -⟩ := invocations_in_order e env
  obtain ⟨-, -, -, -, -, -, -, -, hrefuse⟩ := invocations_in_order tooMany env
  exact ⟨⟨rfl, rfl⟩, hlazy, (hfirst hlazy).1, hrefused, hrefuse "OK" [e] .detached rfl hrefused⟩

end Expr

end EventFilter
