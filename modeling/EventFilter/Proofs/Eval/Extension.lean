import EventFilter.Proofs.Eval.Arguments
import EventFilter.Proofs.Tree.Nodes

/-!
# Environments with more attributes

An attribute that is not there can be noticed in two ways: EXISTS asks for it, and reading it is a
failure that ends the evaluation. So without EXISTS nothing but this failure depends on which
attributes are missing. Each step of a run in an environment is the same in an environment with more
attributes (`Environment.Extends`), up to the first attribute that is missing in the former one
(`Run.Extends`).
Main statement: with more attributes the outcome is the same, unless an attribute was missing
(`Expr.eval_eq_of_extends`).
-/

namespace EventFilter

/-- **An environment extends another one**: it has the same functions, and every attribute of the
other one with the same value. -/
structure Environment.Extends (env env' : Environment) : Prop where
  overloads : env'.overloads = env.overloads
  valueOf : ∀ name v, env.valueOf name = some v → env'.valueOf name = some v

namespace Run

variable {α β : Type} {x x' : Run α} {f f' : α → Run β}

/-- A run is settled if it did not end with an attribute that is not there. -/
def IsSettled (x : Run α) : Prop := ∀ name span, x.outcome ≠ .error ⟨.missingAttribute name, span⟩

/-- **A run extends another one**: the other one, if it is settled, has nothing to be added. -/
def Extends (x x' : Run α) : Prop := x.IsSettled → x' = x

/-- A run extends itself. -/
theorem Extends.refl (x : Run α) : Extends x x := fun _ => rfl

/-- **Runs that go on** extend each other if their parts do. -/
theorem Extends.bind (hx : Extends x x') (hf : ∀ a, x.outcome = .ok a → Extends (f a) (f' a)) :
    Extends (x >>= f) (x' >>= f') := by
  intro hsettled
  have hfirst : x.IsSettled := fun name span hmissing =>
    hsettled name span (outcome_bind_eq_error_iff.mpr (.inl hmissing))
  rw [hx hfirst]
  cases ha : x.outcome with
  | error e => rw [bind_of_outcome_eq_error ha, bind_of_outcome_eq_error ha]
  | ok a =>
    have hrest : (f a).IsSettled := fun name span hmissing =>
      hsettled name span (outcome_bind_eq_error_iff.mpr (.inr ⟨a, ha, hmissing⟩))
    rw [bind_of_outcome_eq_ok ha, bind_of_outcome_eq_ok ha, hf a ha hrest]

/-- What follows is the same if it begins with the same value. -/
theorem Extends.andThen (hx : Extends x x') : Extends (x >>= f) (x' >>= f) :=
  hx.bind fun a _ => .refl (f a)

end Run

namespace Expr

open Run (Extends)

variable {env env' : Environment} {e : Expr}

/-- Whether a node asks if an attribute is there. -/
def isPresence : Expr → Bool
  | present .. => true
  | _ => false

/-- A search extends another one if its elements do. -/
theorem extends_runAmong {needle : Value} {valueSpan span : Span} {set : List Expr}
    (h : ∀ c ∈ set, Extends (c.run env) (c.run env')) :
    Extends (runAmong env needle valueSpan span set) (runAmong env' needle valueSpan span set) := by
  induction set with
  | nil => exact .refl _
  | cons c cs ih =>
    obtain ⟨hc, hcs⟩ := List.forall_mem_cons.mp h
    rw [runAmong, runAmong]
    apply hc.bind
    intro v _
    apply (Extends.refl _).bind
    intro found _
    cases found with
    | true => exact .refl _
    | false => exact ih hcs

/-- Arguments extend others if each of them does. -/
theorem extends_runArguments {f : Overload} {index : Nat} {args : List Expr}
    (h : ∀ c ∈ args, Extends (c.run env) (c.run env')) :
    Extends (runArguments env f index args) (runArguments env' f index args) := by
  induction args generalizing index with
  | nil => exact .refl _
  | cons c cs ih =>
    obtain ⟨hc, hcs⟩ := List.forall_mem_cons.mp h
    cases hkind : f.kindAt? index with
    | none =>
      rw [runArguments, runArguments, hkind]
      exact .refl _
    | some kind =>
      rw [runArguments_cons hkind, runArguments_cons hkind]
      apply hc.bind
      intro v _
      apply (Extends.refl _).bind
      intro w _
      exact (ih hcs).andThen

/-- Reading an attribute is the same where it has the same value, and not settled where it is
missing. -/
theorem extends_run_attr (henv : env.Extends env') (name : String) (s : Span) :
    Extends (run env (.attr name s)) (run env' (.attr name s)) := by
  cases hvalue : env.valueOf name with
  | some v =>
    rw [run, run, hvalue, henv.valueOf name v hvalue]
    exact .refl _
  | none =>
    intro hsettled
    rw [run, hvalue] at hsettled
    exact absurd rfl (hsettled name s)

/-- **More attributes extend a run**, if it does not ask whether there are any. -/
theorem extends_run (henv : env.Extends env') (hpresence : ∀ n ∈ e.nodes, n.isPresence = false) :
    Extends (e.run env) (e.run env') := by
  induction e using childInduction with
  | node e ih =>
    have hrun (c : Expr) (hc : c ∈ e.children) : Extends (c.run env) (c.run env') :=
      ih c hc fun n hn => hpresence n (mem_nodes_of_child hc hn)
    cases e with
    | present => cases hpresence _ (self_mem_nodes _)
    | literal => exact .refl _
    | attr name s => exact extends_run_attr henv name s
    | unary op x s =>
      rw [run, run]
      exact (hrun x List.mem_cons_self).andThen
    | like x p s =>
      rw [run, run]
      exact (hrun x List.mem_cons_self).andThen
    | binary op l r s =>
      have hl := hrun l List.mem_cons_self
      have hr := hrun r (List.mem_cons_of_mem l List.mem_cons_self)
      cases op with
      | arithmetic op | comparison op =>
        rw [run, run]
        apply hl.bind
        intro a _
        exact hr.andThen
      | logical op =>
        rw [run, run]
        apply hl.bind
        intro a _
        apply (Extends.refl _).bind
        intro p _
        split
        · exact .refl _
        · exact hr.andThen
    | among x set s =>
      obtain ⟨hx, hset⟩ := List.forall_mem_cons.mp hrun
      rw [run, run]
      apply hx.bind
      intro needle _
      exact extends_runAmong hset
    | call name args s =>
      have hsame : env'.resolve name args.length = env.resolve name args.length := by
        rw [Environment.resolve, Environment.resolve, henv.overloads]
      cases hresolve : env.resolve name args.length with
      | none =>
        have hresolve' := hsame.trans hresolve
        rw [run_call_of_resolve_eq_none hresolve, run_call_of_resolve_eq_none hresolve',
          henv.overloads]
        exact .refl _
      | some f =>
        rw [run_call hresolve, run_call (hsame.trans hresolve)]
        exact (extends_runArguments hrun).andThen

/-- **More attributes can only repair what was missing.** If an expression without EXISTS comes to a
value, or to an error that is not of the sort of missing attributes, then in every environment with
more attributes it comes to the same value or error, with the same invocations. -/
theorem eval_eq_of_extends (henv : env.Extends env')
    (hpresence : ∀ n ∈ e.nodes, ∀ name nameSpan span, n ≠ .present name nameSpan span)
    (h : ∀ err, e.eval env = .error err → err.kind ≠ .missingAttribute) :
    e.eval env' = e.eval env ∧ (e.run env').invocations = (e.run env).invocations := by
  have hsettled : (e.run env).IsSettled := fun name span hmissing => h _ hmissing rfl
  have hnone : ∀ n ∈ e.nodes, n.isPresence = false := by
    intro n hn
    cases n with
    | present name nameSpan span => exact absurd rfl (hpresence _ hn name nameSpan span)
    | literal | attr | unary | binary | among | like | call => rfl
  have hrun : e.run env' = e.run env := extends_run henv hnone hsettled
  exact ⟨by rw [eval, eval, hrun], by rw [hrun]⟩

/-- A division by zero in front of an attribute that is missing, and then is there. -/
theorem eval_eq_of_extends_division :
    let quotient := Expr.binary (.arithmetic .div) (.attr "n" .detached)
      (.literal (.integer 0) .detached) .detached
    let e := Expr.binary (.comparison .lt) quotient (.attr "extra" .detached) .detached
    let env : Environment :=
      ⟨fun name => if name = "n" then some (.string "7") else none, fun _ => none⟩
    let env' : Environment := ⟨fun name =>
      if name = "n" then some (.string "7") else if name = "extra" then some (.integer 1) else none,
      fun _ => none⟩
    env.Extends env' ∧ (∀ n ∈ e.nodes, ∀ name nameSpan span, n ≠ .present name nameSpan span) ∧
      e.eval env = .error ⟨.divisionByZero, .detached⟩ ∧
      e.eval env' = e.eval env ∧ (e.run env').invocations = (e.run env).invocations := by
  intro quotient e env env'
  have henv : env.Extends env' := by
    refine ⟨rfl, fun name v hv => ?_⟩
    by_cases hname : name = "n"
    · simpa only [env, env', if_pos hname] using hv
    · simp only [env, if_neg hname] at hv
      cases hv
  have hpresence : ∀ n ∈ e.nodes, ∀ name nameSpan span, n ≠ .present name nameSpan span := by
    intro n hn name nameSpan span
    rintro rfl
    have hall : ∀ n ∈ e.nodes, n.isPresence = false := by decide
    cases hall _ hn
  have herr : e.eval env = .error ⟨.divisionByZero, .detached⟩ := by rfl
  have hkind : ∀ err, e.eval env = .error err → err.kind ≠ .missingAttribute := by
    intro err h
    obtain rfl := Except.error.inj (herr.symm.trans h)
    nofun
  exact ⟨henv, hpresence, herr, eval_eq_of_extends henv hpresence hkind⟩

end Expr

end EventFilter
