import EventFilter.Outcomes
import EventFilter.Proofs.Eval.Outcome

/-!
# Calls and their arguments

What a call does is said here once, so that statements about evaluation need not go through it
again. A call is refused if no overload takes it; otherwise its arguments are evaluated from left to
right and converted to the declared kinds (`Expr.ArgumentsTo`), and then the function is invoked,
once, with their values (`Expr.run_call`). Main statement: the ways in which a call fails
(`Expr.eval_call_eq_error`).
-/

namespace EventFilter

/-- The overload that a call with `count` arguments takes in an environment. -/
def Environment.resolve (env : Environment) (name : String) (count : Nat) : Option Overload :=
  (env.overloads name).bind (Registry.select · count)

/-- The overload that a call takes declares a kind for each argument. -/
theorem Environment.exists_kindAt?_of_resolve {env : Environment} {name : String} {count i : Nat}
    {f : Overload} (h : env.resolve name count = some f) (hi : i < count) :
    ∃ kind, f.kindAt? i = some kind := by
  obtain ⟨fs, -, hselect⟩ := Option.bind_eq_some_iff.mp h
  have haccepts := (Registry.accepts_of_select hselect).2
  exact Option.isSome_iff_exists.mp (Overload.kindAt?_isSome haccepts hi)

/-- **What an invocation comes to**: the answer of the body as the declared kind, or an error at the
span of the call. -/
def Invocation.outcome (i : Invocation) : Except EvalError Value := do
  let v ← (i.overload.body i.args).mapError fun e => ⟨.failed i.overload.name e, i.site.span⟩
  (v.coerce i.overload.returns).mapError fun e =>
    ⟨.coercion (.result i.overload.name) e, i.site.span⟩

/-- An invocation comes to a value of the declared kind. -/
theorem Invocation.kind_of_outcome {i : Invocation} {v : Value} (h : i.outcome = .ok v) :
    v.kind = i.overload.returns := by
  obtain ⟨_, -, hresult⟩ := bind_eq_ok_iff.mp h
  exact Value.kind_of_coerce (mapError_eq_ok_iff.mp hresult)

/-- **An invocation fails** for what its body answers, or for an answer of the wrong kind. -/
theorem Invocation.outcome_eq_error {i : Invocation} {err : EvalError}
    (h : i.outcome = .error err) :
    (∃ e, i.overload.body i.args = .error e ∧
        err = ⟨.failed i.overload.name e, i.site.span⟩) ∨
      ∃ v e, i.overload.body i.args = .ok v ∧ v.coerce i.overload.returns = .error e ∧
        err = ⟨.coercion (.result i.overload.name) e, i.site.span⟩ := by
  unfold outcome at h
  rcases bind_eq_error_iff.mp h with hbody | ⟨v, hbody, hresult⟩
  · exact .inl (mapError_eq_error_iff.mp hbody)
  · obtain ⟨e, he, rfl⟩ := mapError_eq_error_iff.mp hresult
    exact .inr ⟨v, e, mapError_eq_ok_iff.mp hbody, he, rfl⟩

namespace Expr

open Run

/-- **Arguments come to values**: from the one at an index on, each is evaluated and converted to
the kind that an overload declares for it. -/
inductive ArgumentsTo (env : Environment) (f : Overload) : Nat → List Expr → List Value → Prop
  /-- no arguments -/
  | nil {index} : ArgumentsTo env f index [] []
  /-- one more argument in front -/
  | cons {index c cs kind v w ws} : f.kindAt? index = some kind → c.eval env = .ok v →
      v.coerce kind = .ok w → ArgumentsTo env f (index + 1) cs ws →
      ArgumentsTo env f index (c :: cs) (w :: ws)

variable {env : Environment} {f : Overload} {index : Nat} {name : String} {c : Expr}
  {cs args : List Expr} {values : List Value} {span : Span} {err : EvalError} {kind : Kind}

/-- The run of the arguments of a call, if the first of them has a declared kind. -/
theorem runArguments_cons (hkind : f.kindAt? index = some kind) :
    runArguments env f index (c :: cs) =
      run env c >>= fun v =>
      Run.lift ((v.coerce kind).mapError fun e =>
        ⟨.coercion (.argument (index + 1) f.name) e, c.span⟩) >>= fun w =>
      runArguments env f (index + 1) cs >>= fun ws =>
      .done (w :: ws) := by
  rw [runArguments, hkind]

/-- **The run of arguments comes to values** exactly if the arguments do. -/
theorem outcome_runArguments_eq_ok_iff :
    (runArguments env f index args).outcome = .ok values ↔ ArgumentsTo env f index args values := by
  constructor
  · intro h
    induction args generalizing index values with
    | nil =>
      cases h
      exact .nil
    | cons c cs ih =>
      cases hkind : f.kindAt? index with
      | none =>
        rw [runArguments, hkind] at h
        cases h
      | some kind =>
        rw [runArguments_cons hkind] at h
        obtain ⟨v, hv, h⟩ := outcome_bind_eq_ok_iff.mp h
        obtain ⟨w, hw, h⟩ := outcome_bind_eq_ok_iff.mp h
        obtain ⟨ws, hws, h⟩ := outcome_bind_eq_ok_iff.mp h
        cases h
        exact .cons hkind hv (mapError_eq_ok_iff.mp hw) (ih hws)
  · intro h
    induction h with
    | nil => rfl
    | @cons index c cs kind v w ws hkind hv hw _ ih =>
      rw [runArguments_cons hkind]
      refine outcome_bind_eq_ok_iff.mpr ⟨v, hv, outcome_bind_eq_ok_iff.mpr ⟨w, ?_, ?_⟩⟩
      · exact mapError_eq_ok_iff.mpr hw
      · exact outcome_bind_eq_ok_iff.mpr ⟨ws, ih, rfl⟩

/-- **The run of arguments fails** for one of them: it has no declared kind, it fails itself, or its
value cannot be converted. -/
theorem outcome_runArguments_eq_error (h : (runArguments env f index args).outcome = .error err) :
    ∃ i c, args[i]? = some c ∧ (f.kindAt? (index + i) = none ∨ c.eval env = .error err ∨
      ∃ kind v e, f.kindAt? (index + i) = some kind ∧ c.eval env = .ok v ∧
        v.coerce kind = .error e ∧
        err = ⟨.coercion (.argument (index + i + 1) f.name) e, c.span⟩) := by
  induction args generalizing index with
  | nil => cases h
  | cons c cs ih =>
    cases hkind : f.kindAt? index with
    | none => exact ⟨0, c, rfl, .inl hkind⟩
    | some kind =>
      rw [runArguments_cons hkind] at h
      rcases outcome_bind_eq_error_iff.mp h with hc | ⟨v, hv, h⟩
      · exact ⟨0, c, rfl, .inr (.inl hc)⟩
      rcases outcome_bind_eq_error_iff.mp h with hw | ⟨w, -, h⟩
      · obtain ⟨e, hcoerce, rfl⟩ := mapError_eq_error_iff.mp hw
        exact ⟨0, c, rfl, .inr (.inr ⟨kind, v, e, hkind, hv, hcoerce, rfl⟩)⟩
      rcases outcome_bind_eq_error_iff.mp h with hrest | ⟨ws, -, h⟩
      · obtain ⟨i, d, hd, hcases⟩ := ih hrest
        have hshift : index + 1 + i = index + (i + 1) := by omega
        rw [hshift] at hcases
        exact ⟨i + 1, d, hd, hcases⟩
      · cases h

/-- A call that no overload takes is refused: nothing is evaluated for it. -/
theorem run_call_of_resolve_eq_none (h : env.resolve name args.length = none) :
    run env (.call name args span) = .fail
      (if env.overloads name = none then .unknownFunction name else .noOverload name args.length)
      span := by
  unfold Environment.resolve at h
  unfold run
  cases hlookup : env.overloads name with
  | none => rfl
  | some fs =>
    rw [hlookup, Option.bind_some] at h
    simp only [h, reduceCtorEq, if_false]

/-- **A call that an overload takes** evaluates its arguments and then invokes the function. -/
theorem run_call (h : env.resolve name args.length = some f) :
    run env (.call name args span) =
      runArguments env f 0 args >>= fun values =>
      ⟨[⟨.call name args span, f, values⟩],
        Invocation.outcome ⟨.call name args span, f, values⟩⟩ := by
  unfold Environment.resolve at h
  obtain ⟨fs, hlookup, hselect⟩ := Option.bind_eq_some_iff.mp h
  unfold run
  simp only [hlookup, hselect]
  congr 1
  funext values
  unfold Invocation.outcome
  cases hbody : f.body values with
  | error e => exact bind_of_outcome_eq_error rfl
  | ok v => exact bind_of_outcome_eq_ok rfl

/-- **A call** comes to a value of the kind that the selected overload declares, if its arguments
can be converted and neither its body nor the conversion of the result fails in another way. -/
theorem ends_call {E : EvalError.Cause → Prop} {fs : List Overload}
    (hlookup : env.overloads name = some fs)
    (hselect : Registry.select fs args.length = some f)
    (hargs : ∀ i c, args[i]? = some c → ∀ kind, f.kindAt? i = some kind →
      (run env c).Ends E fun v => ∀ e, v.coerce kind = .error e →
        E (.coercion (.argument (i + 1) f.name) e))
    (hbody : ∀ values e, (∀ i v, values[i]? = some v → f.kindAt? i = some v.kind) →
      f.body values = .error e → E (.failed f.name e))
    (hresult : ∀ values v e, (∀ i v, values[i]? = some v → f.kindAt? i = some v.kind) →
      f.body values = .ok v → v.coerce f.returns = .error e →
      E (.coercion (.result f.name) e)) :
    (run env (.call name args span)).Ends E (·.kind = f.returns) := by
  have hresolve : env.resolve name args.length = some f :=
    Option.bind_eq_some_iff.mpr ⟨fs, hlookup, hselect⟩
  have hvalues : (runArguments env f 0 args).Ends E fun values =>
      ∀ i v, values[i]? = some v → f.kindAt? (0 + i) = some v.kind := by
    apply ends_runArguments
    intro i c hc
    have hlt : i < args.length := (List.getElem?_eq_some_iff.mp hc).1
    obtain ⟨kind, hkind⟩ := Environment.exists_kindAt?_of_resolve hresolve hlt
    rw [Nat.zero_add]
    exact ⟨kind, hkind, hargs i c hc kind hkind⟩
  rw [run_call hresolve]
  apply hvalues.bind
  intro values hvalues
  simp only [Nat.zero_add] at hvalues
  refine .step (fun _ => Invocation.kind_of_outcome) fun e he => ?_
  rcases Invocation.outcome_eq_error he with ⟨e', he', rfl⟩ | ⟨v, e', hv, he', rfl⟩
  · exact hbody values e' hvalues he'
  · exact hresult values v e' hvalues hv he'

/-- **A call fails** for being refused, for one of its arguments, or in its invocation. -/
theorem eval_call_eq_error (h : (call name args span).eval env = .error err) :
    (env.overloads name = none ∧ err = ⟨.unknownFunction name, span⟩) ∨
      (∃ fs, env.overloads name = some fs ∧ Registry.select fs args.length = none ∧
        err = ⟨.noOverload name args.length, span⟩) ∨
      ∃ f, env.resolve name args.length = some f ∧
        ((∃ c ∈ args, c.eval env = .error err) ∨
          (∃ i c kind v e, args[i]? = some c ∧ f.kindAt? i = some kind ∧ c.eval env = .ok v ∧
            v.coerce kind = .error e ∧
            err = ⟨.coercion (.argument (i + 1) f.name) e, c.span⟩) ∨
          ∃ values, ArgumentsTo env f 0 args values ∧
            Invocation.outcome ⟨call name args span, f, values⟩ = .error err) := by
  unfold eval at h
  cases hresolve : env.resolve name args.length with
  | none =>
    rw [run_call_of_resolve_eq_none hresolve] at h
    cases hlookup : env.overloads name with
    | none =>
      rw [hlookup, if_pos rfl] at h
      cases h
      exact .inl ⟨rfl, rfl⟩
    | some fs =>
      simp only [hlookup, reduceCtorEq, if_false] at h
      cases h
      rw [Environment.resolve, hlookup, Option.bind_some] at hresolve
      exact .inr (.inl ⟨fs, rfl, hresolve, rfl⟩)
  | some f =>
    refine .inr (.inr ⟨f, rfl, ?_⟩)
    rw [run_call hresolve] at h
    rcases outcome_bind_eq_error_iff.mp h with hargs | ⟨values, hvalues, h⟩
    · obtain ⟨i, c, hc, hcases⟩ := outcome_runArguments_eq_error hargs
      simp only [Nat.zero_add] at hcases
      rcases hcases with hnone | hc' | ⟨kind, v, e, hkind, hv, hcoerce, rfl⟩
      · -- The overload takes the call, so each of its arguments has a declared kind.
        have hlt : i < args.length := (List.getElem?_eq_some_iff.mp hc).1
        obtain ⟨kind, hkind⟩ := Environment.exists_kindAt?_of_resolve hresolve hlt
        rw [hnone] at hkind
        cases hkind
      · exact .inl ⟨c, List.mem_of_getElem? hc, hc'⟩
      · exact .inr (.inl ⟨i, c, kind, v, e, hc, hkind, hv, hcoerce, rfl⟩)
    · exact .inr (.inr ⟨values, outcome_runArguments_eq_ok_iff.mp hvalues, h⟩)

end Expr

end EventFilter
