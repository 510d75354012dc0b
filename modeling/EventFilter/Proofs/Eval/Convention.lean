import EventFilter.Proofs.Eval.Blame
import EventFilter.Proofs.Eval.Builtins
import EventFilter.Proofs.Eval.Order
import EventFilter.Proofs.Registry.History

/-!
# The convention by which functions are called

Evaluation hands a function as many arguments as its overload takes, each of the kind that is
declared for it, and takes its answer as the declared kind. So the checks that the built-in
functions make of their arguments never fail within an expression (`EvalError.Cause.IsDefensive`),
and a built-in function only fails for what it refuses.
Main statement: every invocation keeps to the convention, and what is left of the failures of
built-in functions (`Expr.invocations_fit`).
-/

namespace EventFilter

/-- **A failure of a check that a function makes of how it is called**, or of its answer: an
argument that is not there, one that is not a text, or a result that is not of the declared
kind. -/
def EvalError.Cause.IsDefensive : EvalError.Cause → Prop
  | .failed _ (.missingArgument _) | .failed _ (.notString _ _) | .coercion (.result _) _ => True
  | _ => False

namespace Builtin.Refuses

variable {name : String} {values : List Value} {e : FunctionError}

/-- What is refused passes the checks of how a function is called. -/
theorem not_isDefensive (h : Refuses name values e) (function : String) :
    ¬ (EvalError.Cause.failed function e).IsDefensive := by
  cases h <;> exact id

/-- **What is refused, by its sort**: arguments that are out of range, and texts that cannot be
read. -/
theorem kind_cases (h : Refuses name values e) :
    (name ∈ ["LEFT", "RIGHT", "SUBSTRING"] ∧ e.kind = .invalidArgument) ∨
      (name ∈ ["INT", "BOOL"] ∧ e.kind = .typeMismatch) := by
  cases h with
  | length hname =>
    rcases hname with rfl | rfl
    · exact .inl ⟨by simp, rfl⟩
    · exact .inl ⟨by simp, rfl⟩
  | position | lengthFrom => exact .inl ⟨by simp, rfl⟩
  | notInteger | notBoolean => exact .inr ⟨by simp, rfl⟩

end Builtin.Refuses

/-! ### Invocations -/

section invocations

variable {env : Environment} {f : Overload} {index : Nat} {args : List Expr} {values : List Value}
  {i : Invocation} {err : EvalError}

/-- Arguments come to as many values. -/
theorem Expr.ArgumentsTo.length_eq (h : ArgumentsTo env f index args values) :
    values.length = args.length := by
  induction h with
  | nil => rfl
  | cons _ _ _ _ ih => rw [List.length_cons, List.length_cons, ih]

/-- Arguments come to values of the declared kinds. -/
theorem Expr.ArgumentsTo.kindAt?_eq (h : ArgumentsTo env f index args values) {i : Nat} {v : Value}
    (hv : values[i]? = some v) : f.kindAt? (index + i) = some v.kind := by
  induction h generalizing i with
  | nil => cases hv
  | @cons index _ _ _ _ w ws hkind _ hw _ ih =>
    cases i with
    | zero =>
      cases hv
      rw [Nat.add_zero, hkind, Value.kind_of_coerce hw]
    | succ i =>
      rw [show index + (i + 1) = index + 1 + i by omega]
      exact ih hv

/-- **The arguments of a call fit** the overload that it takes. -/
theorem Expr.ArgumentsTo.fits {name : String} (h : ArgumentsTo env f 0 args values)
    (hresolve : env.resolve name args.length = some f) : f.Fits values where
  accepts := by
    obtain ⟨fs, -, hselect⟩ := Option.bind_eq_some_iff.mp hresolve
    rw [h.length_eq]
    exact (Registry.accepts_of_select hselect).2
  takes := by
    intro i v hv
    rw [← h.kindAt?_eq hv, Nat.zero_add]

/-- The arguments of an invocation fit. -/
theorem Invocation.IsOf.fits {e : Expr} (h : i.IsOf env e) : i.overload.Fits i.args := by
  cases h with
  | call hresolve hargs => exact hargs.fits hresolve

/-- **A built-in function that is called with arguments that fit fails** only if it refuses them. -/
theorem Invocation.exists_refuses_of_outcome_eq_error (hfits : i.overload.Fits i.args)
    (hbuiltin : i.overload ∈ Builtin.all) (h : i.outcome = .error err) :
    ∃ e, Builtin.Refuses i.overload.name i.args e ∧
      err = ⟨.failed i.overload.name e, i.site.span⟩ := by
  rcases outcome_eq_error h with ⟨e, hbody, rfl⟩ | ⟨v, e, hbody, hcoerce, -⟩
  · exact ⟨e, Builtin.refuses_of_body_eq_error hbuiltin hfits hbody, rfl⟩
  · exact absurd hcoerce (Builtin.coerce_returns_ne_error hbuiltin hfits hbody e)

end invocations

namespace Expr

variable {env : Environment} {name : String} {args : List Expr} {span : Span} {f : Overload}
  {err : EvalError}

/-! ### Calls -/

/-- **A call comes to a value of the kind that its overload declares.** -/
theorem exists_resolve_of_eval_call_eq_ok {v : Value} (h : (call name args span).eval env = .ok v) :
    ∃ f, env.resolve name args.length = some f ∧ v.kind = f.returns := by
  unfold eval at h
  cases hresolve : env.resolve name args.length with
  | none =>
    rw [run_call_of_resolve_eq_none hresolve] at h
    cases h
  | some f =>
    rw [run_call hresolve] at h
    obtain ⟨values, -, hinvoked⟩ := Run.outcome_bind_eq_ok_iff.mp h
    exact ⟨f, rfl, Invocation.kind_of_outcome hinvoked⟩

/-- **A call of a built-in function fails** for one of its arguments, which fails itself or cannot
be converted, or for what the function refuses. -/
theorem eval_builtin_call_eq_error (hresolve : env.resolve name args.length = some f)
    (hbuiltin : f ∈ Builtin.all) (h : (call name args span).eval env = .error err) :
    (∃ c ∈ args, c.eval env = .error err) ∨
      (∃ i c kind v e, args[i]? = some c ∧ f.kindAt? i = some kind ∧ c.eval env = .ok v ∧
        v.coerce kind = .error e ∧
        err = ⟨.coercion (.argument (i + 1) f.name) e, c.span⟩) ∨
      ∃ values e, ArgumentsTo env f 0 args values ∧ Builtin.Refuses f.name values e ∧
        err = ⟨.failed f.name e, span⟩ := by
  have hresolved {g : Overload} (hg : env.resolve name args.length = some g) : g = f :=
    Option.some.inj (hg.symm.trans hresolve)
  rcases eval_call_eq_error h with ⟨hnone, -⟩ | ⟨fs, hfs, hselect, -⟩ | ⟨g, hg, hcases⟩
  · rw [Environment.resolve, hnone] at hresolve
    cases hresolve
  · rw [Environment.resolve, hfs, Option.bind_some, hselect] at hresolve
    cases hresolve
  · obtain rfl := hresolved hg
    refine hcases.imp_right (.imp_right ?_)
    rintro ⟨values, hargs, hinvoked⟩
    obtain ⟨e, hrefuses, rfl⟩ :=
      Invocation.exists_refuses_of_outcome_eq_error (hargs.fits hg) hbuiltin hinvoked
    exact ⟨values, e, hargs, hrefuses, rfl⟩

/-! ### Expressions over the built-in functions -/

/-- A call among the built-in functions takes one of them. -/
theorem mem_all_of_resolve (henv : env.overloads = Registry.builtins.lookup) {count : Nat}
    (h : env.resolve name count = some f) : f ∈ Builtin.all := by
  obtain ⟨fs, hfs, hselect⟩ := Option.bind_eq_some_iff.mp h
  rw [henv] at hfs
  obtain ⟨-, rfl⟩ := Registry.lookup_eq_some_iff.mp hfs
  have hmem := (List.mem_filter.mp (Registry.accepts_of_select hselect).1).1
  exact Registry.mem_of_mem_overloads_ofList hmem

/-- **Where all functions are built-in, no check of a call fails.** -/
theorem not_isDefensive_of_eval_eq_error (henv : env.overloads = Registry.builtins.lookup)
    {e : Expr} (h : e.eval env = .error err) : ¬ err.cause.IsDefensive := by
  obtain ⟨n, -, -, hcause⟩ := isBlamed_of_eval_eq_error h
  -- Only the body of a function or its answer could be to blame for such a failure.
  generalize err.cause = cause at hcause
  cases hcause with
  | missing | unknownFunction | noOverload | divisionByZero | orderedBooleans => exact id
  | operand _ hasks => cases hasks <;> exact id
  | failed hresolve hargs hbody =>
    have hbuiltin := mem_all_of_resolve henv hresolve
    exact (Builtin.refuses_of_body_eq_error hbuiltin (hargs.fits hresolve) hbody).not_isDefensive _
  | result hresolve hargs hbody hcoerce =>
    have hbuiltin := mem_all_of_resolve henv hresolve
    exact absurd hcoerce
      (Builtin.coerce_returns_ne_error hbuiltin (hargs.fits hresolve) hbody _)

/-- **Functions are called by convention.** Each invocation in an evaluation has a number of
arguments that its overload takes, all of them of the declared kinds, and a call that comes to a
value comes to one of the declared kind. So the invocation of a built-in function fails none of its
checks, and neither does any evaluation where all functions are built-in. A call of a built-in
function fails because one of its arguments fails or cannot be converted to the declared kind, or
because the function refuses them: this is an invalid argument of `LEFT`, `RIGHT` or `SUBSTRING`, or
a text that `INT` or `BOOL` cannot read. -/
theorem invocations_fit (env : Environment) :
    (∀ e : Expr, ∀ i ∈ (e.run env).invocations, i.overload.Fits i.args) ∧
    (∀ name args span v, (call name args span).eval env = .ok v →
      ∃ f, env.resolve name args.length = some f ∧ v.kind = f.returns) ∧
    (∀ e : Expr, ∀ i ∈ (e.run env).invocations, i.overload ∈ Builtin.all →
      ∀ err, i.outcome = .error err → ¬ err.cause.IsDefensive) ∧
    (env.overloads = Registry.builtins.lookup →
      ∀ (e : Expr) err, e.eval env = .error err → ¬ err.cause.IsDefensive) ∧
    ∀ name args span f, env.resolve name args.length = some f → f ∈ Builtin.all →
      ∀ err, (call name args span).eval env = .error err →
        (∃ c ∈ args, c.eval env = .error err) ∨
        (∃ i c kind v e, args[i]? = some c ∧ f.kindAt? i = some kind ∧ c.eval env = .ok v ∧
          v.coerce kind = .error e ∧
          err = ⟨.coercion (.argument (i + 1) f.name) e, c.span⟩) ∨
        ∃ values e, ArgumentsTo env f 0 args values ∧ Builtin.Refuses f.name values e ∧
          err = ⟨.failed f.name e, span⟩ ∧
          ((f.name ∈ ["LEFT", "RIGHT", "SUBSTRING"] ∧ err.kind = .invalidArgument) ∨
            (f.name ∈ ["INT", "BOOL"] ∧ err.kind = .typeMismatch)) := by
  refine ⟨fun e i hi => (isOf_of_mem_invocations hi).fits,
    fun name args span v => exists_resolve_of_eval_call_eq_ok, ?_,
    fun henv e err => not_isDefensive_of_eval_eq_error henv, ?_⟩
  · intro e i hi hbuiltin err herr
    have hfits := (isOf_of_mem_invocations hi).fits
    obtain ⟨e', hrefuses, rfl⟩ :=
      Invocation.exists_refuses_of_outcome_eq_error hfits hbuiltin herr
    exact hrefuses.not_isDefensive _
  · intro name args span f hresolve hbuiltin err herr
    refine (eval_builtin_call_eq_error hresolve hbuiltin herr).imp_right (.imp_right ?_)
    rintro ⟨values, e, hargs, hrefuses, rfl⟩
    exact ⟨values, e, hargs, hrefuses, rfl, hrefuses.kind_cases⟩

/-- The built-in functions in a call with a negative number of characters, of a text that is made of
a truth value and an integer. -/
theorem invocations_fit_left :
    let env : Environment := ⟨fun _ => some (.boolean true), Registry.builtins.lookup⟩
    let parts := [Expr.attr "flag" .detached, .literal (.integer 5) .detached]
    let args := [Expr.call "concat" parts .detached, .literal (.integer (-1)) .detached]
    let e := Expr.call "Left" args .detached
    let f := Overload.define "LEFT" [.string, .integer] none .string Builtin.left
    let err : EvalError := ⟨.failed "LEFT" (.negativeLength (-1)), .detached⟩
    ((call "concat" parts .detached).eval env = .ok (.string "true5") ∧
      ∃ g, env.resolve "concat" parts.length = some g ∧ g.returns = .string) ∧
    (env.resolve "Left" args.length = some f ∧ f ∈ Builtin.all ∧ e.eval env = .error err ∧
      ((∃ c ∈ args, c.eval env = .error err) ∨
        (∃ i c kind v e, args[i]? = some c ∧ f.kindAt? i = some kind ∧ c.eval env = .ok v ∧
          v.coerce kind = .error e ∧
          err = ⟨.coercion (.argument (i + 1) f.name) e, c.span⟩) ∨
        ∃ values e, ArgumentsTo env f 0 args values ∧ Builtin.Refuses f.name values e ∧
          err = ⟨.failed f.name e, .detached⟩ ∧
          ((f.name ∈ ["LEFT", "RIGHT", "SUBSTRING"] ∧ err.kind = .invalidArgument) ∨
            (f.name ∈ ["INT", "BOOL"] ∧ err.kind = .typeMismatch)))) ∧
    (∃ i ∈ (e.run env).invocations, i.overload.Fits i.args ∧ i.overload ∈ Builtin.all ∧
      i.outcome = .error err ∧ ¬ err.cause.IsDefensive) ∧
    env.overloads = Registry.builtins.lookup ∧ ¬ err.cause.IsDefensive := by
  intro env parts args e f err
  obtain ⟨hfits, hreturns, hinvoked, hbuiltins, hcalls⟩ := invocations_fit env
  have hresolve : env.resolve "Left" args.length = some f := by rfl
  have hf : f ∈ Builtin.all := by simp [Builtin.all, f]
  have hconcat : (call "concat" parts .detached).eval env = .ok (.string "true5") := by rfl
  have herr : e.eval env = .error err := by rfl
  let i : Invocation := ⟨e, f, [.string "true5", .integer (-1)]⟩
  have hi : i ∈ (e.run env).invocations := List.mem_cons_of_mem _ List.mem_cons_self
  obtain ⟨g, hg, hkind⟩ := hreturns "concat" parts .detached _ hconcat
  exact ⟨⟨hconcat, g, hg, hkind.symm⟩,
    ⟨hresolve, hf, herr, hcalls "Left" args .detached f hresolve hf err herr⟩,
    ⟨i, hi, hfits e i hi, hf, rfl, hinvoked e i hi hf err rfl⟩, rfl, hbuiltins rfl e err herr⟩

end Expr

end EventFilter
