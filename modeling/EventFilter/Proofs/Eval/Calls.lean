import EventFilter.Proofs.Eval.Arguments
import EventFilter.Proofs.Eval.Operator
import EventFilter.Proofs.Phrase.Calls
import EventFilter.Proofs.Phrase.Parsing

/-!
# Calls of parsed expressions

The parser accepts a call only if the registry offers it, and registries keep what they offer when
they grow. So an expression that was parsed with a registry can be evaluated with any later state of
that registry without a call that cannot be made: all that is left of a failing call is what the
body of a function answers, or a value that cannot be converted.
Main statement: what was parsed once is parsed again, and is evaluated without the errors of calls
that cannot be made, after any further registrations
(`Source.parse_and_eval_of_registrations`).
-/

namespace EventFilter

namespace EvalError.Cause

/-- A call that cannot be made: for want of the function, of an overload for its arguments, or of a
declared kind for one of them. -/
def IsOfCall : EvalError.Cause → Prop
  | .unknownFunction _ | .noOverload _ _ | .unexpectedArgument _ _ => True
  | .missingAttribute _ | .coercion _ _ | .orderedBooleans _ | .divisionByZero | .failed _ _ => False

/-- **An answer of a function**: the failure of the body of an overload that the environment
offers. -/
def IsAnswer (env : Environment) (cause : EvalError.Cause) : Prop :=
  ∃ name fs f values e, env.overloads name = some fs ∧ f ∈ fs ∧ f.body values = .error e ∧
    cause = .failed f.name e

/-- A cause that is no call that cannot be made, and is of the sorts of those only as an answer of a
function. -/
def Legitimate (env : Environment) (cause : EvalError.Cause) : Prop :=
  ¬ cause.IsOfCall ∧
    (cause.kind = .unknownFunction ∨ cause.kind = .invalidArgument → cause.IsAnswer env)

/-- A cause of another sort is no call that cannot be made. -/
theorem Legitimate.of_kind {env : Environment} {cause : EvalError.Cause}
    (h : cause.kind = .typeMismatch ∨ cause.kind = .divisionByZero ∨
      cause.kind = .missingAttribute) : cause.Legitimate env := by
  constructor
  · intro hcall
    cases cause with
    | unknownFunction | noOverload | unexpectedArgument => rcases h with h | h | h <;> cases h
    | missingAttribute | coercion | orderedBooleans | divisionByZero | failed => exact hcall
  · rintro (hk | hk) <;> rw [hk] at h <;> rcases h with h | h | h <;> cases h

/-- An answer of a function is no call that cannot be made. -/
theorem Legitimate.of_isAnswer {env : Environment} {cause : EvalError.Cause}
    (h : cause.IsAnswer env) : cause.Legitimate env := by
  refine ⟨?_, fun _ => h⟩
  obtain ⟨_, _, _, _, _, _, _, _, rfl⟩ := h
  exact id

end EvalError.Cause

open EvalError.Cause

/-- **Evaluation makes only calls that are offered**, so no cause of a failure is a call that cannot
be made. -/
theorem Expr.Resolved.ends {functions : Registry} {env : Environment}
    (henv : env.overloads = functions.lookup) {e : Expr} (h : e.Resolved functions) :
    (e.run env).Ends (Legitimate env) fun _ => True := by
  induction h with
  | @node e hoffered _ ih =>
    cases e with
    | literal v s => exact .done trivial
    | present name ns s => exact .done trivial
    | attr name s =>
      unfold run
      split
      · exact .done trivial
      · exact .fail (.of_kind (.inr (.inr rfl)))
    | unary op x s =>
      unfold run
      apply (ih x List.mem_cons_self).bind
      intro v _
      apply Run.Ends.attempt
      intro err herr
      exact .of_kind (.inl (UnaryOp.kind_of_eval_eq_error herr))
    | binary op l r s =>
      have hl := ih l List.mem_cons_self
      have hr := ih r (List.mem_cons_of_mem l List.mem_cons_self)
      cases op with
      | arithmetic op =>
        unfold run
        apply hl.bind
        intro a _
        apply hr.bind
        intro b _
        apply Run.Ends.attempt
        intro err herr
        rcases ArithmeticOp.kind_of_eval_eq_error herr with hkind | hkind
        · exact .of_kind (.inl hkind)
        · exact .of_kind (.inr (.inl hkind))
      | comparison op =>
        unfold run
        apply hl.bind
        intro a _
        apply hr.bind
        intro b _
        apply Run.Ends.attempt
        intro err herr
        cases hop : op.eval a b l.span r.span s with
        | ok p =>
          rw [hop] at herr
          cases herr
        | error err' =>
          rw [hop] at herr
          cases herr
          exact .of_kind (.inl (ComparisonOp.kind_of_eval_eq_error hop))
      | logical op =>
        have hboolean {v : Value} {role : Role} {span : Span} :
            (Run.lift (v.booleanFor role span)).Ends (Legitimate env) fun _ => True := by
          apply Run.Ends.attempt
          intro err herr
          exact .of_kind (.inl (Value.kind_of_booleanFor_eq_error herr))
        unfold run
        apply hl.bind
        intro a _
        apply hboolean.bind
        intro p _
        split
        · exact .done trivial
        · apply hr.bind
          intro b _
          apply hboolean.bind
          intro q _
          exact .done trivial
    | among x set s =>
      unfold run
      apply (ih x List.mem_cons_self).bind
      intro needle _
      have hset : ∀ c ∈ set, (run env c).Ends (Legitimate env) fun _ => True :=
        fun c hc => ih c (List.mem_cons_of_mem x hc)
      refine (ends_runAmong hset ?_).mono fun _ _ => trivial
      intro v s' err _ herr
      exact .of_kind (.inl (ComparisonOp.kind_of_eval_eq_error herr))
    | like x p s =>
      unfold run
      apply (ih x List.mem_cons_self).bind
      intro v _
      exact .done trivial
    | call name args s =>
      obtain ⟨fs, f, hlookup, hselect⟩ :=
        Registry.offers_iff_resolve.mp (hoffered name args s rfl)
      rw [← henv] at hlookup
      refine (ends_call hlookup hselect ?_ ?_ ?_).mono fun _ _ => trivial
      · intro i c hc _ _
        apply (ih c (List.mem_of_getElem? hc)).mono
        intro v _ err _
        exact .of_kind (.inl rfl)
      · intro values err _ herr
        have hf := (Registry.accepts_of_select hselect).1
        exact .of_isAnswer ⟨name, fs, f, values, err, hlookup, hf, herr, rfl⟩
      · intro values v err _ _ _
        exact .of_kind (.inl rfl)

/-- **Parsing is stable under registrations, and its calls can be made.** An expression that was
parsed with a registry is parsed, spans included, with the registry after any further registrations.
Evaluated where functions are looked up in the later registry it never fails with a call that cannot
be made; an error of the sort of these is then the answer of a function. -/
theorem Source.parse_and_eval_of_registrations {functions : Registry} {source : Source} {e : Expr}
    (h : source.parse functions = .ok e) (fs : List Overload) :
    source.parse (fs.foldl Registry.register functions) = .ok e ∧
      ∀ env : Environment, env.overloads = (fs.foldl Registry.register functions).lookup →
        ∀ err, e.eval env = .error err →
          (∀ name, err.cause ≠ .unknownFunction name) ∧
          (∀ name count, err.cause ≠ .noOverload name count) ∧
          (∀ number name, err.cause ≠ .unexpectedArgument number name) ∧
          (err.kind = .unknownFunction ∨ err.kind = .invalidArgument →
            err.cause.IsAnswer env) := by
  obtain ⟨ts, hts, hphrase⟩ := Source.parse_eq_ok_iff_phrase.mp h
  have hlater := hphrase.mono (Registry.le_foldl_register functions fs)
  refine ⟨Source.parse_eq_ok_iff_phrase.mpr ⟨ts, hts, hlater⟩, ?_⟩
  intro env henv err herr
  have hends := hlater.resolved.ends henv
  unfold Run.Ends at hends
  rw [show (e.run env).outcome = .error err from herr] at hends
  obtain ⟨hcall, hanswer⟩ := hends
  exact ⟨fun _ heq => hcall (heq ▸ trivial), fun _ _ heq => hcall (heq ▸ trivial),
    fun _ _ heq => hcall (heq ▸ trivial), hanswer⟩

/-- A nested call that was parsed when a function answered with a text, and that the function
refuses now. -/
theorem Source.parse_and_eval_of_registrations_left :
    let before := Registry.ofList
      [.define "left" [.string, .integer] none .string fun _ => .ok (.string "")]
    let refusing := Overload.define "Left" [.string, .integer] none .string
      fun _ => .error (.negativeLength (-1))
    let source : Source := ⟨0, "x = 'b' OR lEft(left(x, 1), -1) = 'a'"⟩
    let env : Environment :=
      ⟨fun _ => some (.string "abc"), (before.register refusing).lookup⟩
    ∃ e, source.parse before = .ok e ∧ source.parse (before.register refusing) = .ok e ∧
      ∃ err, e.eval env = .error err ∧ err.kind = .invalidArgument ∧ err.cause.IsAnswer env := by
  intro before refusing source env
  have hrun : ((source.parse before).toOption.bind fun e =>
      match e.eval env with
      | .ok _ => none
      | .error err => some err.kind) = some .invalidArgument := by decide +kernel
  cases he : source.parse before with
  | error _ =>
    rw [he] at hrun
    cases hrun
  | ok e =>
    rw [he] at hrun
    obtain ⟨hparse, heval⟩ := Source.parse_and_eval_of_registrations he [refusing]
    cases herr : e.eval env with
    | ok v =>
      simp only [Except.toOption, Option.bind_some, herr] at hrun
      cases hrun
    | error err =>
      simp only [Except.toOption, Option.bind_some, herr, Option.some.injEq] at hrun
      obtain ⟨-, -, -, hanswer⟩ := heval env rfl err herr
      exact ⟨e, rfl, hparse, err, herr, hrun, hanswer (.inr hrun)⟩

end EventFilter
