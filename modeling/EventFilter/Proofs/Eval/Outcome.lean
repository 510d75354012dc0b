import EventFilter.Eval

/-!
# How runs end

A run ends with a value or with an error, and most of what is said of evaluation is said of both:
the value has some property, or else the cause of the error is one of some set (`Run.Ends`). The
lemmas here follow the ways in which runs are put together, so that a statement about the runs of
all expressions is proved one step of a run at a time. Where the error itself matters, a run is
taken apart at its steps (`Run.outcome_bind_eq_error_iff`).
-/

namespace EventFilter

namespace Run

variable {α β : Type} {E : EvalError.Cause → Prop} {P : α → Prop} {Q : β → Prop}

/-- A run goes on with the value it came to. -/
theorem bind_of_outcome_eq_ok {x : Run α} {f : α → Run β} {a : α} (h : x.outcome = .ok a) :
    x >>= f = ⟨x.invocations ++ (f a).invocations, (f a).outcome⟩ := by
  simp only [Bind.bind, andThen, h]

/-- A run ends with its failure. -/
theorem bind_of_outcome_eq_error {x : Run α} {f : α → Run β} {e : EvalError}
    (h : x.outcome = .error e) : x >>= f = ⟨x.invocations, .error e⟩ := by
  simp only [Bind.bind, andThen, h]

/-- What comes out of a run that goes on. -/
theorem outcome_bind (x : Run α) (f : α → Run β) :
    (x >>= f).outcome = x.outcome >>= fun a => (f a).outcome := by
  cases hx : x.outcome with
  | ok a => rw [bind_of_outcome_eq_ok hx]; rfl
  | error e => rw [bind_of_outcome_eq_error hx]; rfl

/-- **A run that goes on comes to a value** if both of its parts do. -/
theorem outcome_bind_eq_ok_iff {x : Run α} {f : α → Run β} {b : β} :
    (x >>= f).outcome = .ok b ↔ ∃ a, x.outcome = .ok a ∧ (f a).outcome = .ok b := by
  cases hx : x.outcome with
  | ok a => simp [bind_of_outcome_eq_ok hx]
  | error e => simp [bind_of_outcome_eq_error hx]

/-- **A run that goes on fails** in its first part, or in what follows the value of that. -/
theorem outcome_bind_eq_error_iff {x : Run α} {f : α → Run β} {e : EvalError} :
    (x >>= f).outcome = .error e ↔
      x.outcome = .error e ∨ ∃ a, x.outcome = .ok a ∧ (f a).outcome = .error e := by
  cases hx : x.outcome with
  | ok a => simp [bind_of_outcome_eq_ok hx]
  | error e' => simp [bind_of_outcome_eq_error hx]

/-- **How a run ends**: with a value of which `P` holds, or with an error whose cause is in `E`. -/
def Ends (E : EvalError.Cause → Prop) (P : α → Prop) (x : Run α) : Prop :=
  match x.outcome with
  | .ok a => P a
  | .error e => E e.cause

/-- What came out of a run that ends in a given way. -/
theorem Ends.cases {x : Run α} (h : Ends E P x) :
    (∃ a, x.outcome = .ok a ∧ P a) ∨ ∃ e, x.outcome = .error e ∧ E e.cause := by
  unfold Ends at h
  cases hx : x.outcome with
  | ok a => exact .inl ⟨a, rfl, by rwa [hx] at h⟩
  | error e => exact .inr ⟨e, rfl, by rwa [hx] at h⟩

/-- A run that does nothing ends with its value. -/
theorem Ends.done {a : α} (h : P a) : Ends E P (done a) := h

/-- A run that fails ends with its cause. -/
theorem Ends.fail {cause : EvalError.Cause} {span : Span} (h : E cause) :
    Ends E P (fail cause span) := h

/-- A single step ends with its outcome, whatever was invoked in it. -/
theorem Ends.step {invocations : List Invocation} {outcome : Except EvalError α}
    (hok : ∀ a, outcome = .ok a → P a) (herror : ∀ e, outcome = .error e → E e.cause) :
    Ends E P ⟨invocations, outcome⟩ := by
  cases outcome with
  | ok a => exact hok a rfl
  | error e => exact herror e rfl

/-- A single step of which only the failures matter. -/
theorem Ends.attempt {invocations : List Invocation} {outcome : Except EvalError α}
    (h : ∀ e, outcome = .error e → E e.cause) :
    Ends E (fun _ => True) ⟨invocations, outcome⟩ :=
  .step (fun _ _ => trivial) h

/-- A single step whose failure is reported as another one. -/
theorem Ends.mapError {ε : Type} {invocations : List Invocation} {outcome : Except ε α}
    {report : ε → EvalError} (hok : ∀ a, outcome = .ok a → P a)
    (herror : ∀ e, outcome = .error e → E (report e).cause) :
    Ends E P ⟨invocations, outcome.mapError report⟩ := by
  cases outcome with
  | ok a => exact hok a rfl
  | error e => exact herror e rfl

/-- **A run that goes on** ends as what it goes on with, from every value that it can come to. -/
theorem Ends.bind {x : Run α} {f : α → Run β} (hx : Ends E P x) (hf : ∀ a, P a → Ends E Q (f a)) :
    Ends E Q (x >>= f) := by
  rcases hx.cases with ⟨a, ha, hP⟩ | ⟨e, he, hE⟩
  · rw [bind_of_outcome_eq_ok ha]
    exact hf a hP
  · rw [bind_of_outcome_eq_error he]
    exact hE

/-- What holds of a value for one reason holds for a weaker one. -/
theorem Ends.mono {x : Run α} {P' : α → Prop} (h : Ends E P x) (hP : ∀ a, P a → P' a) :
    Ends E P' x := by
  rcases h.cases with ⟨a, ha, hPa⟩ | ⟨e, he, hE⟩
  · unfold Ends
    rw [ha]
    exact hP a hPa
  · unfold Ends
    rw [he]
    exact hE

end Run

namespace Expr

open Run

variable {env : Environment} {E : EvalError.Cause → Prop} {P : Value → Prop}

/-- **A search in a list** comes to a truth value if the list comes to values that can be compared
with the one that is looked for. -/
theorem ends_runAmong {needle : Value} {valueSpan span : Span} {set : List Expr}
    (hset : ∀ c ∈ set, (run env c).Ends E P)
    (hcompare : ∀ v s e, P v → ComparisonOp.eq.eval needle v valueSpan s span = .error e →
      E e.cause) :
    (runAmong env needle valueSpan span set).Ends E (·.kind = .boolean) := by
  induction set with
  | nil => exact .done rfl
  | cons c cs ih =>
    obtain ⟨hc, hcs⟩ := List.forall_mem_cons.mp hset
    apply hc.bind
    intro v hv
    apply (Ends.attempt fun e => hcompare v _ e hv).bind
    intro found _
    cases found with
    | true => exact .done rfl
    | false => exact ih hcs

/-- **The arguments of a call** come to values of the declared kinds if every argument has a
declared kind and can be converted to it. -/
theorem ends_runArguments {f : Overload} {index : Nat} {args : List Expr}
    (hargs : ∀ i c, args[i]? = some c → ∃ kind, f.kindAt? (index + i) = some kind ∧
      (run env c).Ends E fun v => ∀ e, v.coerce kind = .error e →
        E (.coercion (.argument (index + i + 1) f.name) e)) :
    (runArguments env f index args).Ends E fun values =>
      ∀ i v, values[i]? = some v → f.kindAt? (index + i) = some v.kind := by
  induction args generalizing index with
  | nil => exact .done nofun
  | cons c cs ih =>
    obtain ⟨kind, hkind, hc⟩ := hargs 0 c rfl
    rw [Nat.add_zero] at hkind hc
    unfold runArguments
    rw [hkind]
    apply hc.bind
    intro v hv
    refine Ends.bind (P := (·.kind = kind)) (.mapError (fun _ => Value.kind_of_coerce) hv) ?_
    intro w hw
    have hshift (i : Nat) : index + (i + 1) = index + 1 + i := by omega
    have htail : (runArguments env f (index + 1) cs).Ends E fun values =>
        ∀ i v, values[i]? = some v → f.kindAt? (index + 1 + i) = some v.kind := by
      apply ih
      intro i d hd
      rw [← hshift]
      exact hargs (i + 1) d hd
    apply htail.bind
    intro ws hws
    apply Ends.done
    intro i u hu
    cases i with
    | zero =>
      cases hu
      rw [Nat.add_zero, hkind, hw]
    | succ i =>
      rw [hshift]
      exact hws i u hu

end Expr

end EventFilter
