import EventFilter.Proofs.Eval.Arguments

/-!
# What an evaluation evaluates and invokes

The evaluation of a node goes from left to right through its operands. It may end before the last of
them, and it does so at the first that fails; with no operand left it invokes the function, if the
node is a call (`Expr.Course`). Unless the node is AND, OR or IN, it has evaluated all operands when
it comes to a value. Main statement: every node has such a course (`Expr.exists_course`), from which
statements about the invocations of whole expressions follow by induction.
-/

namespace EventFilter

/-! ### Runs over operands -/

/-- **A run evaluates operands, the first ones of a list**: it invokes what these invoke, each of
them but the last comes to a value, and a failure of the last is the failure of the run. Unless it
is lazy, the run comes to a value only after the whole list. -/
structure Run.Evaluates {α : Type} (env : Environment) (isLazy : Bool) (cs operands : List Expr)
    (x : Run α) : Prop where
  leading : operands <+: cs
  invocations : x.invocations = operands.flatMap fun c => (c.run env).invocations
  goesOn : operands.Pairwise fun c _ => ∃ v, c.eval env = .ok v
  fails : ∀ c ∈ operands, ∀ err, c.eval env = .error err → x.outcome = .error err
  complete : isLazy = false → ∀ a, x.outcome = .ok a → operands = cs

namespace Run

variable {α β : Type} {env : Environment} {isLazy : Bool} {c : Expr} {cs operands : List Expr}

/-- A run that invokes nothing evaluates nothing, if it is lazy, fails or has no operands left. -/
theorem Evaluates.stop {x : Run α} (hinvocations : x.invocations = [])
    (hcomplete : isLazy = false → ∀ a, x.outcome = .ok a → cs = []) :
    Evaluates env isLazy cs [] x where
  leading := List.nil_prefix
  invocations := hinvocations
  goesOn := .nil
  fails := nofun
  complete hlazy a ha := (hcomplete hlazy a ha).symm

/-- Where no operands are left, a run that invokes nothing evaluates nothing. -/
theorem Evaluates.nil {x : Run α} (h : x.invocations = []) : Evaluates env isLazy [] [] x :=
  .stop h fun _ _ _ => rfl

/-- A run that fails without invoking anything evaluates nothing. -/
theorem Evaluates.fail {x : Run α} {err : EvalError} (h : x.invocations = [])
    (herr : x.outcome = .error err) : Evaluates env isLazy cs [] x :=
  .stop h fun _ a ha => by rw [herr] at ha; cases ha

/-- **A run that begins with an operand** evaluates it, and what the rest of the run evaluates. -/
theorem exists_evaluates_bind {f : Value → Run α}
    (h : ∀ v, c.eval env = .ok v → ∃ operands, Evaluates env isLazy cs operands (f v)) :
    ∃ operands, Evaluates env isLazy (c :: cs) operands (c.run env >>= f) := by
  cases hc : c.eval env with
  | error err =>
    rw [bind_of_outcome_eq_error hc]
    refine ⟨[c], ⟨cs, rfl⟩, ?_, List.pairwise_singleton _ _, ?_, ?_⟩
    · rw [List.flatMap_singleton]
    · intro d hd err' herr
      obtain rfl := List.mem_singleton.mp hd
      obtain rfl : err = err' := Except.error.inj (hc.symm.trans herr)
      rfl
    · intro _ a ha
      cases ha
  | ok v =>
    obtain ⟨operands, hrest⟩ := h v hc
    rw [bind_of_outcome_eq_ok hc]
    refine ⟨c :: operands, List.cons_prefix_cons.mpr ⟨rfl, hrest.leading⟩, ?_, ?_, ?_, ?_⟩
    · rw [List.flatMap_cons, hrest.invocations]
    · exact List.pairwise_cons.mpr ⟨fun _ _ => ⟨v, hc⟩, hrest.goesOn⟩
    · intro d hd err herr
      rcases List.mem_cons.mp hd with rfl | hd
      · rw [hc] at herr
        cases herr
      · exact hrest.fails d hd err herr
    · intro hlazy a ha
      rw [hrest.complete hlazy a ha]

/-- A step that invokes nothing comes before what the rest of the run evaluates. -/
theorem exists_evaluates_lift {outcome : Except EvalError β} {f : β → Run α}
    (h : ∀ b, outcome = .ok b → ∃ operands, Evaluates env isLazy cs operands (f b)) :
    ∃ operands, Evaluates env isLazy cs operands (Run.lift outcome >>= f) := by
  cases outcome with
  | error err => exact ⟨[], .fail rfl rfl⟩
  | ok b => exact h b rfl

/-- What invokes nothing can be added at the end of a run. -/
theorem Evaluates.andThen {x : Run β} {f : β → Run α} (h : Evaluates env isLazy cs operands x)
    (hf : ∀ b, x.outcome = .ok b → (f b).invocations = []) :
    Evaluates env isLazy cs operands (x >>= f) where
  leading := h.leading
  invocations := by
    cases hx : x.outcome with
    | ok b => rw [bind_of_outcome_eq_ok hx, hf b hx, List.append_nil, h.invocations]
    | error err => rw [bind_of_outcome_eq_error hx, h.invocations]
  goesOn := h.goesOn
  fails c hc err herr := outcome_bind_eq_error_iff.mpr (.inl (h.fails c hc err herr))
  complete hlazy a ha := by
    obtain ⟨b, hb, -⟩ := outcome_bind_eq_ok_iff.mp ha
    exact h.complete hlazy b hb

end Run

/-! ### Courses -/

namespace Expr

/-- Whether a node may come to a value without all its operands: so may AND, OR and IN. -/
def isLazy : Expr → Bool
  | binary (.logical .and) _ _ _ | binary (.logical .or) _ _ _ | among _ _ _ => true
  | _ => false

/-- Whether a node is a call. -/
def isCall : Expr → Bool
  | call .. => true
  | _ => false

end Expr

/-- **An invocation is that of a call**: the overload is the one that the call takes, and the
arguments are those that the operands of the call come to. -/
inductive Invocation.IsOf (env : Environment) : Expr → Invocation → Prop
  | call {name args span f values} : env.resolve name args.length = some f →
      Expr.ArgumentsTo env f 0 args values →
      IsOf env (.call name args span) ⟨.call name args span, f, values⟩

namespace Expr

/-- **The course of the evaluation of a node**, which evaluates the first ones of its operands and
may then invoke a function. Each of these operands but the last comes to a value. If the last one
fails, nothing is invoked and the failure is that of the node. A function is invoked with all
operands evaluated, and what it answers is what the node comes to. -/
structure Course (env : Environment) (e : Expr) (operands : List Expr) (own : Option Invocation) :
    Prop where
  leading : operands <+: e.children
  invocations : (e.run env).invocations =
    (operands.flatMap fun c => (c.run env).invocations) ++ own.toList
  goesOn : operands.Pairwise fun c _ => ∃ v, c.eval env = .ok v
  fails : ∀ c ∈ operands, ∀ err, c.eval env = .error err → own = none ∧ e.eval env = .error err
  invoked : ∀ i ∈ own, i.IsOf env e ∧ operands = e.children ∧ e.eval env = i.outcome
  complete : e.isLazy = false → ∀ v, e.eval env = .ok v →
    operands = e.children ∧ own.isSome = e.isCall

open Run

variable {env : Environment} {e : Expr} {operands : List Expr}

/-- What is not a call, or is one that fails, may have no invocation of its own. -/
theorem Course.of_evaluates (h : (e.run env).Evaluates env e.isLazy e.children operands)
    (hcall : e.isCall = true → ∃ err, e.eval env = .error err) : Course env e operands none where
  leading := h.leading
  invocations := by rw [h.invocations, Option.toList_none, List.append_nil]
  goesOn := h.goesOn
  fails c hc err herr := ⟨rfl, h.fails c hc err herr⟩
  invoked _ hi := by cases hi
  complete hlazy v hv := by
    refine ⟨h.complete hlazy v hv, ?_⟩
    cases hisCall : e.isCall with
    | false => rfl
    | true =>
      obtain ⟨err, herr⟩ := hcall hisCall
      rw [hv] at herr
      cases herr

/-- A search evaluates the first elements of its list. -/
theorem exists_evaluates_runAmong (needle : Value) (valueSpan span : Span) (set : List Expr) :
    ∃ operands, (runAmong env needle valueSpan span set).Evaluates env true set operands := by
  induction set with
  | nil => exact ⟨[], .nil rfl⟩
  | cons c cs ih =>
    rw [runAmong]
    apply exists_evaluates_bind
    intro v _
    apply exists_evaluates_lift
    intro found _
    cases found with
    | true => exact ⟨[], .stop rfl fun hlazy => by cases hlazy⟩
    | false => exact ih

/-- Arguments are evaluated from left to right, and all of them if they come to values. -/
theorem exists_evaluates_runArguments (f : Overload) (index : Nat) (args : List Expr) :
    ∃ operands, (runArguments env f index args).Evaluates env false args operands := by
  induction args generalizing index with
  | nil => exact ⟨[], .nil rfl⟩
  | cons c cs ih =>
    cases hkind : f.kindAt? index with
    | none =>
      rw [runArguments, hkind]
      exact ⟨[], .fail rfl rfl⟩
    | some kind =>
      rw [runArguments_cons hkind]
      apply exists_evaluates_bind
      intro v _
      apply exists_evaluates_lift
      intro w _
      obtain ⟨operands, h⟩ := ih (index + 1)
      exact ⟨operands, h.andThen fun _ _ => rfl⟩

/-- A call that is invoked has evaluated its arguments. -/
theorem Course.of_invoked {name : String} {args : List Expr} {span : Span} {f : Overload}
    {values : List Value} (hresolve : env.resolve name args.length = some f)
    (h : (runArguments env f 0 args).Evaluates env false args operands)
    (hvalues : (runArguments env f 0 args).outcome = .ok values) :
    Course env (call name args span) args (some ⟨call name args span, f, values⟩) := by
  obtain rfl := h.complete rfl values hvalues
  have hrun : run env (call name operands span) = _ := run_call hresolve
  rw [bind_of_outcome_eq_ok hvalues] at hrun
  exact {
    leading := h.leading
    invocations := by rw [hrun, h.invocations, Option.toList_some]
    goesOn := h.goesOn
    fails := by
      intro c hc err herr
      rw [h.fails c hc err herr] at hvalues
      cases hvalues
    invoked := by
      rintro i ⟨⟩
      refine ⟨.call hresolve (outcome_runArguments_eq_ok_iff.mp hvalues), rfl, ?_⟩
      rw [eval, hrun]
    complete := fun _ _ _ => ⟨rfl, rfl⟩ }

/-- **The course of a call**: its arguments, and its function if they come to values. -/
theorem exists_course_call (env : Environment) (name : String) (args : List Expr) (span : Span) :
    ∃ operands own, Course env (call name args span) operands own := by
  cases hresolve : env.resolve name args.length with
  | none =>
    have hrun : run env (call name args span) = _ := run_call_of_resolve_eq_none hresolve
    refine ⟨[], none, .of_evaluates ?_ fun _ => ⟨_, by rw [eval, hrun]; rfl⟩⟩
    rw [hrun]
    exact .fail rfl rfl
  | some f =>
    have hrun : run env (call name args span) = _ := run_call hresolve
    obtain ⟨operands, h⟩ : ∃ operands, Evaluates env false args operands _ :=
      exists_evaluates_runArguments f 0 args
    cases hargs : (runArguments env f 0 args).outcome with
    | ok values => exact ⟨args, _, .of_invoked hresolve h hargs⟩
    | error err =>
      refine ⟨operands, none, .of_evaluates ?_ fun _ => ⟨err, ?_⟩⟩
      · rw [hrun]
        exact h.andThen fun values hvalues => by rw [hargs] at hvalues; cases hvalues
      · rw [eval, hrun]
        exact outcome_bind_eq_error_iff.mpr (.inl hargs)

/-- What is not a call evaluates the first ones of its operands, and all if it is not lazy. -/
theorem exists_evaluates_run (env : Environment) (hcall : e.isCall = false) :
    ∃ operands, (e.run env).Evaluates env e.isLazy e.children operands := by
  cases e with
  | call => cases hcall
  | literal | present => exact ⟨[], .nil rfl⟩
  | attr name s =>
    rw [run]
    split <;> exact ⟨[], .nil rfl⟩
  | unary op x s =>
    rw [run]
    exact exists_evaluates_bind fun v _ => ⟨[], .nil rfl⟩
  | like x p s =>
    rw [run]
    exact exists_evaluates_bind fun v _ => ⟨[], .nil rfl⟩
  | among x set s =>
    rw [run]
    exact exists_evaluates_bind fun v _ => exists_evaluates_runAmong v x.span s set
  | binary op l r s =>
    cases op with
    | arithmetic op =>
      rw [run]
      apply exists_evaluates_bind
      intro a _
      exact exists_evaluates_bind fun b _ => ⟨[], .nil rfl⟩
    | comparison op =>
      rw [run]
      apply exists_evaluates_bind
      intro a _
      exact exists_evaluates_bind fun b _ => ⟨[], .nil rfl⟩
    | logical op =>
      rw [run]
      apply exists_evaluates_bind
      intro a _
      apply exists_evaluates_lift
      intro p _
      split
      · rename_i hdecided
        refine ⟨[], .stop rfl fun hlazy => ?_⟩
        cases op with
        | and | or => cases hlazy
        | xor => cases hdecided
      · apply exists_evaluates_bind
        intro b _
        exact exists_evaluates_lift fun q _ => ⟨[], .nil rfl⟩

/-- **Every node has a course.** -/
theorem exists_course (env : Environment) (e : Expr) :
    ∃ operands own, Course env e operands own := by
  cases hcall : e.isCall with
  | false =>
    obtain ⟨operands, h⟩ := exists_evaluates_run env hcall
    refine ⟨operands, none, .of_evaluates h fun htrue => ?_⟩
    rw [hcall] at htrue
    cases htrue
  | true =>
    cases e with
    | call name args s => exact exists_course_call env name args s
    | literal | attr | unary | binary | present | among | like => cases hcall

end Expr

end EventFilter
