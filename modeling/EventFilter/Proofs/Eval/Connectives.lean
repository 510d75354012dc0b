import EventFilter.Proofs.Eval.Membership

/-!
# Laws of the connectives

A connective asks its operands for truth values, and asks the right one only if the left one has not
decided it. On runs that end with truth values (`Run.connective`) it is still associative, and NOT
still turns AND and OR into each other, since both sides of such a law ask the same operands in the
same order. What an operand comes to depends on the node that asks for it only in the message of an
error (`Expr.HasTruth`), so a law of runs is a law of expressions up to messages
(`Run.SameButMessage`).
Main statement: the laws of De Morgan and of associativity hold for all operands
(`Expr.sameButMessage_laws`).
-/

namespace EventFilter

/-! ### Connectives of truth values -/

namespace LogicalOp

variable {op op' : LogicalOp} {p : Bool}

/-- Connectives are commutative on truth values, though not on expressions. -/
theorem apply_comm (op : LogicalOp) (p q : Bool) : op.apply p q = op.apply q p := by
  cases op with
  | and => exact Bool.and_comm p q
  | or => exact Bool.or_comm p q
  | xor => exact bne_comm

/-- Connectives are associative on truth values. -/
theorem apply_assoc (op : LogicalOp) (p q r : Bool) :
    op.apply (op.apply p q) r = op.apply p (op.apply q r) := by
  cases op with
  | and => exact Bool.and_assoc p q r
  | or => exact Bool.or_assoc p q r
  | xor => exact Bool.bne_assoc p q r

/-- Behind a left operand that does not decide, the right one decides if the result would. -/
theorem decidedBy_eq_some_apply_iff (hp : op.decidedBy ≠ some p) (q : Bool) :
    op.decidedBy = some (op.apply p q) ↔ op.decidedBy = some q := by
  cases op with
  | and =>
    have hp' : p = true := by simpa [decidedBy] using hp
    rw [hp']
    rfl
  | or =>
    have hp' : p = false := by simpa [decidedBy] using hp
    rw [hp']
    rfl
  | xor => exact ⟨nofun, nofun⟩

/-- **Dual connectives**: on the opposite operands the one is decided when the other one is, and
comes to the opposite of it. -/
structure IsDual (op op' : LogicalOp) : Prop where
  decidedBy : ∀ p, op'.decidedBy = some (!p) ↔ op.decidedBy = some p
  apply : ∀ p q, op'.apply (!p) (!q) = !op.apply p q

/-- OR is dual to AND. -/
theorem isDual_and_or : IsDual and or where
  decidedBy := by decide
  apply := by decide

/-- AND is dual to OR. -/
theorem isDual_or_and : IsDual or and where
  decidedBy := by decide
  apply := by decide

end LogicalOp

/-! ### Connectives of runs -/

namespace Run

variable {α β : Type}

/-- What is done after a run that does nothing. -/
@[simp] theorem done_bind (a : α) (f : α → Run β) : done a >>= f = f a := rfl

/-- Nothing is done after a run. -/
theorem bind_done (x : Run α) : x >>= done = x := by
  obtain ⟨invocations, outcome⟩ := x
  cases outcome with
  | ok a => exact congrArg (Run.mk · (.ok a)) (List.append_nil invocations)
  | error e => rfl

/-- **Sequences of runs** can be taken apart anywhere. -/
theorem bind_bind {γ : Type} (x : Run α) (f : α → Run β) (g : β → Run γ) :
    x >>= f >>= g = x >>= fun a => f a >>= g := by
  cases hx : x.outcome with
  | error e => rw [bind_of_outcome_eq_error hx, bind_of_outcome_eq_error hx]; rfl
  | ok a =>
    rw [bind_of_outcome_eq_ok hx, bind_of_outcome_eq_ok hx]
    cases hf : (f a).outcome with
    | error e => rw [bind_of_outcome_eq_error hf]; rfl
    | ok b =>
      rw [bind_of_outcome_eq_ok hf]
      exact congrArg (Run.mk · (g b).outcome) (List.append_assoc ..)

instance : LawfulMonad Run := .mk' Run bind_done done_bind bind_bind

/-- A function of the value of a run that does nothing. -/
@[simp] theorem map_done (f : α → β) (a : α) : f <$> done a = done (f a) := rfl

/-- A function of the value of a single step. -/
theorem map_lift (f : α → β) (outcome : Except EvalError α) :
    f <$> lift outcome = lift (outcome.map f) := by
  cases outcome <;> rfl

/-- **A connective of two runs**, of which the second one is left out if the first one decides. -/
def connective (op : LogicalOp) (x y : Run Bool) : Run Bool := do
  let p ← x
  if op.decidedBy = some p then
    done p
  else
    let q ← y
    done (op.apply p q)

/-- **Connectives are associative**: the last run is left out on both sides, or on neither. -/
theorem connective_assoc (op : LogicalOp) (x y z : Run Bool) :
    connective op (connective op x y) z = connective op x (connective op y z) := by
  unfold connective
  rw [bind_assoc]
  refine bind_congr fun p => ?_
  by_cases hp : op.decidedBy = some p
  · rw [if_pos hp, done_bind, if_pos hp, if_pos hp]
  · rw [if_neg hp, if_neg hp, bind_assoc, bind_assoc]
    refine bind_congr fun q => ?_
    rw [done_bind]
    -- The second run decides the outer connective on the left where it decides the inner one on the
    -- right, so the third one is asked for on both sides or on neither.
    by_cases hq : op.decidedBy = some q
    · have happly : op.apply p q = q := by rw [op.apply_comm, LogicalOp.apply_of_decidedBy hq]
      rw [if_pos hq, done_bind, happly, if_pos hq]
    · rw [if_neg (mt (LogicalOp.decidedBy_eq_some_apply_iff hp q).mp hq), if_neg hq, bind_assoc]
      refine bind_congr fun r => ?_
      rw [done_bind, op.apply_assoc]

/-- **The opposite of a connective** is the dual connective of the opposites. -/
theorem not_connective {op op' : LogicalOp} (h : op.IsDual op') (x y : Run Bool) :
    not <$> connective op x y = connective op' (not <$> x) (not <$> y) := by
  unfold connective
  rw [map_bind, bind_map_left]
  refine bind_congr fun p => ?_
  by_cases hp : op.decidedBy = some p
  · rw [if_pos hp, if_pos ((h.decidedBy p).mpr hp), map_done]
  · rw [if_neg hp, if_neg (mt (h.decidedBy p).mp hp), map_bind, bind_map_left]
    refine bind_congr fun q => ?_
    rw [map_done, h.apply]

/-! ### Runs up to messages -/

/-- **Runs that differ in a message at most**: they invoke the same functions with the same
arguments and in the same order, and end with the same value, or with errors of one sort at one
place. -/
structure SameButMessage (x y : Run α) : Prop where
  invocations : x.invocations = y.invocations
  outcome : x.outcome.mapError EvalError.blame = y.outcome.mapError EvalError.blame

variable {x y z : Run α} {f g : α → Run β}

/-- Equal runs have equal messages too. -/
theorem SameButMessage.of_eq (h : x = y) : SameButMessage x y := h ▸ ⟨rfl, rfl⟩

/-- Runs can differ in the one direction only if they do in the other. -/
theorem SameButMessage.symm (h : SameButMessage x y) : SameButMessage y x :=
  ⟨h.invocations.symm, h.outcome.symm⟩

/-- Differences in messages add up to differences in messages. -/
theorem SameButMessage.trans (h : SameButMessage x y) (h' : SameButMessage y z) :
    SameButMessage x z :=
  ⟨h.invocations.trans h'.invocations, h.outcome.trans h'.outcome⟩

/-- Runs that differ in a message at most come to the same value, or both fail. -/
theorem SameButMessage.cases (h : SameButMessage x y) :
    (∃ a, x.outcome = .ok a ∧ y.outcome = .ok a) ∨
      ∃ e e', x.outcome = .error e ∧ y.outcome = .error e' ∧ e.blame = e'.blame := by
  have houtcome := h.outcome
  cases hx : x.outcome with
  | ok a =>
    cases hy : y.outcome with
    | ok b =>
      rw [hx, hy] at houtcome
      exact .inl ⟨a, rfl, congrArg Except.ok (Except.ok.inj houtcome).symm⟩
    | error e => rw [hx, hy] at houtcome; cases houtcome
  | error e =>
    cases hy : y.outcome with
    | ok b => rw [hx, hy] at houtcome; cases houtcome
    | error e' =>
      rw [hx, hy] at houtcome
      exact .inr ⟨e, e', rfl, rfl, Except.error.inj houtcome⟩

/-- **Runs that go on** differ in a message at most if their parts do. -/
theorem SameButMessage.bind (h : SameButMessage x y) (hf : ∀ a, SameButMessage (f a) (g a)) :
    SameButMessage (x >>= f) (y >>= g) := by
  rcases h.cases with ⟨a, hx, hy⟩ | ⟨e, e', hx, hy, he⟩
  · rw [bind_of_outcome_eq_ok hx, bind_of_outcome_eq_ok hy]
    exact ⟨congrArg₂ (· ++ ·) h.invocations (hf a).invocations, (hf a).outcome⟩
  · rw [bind_of_outcome_eq_error hx, bind_of_outcome_eq_error hy]
    exact ⟨h.invocations, congrArg Except.error he⟩

/-- Functions of the values of two runs. -/
theorem SameButMessage.map (h : SameButMessage x y) (φ : α → β) :
    SameButMessage (φ <$> x) (φ <$> y) := by
  rw [map_eq_pure_bind, map_eq_pure_bind]
  exact h.bind fun a => .of_eq rfl

/-- **Connectives of runs** differ in a message at most if their operands do. -/
theorem SameButMessage.connective {op : LogicalOp} {x x' y y' : Run Bool}
    (hx : SameButMessage x x') (hy : SameButMessage y y') :
    SameButMessage (connective op x y) (connective op x' y') := by
  apply hx.bind
  intro p
  split
  · exact .of_eq rfl
  · exact hy.bind fun q => .of_eq rfl

end Run

/-! ### Connectives of expressions -/

namespace Expr

open Run (connective SameButMessage)

variable {env : Environment} {e l r : Expr} {x y : Run Bool}

/-- **The run of an operand** to a truth value, for a node in which it plays a role. -/
def truth (env : Environment) (role : Role) (e : Expr) : Run Bool := do
  let v ← e.run env
  .lift (v.booleanFor role e.span)

/-- **An expression has a truth value** that a run comes to, in every role and up to messages. -/
def HasTruth (env : Environment) (e : Expr) (x : Run Bool) : Prop :=
  ∀ role, SameButMessage (e.truth env role) x

/-- The role of an operand shows in messages only. -/
theorem hasTruth_truth (env : Environment) (role : Role) (e : Expr) :
    HasTruth env e (e.truth env role) := by
  intro role'
  apply (SameButMessage.of_eq rfl).bind
  intro v
  cases v with
  | boolean b => exact .of_eq rfl
  | integer n => exact ⟨rfl, rfl⟩
  | string s => exact ⟨rfl, rfl⟩

/-- An expression that evaluates to a truth value has that truth value. -/
theorem HasTruth.of_run (h : SameButMessage (e.run env) (Value.boolean <$> x)) :
    HasTruth env e x := by
  intro role
  have hasked : SameButMessage (e.truth env role)
      ((Value.boolean <$> x) >>= fun v => .lift (v.booleanFor role e.span)) :=
    h.bind fun v => .of_eq rfl
  have hsame : ((Value.boolean <$> x) >>= fun v => .lift (v.booleanFor role e.span)) = x := by
    rw [bind_map_left]
    exact bind_pure x
  rwa [hsame] at hasked

/-- **NOT evaluates to the opposite** of the truth value of its operand. -/
theorem HasTruth.run_not (h : HasTruth env e x) (s : Span) :
    SameButMessage ((unary .not e s).run env) (Value.boolean <$> Bool.not <$> x) := by
  have hrun : (unary .not e s).run env =
      Value.boolean <$> Bool.not <$> e.truth env (.operand .not) := by
    rw [run, truth, map_bind, map_bind]
    refine bind_congr fun v => ?_
    rw [Run.map_lift, Run.map_lift, UnaryOp.eval]
    cases v.booleanFor (.operand .not) e.span <;> rfl
  rw [hrun]
  exact ((h _).map _).map _

/-- **A connective evaluates to the connective** of the truth values of its operands. -/
theorem HasTruth.run_logical (hl : HasTruth env l x) (hr : HasTruth env r y) (op : LogicalOp)
    (s : Span) :
    SameButMessage ((binary (.logical op) l r s).run env)
      (Value.boolean <$> connective op x y) := by
  have hrun : (binary (.logical op) l r s).run env =
      Value.boolean <$> connective op (l.truth env (.left (.logical op)))
        (r.truth env (.right (.logical op))) := by
    rw [run, connective, truth, map_bind, bind_assoc]
    refine bind_congr fun v => ?_
    refine bind_congr fun p => ?_
    rw [apply_ite (Value.boolean <$> ·), truth, map_bind, bind_assoc]
    rfl
  rw [hrun]
  exact ((hl _).connective (hr _)).map _

/-- **The opposite of a connective** is the dual connective of the opposites. -/
theorem sameButMessage_not_logical {op op' : LogicalOp} (h : op.IsDual op') (env : Environment)
    (l r : Expr) (s s' t t' t'' : Span) :
    SameButMessage ((unary .not (binary (.logical op) l r s) s').run env)
      ((binary (.logical op') (unary .not l t) (unary .not r t') t'').run env) := by
  have hl := hasTruth_truth env .filterResult l
  have hr := hasTruth_truth env .filterResult r
  have hopposite := (HasTruth.of_run (hl.run_logical hr op s)).run_not s'
  have hdual := (HasTruth.of_run (hl.run_not t)).run_logical (.of_run (hr.run_not t')) op' t''
  rw [Run.not_connective h] at hopposite
  exact hopposite.trans hdual.symm

/-- **Connectives are associative**, whatever their operands come to. -/
theorem sameButMessage_logical_assoc (op : LogicalOp) (env : Environment) (a b c : Expr)
    (s s' t t' : Span) :
    SameButMessage ((binary (.logical op) (binary (.logical op) a b s) c s').run env)
      ((binary (.logical op) a (binary (.logical op) b c t) t').run env) := by
  have ha := hasTruth_truth env .filterResult a
  have hb := hasTruth_truth env .filterResult b
  have hc := hasTruth_truth env .filterResult c
  have hleft := (HasTruth.of_run (ha.run_logical hb op s)).run_logical hc op s'
  have hright := ha.run_logical (.of_run (hb.run_logical hc op t)) op t'
  rw [Run.connective_assoc] at hleft
  exact hleft.trans hright.symm

/-- **The laws of the connectives hold for all operands**, whether they come to truth values or to
values of another kind, fail, or are left out: NOT turns AND and OR into each other, and each of the
connectives is associative. Both sides of a law invoke the same functions with the same arguments
and in the same order, and come to the same value, or to errors of one sort at one place. It does
not matter which spans the nodes have that a law puts together in different ways. -/
theorem sameButMessage_laws (env : Environment) (a b c : Expr) :
    (∀ s s' t t' t'', SameButMessage ((unary .not (binary (.logical .and) a b s) s').run env)
      ((binary (.logical .or) (unary .not a t) (unary .not b t') t'').run env)) ∧
    (∀ s s' t t' t'', SameButMessage ((unary .not (binary (.logical .or) a b s) s').run env)
      ((binary (.logical .and) (unary .not a t) (unary .not b t') t'').run env)) ∧
    ∀ op s s' t t',
      SameButMessage ((binary (.logical op) (binary (.logical op) a b s) c s').run env)
        ((binary (.logical op) a (binary (.logical op) b c t) t').run env) :=
  ⟨sameButMessage_not_logical LogicalOp.isDual_and_or env a b,
    sameButMessage_not_logical LogicalOp.isDual_or_and env a b,
    fun op => sameButMessage_logical_assoc op env a b c⟩

end Expr

end EventFilter
