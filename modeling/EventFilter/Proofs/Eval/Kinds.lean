import EventFilter.Proofs.Eval.Arguments
import EventFilter.Proofs.Eval.Operator

/-!
# Kinds of expressions

A kind can be given to an expression before it is evaluated, from the kinds of the attributes and
the declarations of the functions (`Expr.HasKind`). An expression that has a kind is evaluated
without implicit conversions except those to texts, which never fail, so that few errors are left to
it (`EvalError.Cause.Excused`).
Main statement: an expression that has a kind comes to a value of this kind, or fails for an
attribute that is not there, for a division by zero, or for what a function answers
(`Expr.kind_of_eval_of_hasKind`).
-/

namespace EventFilter

/-- **An expression has a kind**, given the kinds of attributes and the overloads under each name.
Lists of operands are given as the pairs of each operand with its kind. -/
inductive Expr.HasKind (kindOf : String → Option Kind)
    (overloads : String → Option (List Overload)) : Expr → Kind → Prop
  /-- a constant has the kind of its value -/
  | literal (v s) : HasKind kindOf overloads (.literal v s) v.kind
  /-- an attribute has the kind that is assumed of it -/
  | attr {name s k} : kindOf name = some k → HasKind kindOf overloads (.attr name s) k
  /-- NOT -/
  | not {x s} : HasKind kindOf overloads x .boolean →
      HasKind kindOf overloads (.unary .not x s) .boolean
  /-- the unary minus -/
  | negate {x s} : HasKind kindOf overloads x .integer →
      HasKind kindOf overloads (.unary .negate x s) .integer
  /-- arithmetic -/
  | arithmetic {op l r s} : HasKind kindOf overloads l .integer →
      HasKind kindOf overloads r .integer →
      HasKind kindOf overloads (.binary (.arithmetic op) l r s) .integer
  /-- a comparison of operands of comparable kinds -/
  | comparison {op l r s j k} : HasKind kindOf overloads l j → HasKind kindOf overloads r k →
      op.Comparable j k → HasKind kindOf overloads (.binary (.comparison op) l r s) .boolean
  /-- a connective -/
  | logical {op l r s} : HasKind kindOf overloads l .boolean →
      HasKind kindOf overloads r .boolean →
      HasKind kindOf overloads (.binary (.logical op) l r s) .boolean
  /-- EXISTS -/
  | present (name s s') : HasKind kindOf overloads (.present name s s') .boolean
  /-- IN, with an integer among integers or anything else among anything else -/
  | among {x j s} (set : List (Expr × Kind)) : HasKind kindOf overloads x j →
      (∀ i ∈ set, HasKind kindOf overloads i.1 i.2) →
      (∀ i ∈ set, j = .integer ↔ i.2 = .integer) →
      HasKind kindOf overloads (.among x (set.map (·.1)) s) .boolean
  /-- LIKE, with a value of any kind -/
  | like {x p s k} : HasKind kindOf overloads x k →
      HasKind kindOf overloads (.like x p s) .boolean
  /-- a call, with arguments of the declared kinds or for parameters that are texts -/
  | call {name s fs f} (args : List (Expr × Kind)) : overloads name = some fs →
      Registry.select fs args.length = some f →
      (∀ i ∈ args, HasKind kindOf overloads i.1 i.2) →
      (∀ n i k, args[n]? = some i → f.kindAt? n = some k → i.2 = k ∨ k = .string) →
      HasKind kindOf overloads (.call name (args.map (·.1)) s) f.returns

/-- An overload that an environment offers. -/
def Environment.Offers (env : Environment) (f : Overload) : Prop :=
  ∃ name fs, env.overloads name = some fs ∧ f ∈ fs

/-- Values that an overload declares its parameters to be of. -/
def Overload.Takes (f : Overload) (values : List Value) : Prop :=
  ∀ i v, values[i]? = some v → f.kindAt? i = some v.kind

/-- **The errors that a kind does not rule out.** -/
inductive EvalError.Cause.Excused (env : Environment) : EvalError.Cause → Prop
  /-- an attribute that is not there -/
  | missing {name} : env.valueOf name = none → Excused env (.missingAttribute name)
  /-- a division by zero -/
  | divisionByZero : Excused env .divisionByZero
  /-- the failure that the body of a function answers values of the declared kinds with -/
  | failed {f values e} : env.Offers f → f.Takes values → f.body values = .error e →
      Excused env (.failed f.name e)
  /-- an answer of a function that cannot be converted to the kind it declares -/
  | result {f values v e} : env.Offers f → f.Takes values → f.body values = .ok v →
      v.coerce f.returns = .error e → Excused env (.coercion (.result f.name) e)

open EvalError.Cause (Excused)

/-- **A run of an expression that has a kind** ends with a value of that kind or an excused
error. -/
theorem Expr.HasKind.ends {kindOf : String → Option Kind} {env : Environment}
    (hattr : ∀ name v k, env.valueOf name = some v → kindOf name = some k → v.kind = k) {e : Expr}
    {k : Kind} (h : HasKind kindOf env.overloads e k) :
    (e.run env).Ends (Excused env) (·.kind = k) := by
  induction h with
  | literal v s => exact .done rfl
  | @attr name s k hk =>
    unfold run
    split
    · rename_i v hv
      exact .done (hattr name v k hv hk)
    · rename_i hnone
      exact .fail (.missing hnone)
  | not _ ih =>
    unfold run
    apply ih.bind
    intro v hv
    obtain ⟨b, rfl⟩ := Value.exists_eq_boolean hv
    exact .done rfl
  | negate _ ih =>
    unfold run
    apply ih.bind
    intro v hv
    obtain ⟨n, rfl⟩ := Value.exists_eq_integer hv
    exact .done rfl
  | @arithmetic op l r s _ _ ihl ihr =>
    unfold run
    apply ihl.bind
    intro a ha
    apply ihr.bind
    intro b hb
    obtain ⟨m, rfl⟩ := Value.exists_eq_integer ha
    obtain ⟨n, rfl⟩ := Value.exists_eq_integer hb
    rcases ArithmeticOp.eval_integer op m n with ⟨k, hk⟩ | hzero
    · rw [hk]
      exact .done rfl
    · rw [hzero]
      exact .fail .divisionByZero
  | comparison _ _ hcomparable ihl ihr =>
    unfold run
    apply ihl.bind
    intro a ha
    apply ihr.bind
    intro b hb
    subst ha hb
    obtain ⟨p, hp⟩ := ComparisonOp.exists_eval_eq_ok hcomparable
    rw [hp]
    exact .done rfl
  | logical _ _ ihl ihr =>
    have hboolean {v : Value} {role : Role} {span : Span} (hv : v.kind = .boolean) :
        (Run.lift (v.booleanFor role span)).Ends (Excused env) fun _ => True := by
      obtain ⟨b, rfl⟩ := Value.exists_eq_boolean hv
      exact .done trivial
    unfold run
    apply ihl.bind
    intro a ha
    apply (hboolean ha).bind
    intro p _
    split
    · exact .done rfl
    · apply ihr.bind
      intro b hb
      apply (hboolean hb).bind
      intro q _
      exact .done rfl
  | present name s s' => exact .done rfl
  | @among x j s set _ _ hkinds ih ihset =>
    unfold run
    apply ih.bind
    intro needle hneedle
    apply ends_runAmong (P := fun v => ComparisonOp.eq.Comparable needle.kind v.kind)
    · intro c hc
      obtain ⟨i, hi, rfl⟩ := List.mem_map.mp hc
      apply (ihset i hi).mono
      intro v hv
      rw [hneedle, hv]
      exact ComparisonOp.comparable_of_iff rfl (hkinds i hi)
    · intro v s' e hv herr
      obtain ⟨p, hp⟩ := ComparisonOp.exists_eval_eq_ok hv
      rw [hp] at herr
      cases herr
  | like _ ih =>
    unfold run
    apply ih.bind
    intro v _
    exact .done rfl
  | @call name s fs f args hlookup hselect _ hkinds ihargs =>
    have hf : env.Offers f := ⟨name, fs, hlookup, (Registry.accepts_of_select hselect).1⟩
    apply ends_call hlookup
    · rwa [List.length_map]
    · intro n c hc k hk
      rw [List.getElem?_map] at hc
      obtain ⟨i, hi, rfl⟩ := Option.map_eq_some_iff.mp hc
      apply (ihargs i (List.mem_of_getElem? hi)).mono
      intro v hv e he
      obtain ⟨w, hw⟩ := Value.exists_coerce_eq_ok (hv ▸ hkinds n i k hi hk)
      rw [hw] at he
      cases he
    · intro values e hvalues he
      exact .failed hf hvalues he
    · intro values v e hvalues hv he
      exact .result hf hvalues hv he

/-- **An expression that has a kind comes to a value of this kind**, in every environment with the
overloads and with attributes of the kinds that were assumed, or fails with an excused error. -/
theorem Expr.kind_of_eval_of_hasKind {kindOf : String → Option Kind}
    {overloads : String → Option (List Overload)} {e : Expr} {k : Kind}
    (h : HasKind kindOf overloads e k) {env : Environment} (henv : env.overloads = overloads)
    (hattr : ∀ name v k, env.valueOf name = some v → kindOf name = some k → v.kind = k) :
    (∃ v, e.eval env = .ok v ∧ v.kind = k) ∨
      ∃ err, e.eval env = .error err ∧ Excused env err.cause := by
  subst henv
  exact (h.ends hattr).cases

/-- A search of an integer among a constant and the length of a truth value, which is taken as a
text. -/
theorem Expr.kind_of_eval_of_hasKind_length :
    let length := Overload.define "length" [.string] none .integer fun _ => .ok (.integer 4)
    let kindOf := fun name => if name = "flag" then some Kind.boolean else some .integer
    let env : Environment :=
      ⟨fun name => if name = "flag" then some (.boolean true) else some (.integer 3),
        fun _ => some [length]⟩
    let call := Expr.call "LENGTH" [.attr "flag" .detached] .detached
    let one := Expr.literal (.integer 1) .detached
    let sum := Expr.binary (.arithmetic .add) (.attr "n" .detached) one .detached
    let e := Expr.among sum [one, call] .detached
    HasKind kindOf env.overloads e .boolean ∧
      ((∃ v, e.eval env = .ok v ∧ v.kind = .boolean) ∨
        ∃ err, e.eval env = .error err ∧ Excused env err.cause) := by
  intro length kindOf env call one sum e
  have hone : HasKind kindOf env.overloads one .integer := .literal _ _
  have hcall : HasKind kindOf env.overloads call .integer := by
    refine .call (f := length) [(.attr "flag" .detached, .boolean)] rfl rfl ?_ ?_
    · exact List.forall_mem_singleton.mpr (.attr rfl)
    · rintro n i k hi hk
      cases n with
      | zero => exact .inr (Option.some.inj hk).symm
      | succ n => cases hi
  have hsum : HasKind kindOf env.overloads sum .integer := .arithmetic (.attr rfl) hone
  have he : HasKind kindOf env.overloads e .boolean := by
    refine .among [(one, .integer), (call, .integer)] hsum ?_ ?_
    · exact List.forall_mem_cons.mpr ⟨hone, List.forall_mem_singleton.mpr hcall⟩
    · exact List.forall_mem_cons.mpr ⟨Iff.rfl, List.forall_mem_singleton.mpr Iff.rfl⟩
  refine ⟨he, Expr.kind_of_eval_of_hasKind he rfl ?_⟩
  intro name v k hv hk
  by_cases hname : name = "flag"
  · simp only [env, kindOf, hname] at hv hk
    cases hv
    cases hk
    rfl
  · simp only [env, kindOf, if_neg hname] at hv hk
    cases hv
    cases hk
    rfl

end EventFilter
