import Mathlib.Data.Int.ModEq
import EventFilter.Proofs.Eval.Comparison

/-!
# Arithmetic modulo the number of integers

The integers of the language wrap around in 32 bits, and wrapping around respects sums, differences,
products and negations (`ArithmeticOp.result_ofInt`). So it does not matter when it is done: to wrap
around at every node comes to the same as to compute exactly and to wrap around once, at the end.
The exact value of an expression is said by a relation that has one rule for each way to build the
expression and knows nothing of 32 bits (`Expr.Exact`).
Main statement: what such an expression comes to is the one integer of the language that is its
exact value modulo 4294967296 (`Expr.eval_of_exact`).
-/

namespace EventFilter

/-! ### Operators on exact integers -/

namespace ArithmeticOp

variable {op : ArithmeticOp} {a b : Int} {v w : Value} {m n : Int32} {left right node : Span}

/-- **An operator on integers of any size**, before it is wrapped around. Quotients are truncated
toward zero, and a remainder has the sign of the dividend. -/
def unwrapped : ArithmeticOp → Int → Int → Int
  | .add, a, b => a + b
  | .sub, a, b => a - b
  | .mul, a, b => a * b
  | .div, a, b => a.tdiv b
  | .mod, a, b => a.tmod b

/-- The operators that are made for any two integers and keep congruences. -/
def isRing : ArithmeticOp → Bool
  | .add | .sub | .mul => true
  | .div | .mod => false

/-- **Wrapping around respects sums, differences and products.** -/
theorem result_ofInt (hop : op.isRing = true) (a b : Int) :
    op.apply? (Int32.ofInt a) (Int32.ofInt b) = some (Int32.ofInt (op.unwrapped a b)) := by
  cases op with
  | add => rw [unwrapped, Int32.ofInt_add, ArithmeticOp.apply?]
  | sub => rw [unwrapped, Int32.ofInt_sub, ArithmeticOp.apply?]
  | mul => rw [unwrapped, Int32.ofInt_mul, ArithmeticOp.apply?]
  | div | mod => cases hop

/-- **Arithmetic on values** is arithmetic on the integers that they denote. -/
theorem eval_of_denotes (hv : v.Denotes m.toInt) (hw : w.Denotes n.toInt) :
    op.eval v w left right node =
      ( op.apply? m n).elim (.error ⟨.divisionByZero, node⟩) fun k => .ok (.integer k) := by
  unfold eval
  rw [Value.integerFor_eq_ok_iff.mpr hv, Value.integerFor_eq_ok_iff.mpr hw]
  cases hk : op.apply? m n <;> simp only [bind, Except.bind, hk] <;> rfl

/-- What comes out of arithmetic is an integer. -/
theorem exists_integer_of_eval {u : Value} (h : op.eval v w left right node = .ok u) :
    ∃ k, u = .integer k := by
  unfold eval at h
  obtain ⟨m, -, h⟩ := bind_eq_ok_iff.mp h
  obtain ⟨n, -, h⟩ := bind_eq_ok_iff.mp h
  split at h
  · rename_i k _
    exact ⟨k, (Except.ok.inj h).symm⟩
  · cases h

end ArithmeticOp

/-- An integer is the exact one, wrapped around, if it is the same modulo the number of integers. -/
theorem eq_ofInt_iff_modEq {n : Int32} {k : Int} :
    n = Int32.ofInt k ↔ n.toInt ≡ k [ZMOD 4294967296] := by
  rw [eq_comm, Int32.ofInt_eq_iff_bmod_eq_toInt]
  constructor
  · intro h
    rw [← h]
    exact Int.bmod_emod
  · intro h
    have hbmod : n.toInt.bmod 4294967296 = k.bmod 4294967296 := by
      rw [← Int.emod_bmod n.toInt, ← Int.emod_bmod k]
      exact congrArg (Int.bmod · 4294967296) h
    exact hbmod.symm.trans n.toInt_bmod_size

namespace Expr

variable {env : Environment} {e l r : Expr} {v w : Value} {m n : Int32} {k : Int}

/-! ### Arithmetic nodes -/

/-- **The integer that an expression denotes**: the one that its value denotes. -/
def Denotes (env : Environment) (e : Expr) (k : Int) : Prop :=
  ∃ v, e.eval env = .ok v ∧ v.Denotes k

/-- Arithmetic on expressions is arithmetic on the values that they come to. -/
theorem eval_arithmetic_of_eval (hl : l.eval env = .ok v) (hr : r.eval env = .ok w)
    (op : ArithmeticOp) (s : Span) :
    (binary (.arithmetic op) l r s).eval env = op.eval v w l.span r.span s := by
  unfold eval at hl hr
  rw [eval, run, Run.outcome_bind, hl]
  exact (Run.outcome_bind _ _).trans (by rw [hr]; rfl)

/-- **Arithmetic on expressions** is arithmetic on the integers that they denote. -/
theorem eval_arithmetic (hl : l.Denotes env m.toInt) (hr : r.Denotes env n.toInt)
    (op : ArithmeticOp) (s : Span) :
    (binary (.arithmetic op) l r s).eval env =
      ( op.apply? m n).elim (.error ⟨.divisionByZero, s⟩) fun k => .ok (.integer k) := by
  obtain ⟨v, hv, hm⟩ := hl
  obtain ⟨w, hw, hn⟩ := hr
  rw [eval_arithmetic_of_eval hv hw, ArithmeticOp.eval_of_denotes hm hn]

/-- **The negation of an expression** is that of the integer that it denotes. -/
theorem eval_negate {x : Expr} (hx : x.Denotes env n.toInt) (s : Span) :
    (unary .negate x s).eval env = .ok (.integer (-n)) := by
  obtain ⟨v, hv, hn⟩ := hx
  unfold eval at hv
  rw [eval, run, Run.outcome_bind, hv]
  exact congrArg (Except.map fun n => Value.integer (-n)) (Value.integerFor_eq_ok_iff.mpr hn)

/-- The nodes that compute with integers. -/
def isArithmetic : Expr → Bool
  | unary .negate _ _ | binary (.arithmetic _) _ _ _ => true
  | _ => false

/-- What a node comes to that computes with integers is an integer. -/
theorem exists_integer_of_isArithmetic (he : e.isArithmetic = true) (h : e.eval env = .ok v) :
    ∃ n, v = .integer n := by
  unfold eval at h
  unfold isArithmetic at he
  split at he
  · rw [run] at h
    obtain ⟨u, -, hop⟩ := Run.outcome_bind_eq_ok_iff.mp h
    obtain ⟨n, -, rfl⟩ := map_eq_ok_iff.mp hop
    exact ⟨_, rfl⟩
  · rw [run] at h
    obtain ⟨u, -, h⟩ := Run.outcome_bind_eq_ok_iff.mp h
    obtain ⟨w, -, hop⟩ := Run.outcome_bind_eq_ok_iff.mp h
    exact ArithmeticOp.exists_integer_of_eval hop
  · cases he

/-! ### Exact values -/

/-- **The exact value of an expression** that adds, subtracts, multiplies and negates. At the leaves
stand expressions of any sort that denote integers. -/
inductive Exact (env : Environment) : Expr → Int → Prop
  | leaf {e : Expr} {k : Int} : e.Denotes env k → Exact env e k
  | negate {x : Expr} {k : Int} {s : Span} : Exact env x k → Exact env (unary .negate x s) (-k)
  | arithmetic {op : ArithmeticOp} {l r : Expr} {a b : Int} {s : Span} : op.isRing = true →
      Exact env l a → Exact env r b → Exact env (binary (.arithmetic op) l r s) (op.unwrapped a b)

/-- **Wrapping around at every node** comes to the same as wrapping around at the end. -/
theorem Exact.denotes (h : e.Exact env k) : e.Denotes env (Int32.ofInt k).toInt := by
  induction h with
  | leaf h =>
    obtain ⟨v, hv, hk⟩ := h
    obtain ⟨n, rfl⟩ := hk.exists_toInt_eq
    exact ⟨v, hv, by rwa [Int32.ofInt_toInt]⟩
  | negate _ ih =>
    rw [Int32.ofInt_neg]
    exact ⟨_, eval_negate ih _, .integer _⟩
  | arithmetic hop _ _ ihl ihr =>
    refine ⟨_, ?_, .integer _⟩
    rw [eval_arithmetic ihl ihr, ArithmeticOp.result_ofInt hop, Option.elim_some]

/-- **Arithmetic is exact modulo the number of integers.** -/
theorem eval_of_exact (h : e.Exact env k) :
    ∃ n : Int32, (∀ m : Int32, m.toInt ≡ k [ZMOD 4294967296] ↔ m = n) ∧ e.Denotes env n.toInt ∧
      (e.isArithmetic = true → e.eval env = .ok (.integer n)) := by
  refine ⟨Int32.ofInt k, fun m => eq_ofInt_iff_modEq.symm, h.denotes, ?_⟩
  intro he
  obtain ⟨v, hv, hk⟩ := h.denotes
  obtain ⟨n, rfl⟩ := exists_integer_of_isArithmetic he hv
  rw [hv, Int32.toInt_inj.mp ((Value.Denotes.integer n).unique hk)]

/-- A numeral in text is squared far beyond the integers, and the smallest integer subtracted. -/
theorem eval_of_exact_square :
    let env : Environment :=
      ⟨fun name => if name = "a" then some (.string "0002147483647") else none, fun _ => none⟩
    let a := attr "a" .detached
    let square := binary (.arithmetic .mul) a a .detached
    let smallest := literal (.integer (-2147483648)) .detached
    let e := unary .negate (binary (.arithmetic .sub) square smallest .detached) .detached
    e.Exact env (-4611686016279904257) ∧
      2147483647 ≡ -4611686016279904257 [ZMOD 4294967296] ∧
      e.eval env = .ok (.integer 2147483647) := by
  intro env a square smallest e
  have ha : a.Denotes env 2147483647 := by
    refine ⟨.string "0002147483647", by decide, .string ?_ (by decide) (by decide)⟩
    exact .unsigned (by decide) (by decide)
  have hsmallest : smallest.Denotes env (-2147483648) := ⟨_, rfl, .integer _⟩
  have hexact : e.Exact env (-4611686016279904257) :=
    .negate (.arithmetic rfl (.arithmetic rfl (.leaf ha) (.leaf ha)) (.leaf hsmallest))
  obtain ⟨n, hunique, -, heval⟩ := eval_of_exact hexact
  have hmod : (2147483647 : Int32).toInt ≡ -4611686016279904257 [ZMOD 4294967296] := by decide
  exact ⟨hexact, hmod, (hunique _).mp hmod ▸ heval rfl⟩

end Expr

end EventFilter
