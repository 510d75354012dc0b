import EventFilter.Proofs.Eval.Arithmetic

/-!
# Division and remainder

The quotient of two integers is truncated toward zero and the remainder is what is left then, so it
is smaller than the divisor and has the sign of the dividend. There is one quotient that is no
integer of 32 bits, that of the smallest one by -1, and the two operators fit together there too,
for what is recombined wraps around as well (`QuotientAndRemainder`). A machine stops at that
quotient, and at a divisor of zero; the operators are said a second time as it computes them, with
both cases provided for, and it never stops (`ArithmeticOp.guarded?_eq`).
Main statement: the laws of division hold for all operands (`Expr.divisionLaws`).
-/

namespace EventFilter

variable {a b q m : Int32}

/-! ### Division as a machine does it -/

namespace ArithmeticOp

variable {op : ArithmeticOp}

/-- **Division of a machine**, `none` where it stops: there is no quotient by zero and none outside
of 32 bits, and no remainder without a quotient. -/
def trapping? (op : ArithmeticOp) (a b : Int32) : Option Int32 :=
  if b = 0 then none
  else (Text.int32? (a.toInt.tdiv b.toInt)).bind fun _ => Text.int32? (op.unwrapped a.toInt b.toInt)

/-- Division with the one quotient provided for that is too big. -/
def wrapping? (op : ArithmeticOp) (a b : Int32) : Option Int32 :=
  if a = -2147483648 ∧ b = -1 then some (if op = .div then a else 0) else trapping? op a b

/-- Division with a divisor of zero provided for as well. The outer `none` is a machine that stops,
and the inner one is the error. -/
def guarded? (op : ArithmeticOp) (a b : Int32) : Option (Option Int32) :=
  if b = 0 then some none else (wrapping? op a b).map some

end ArithmeticOp

/-- Only one quotient is not the exact one. -/
theorem toInt_div_of_not_overflow (h : ¬(a = -2147483648 ∧ b = -1)) :
    (a / b).toInt = a.toInt.tdiv b.toInt := by
  by_cases ha : a = -2147483648
  · exact Int32.toInt_div_of_ne_right a b fun hb => h ⟨ha, hb⟩
  · exact Int32.toInt_div_of_ne_left a b ha

/-- **A machine computes the operators** and never stops. -/
theorem ArithmeticOp.guarded?_eq {op : ArithmeticOp} (hop : op = .div ∨ op = .mod) (a b : Int32) :
    op.guarded? a b = some ( op.apply? a b) := by
  unfold guarded?
  by_cases hb : b = 0
  · rcases hop with rfl | rfl <;> rw [if_pos hb, ArithmeticOp.apply?, if_pos hb]
  rw [if_neg hb, wrapping?]
  by_cases hover : a = -2147483648 ∧ b = -1
  · obtain ⟨rfl, rfl⟩ := hover
    rcases hop with rfl | rfl <;> decide
  · have hdiv : Text.int32? (a.toInt.tdiv b.toInt) = some (a / b) :=
      Text.int32?_eq_some_iff.mpr (toInt_div_of_not_overflow hover)
    rw [if_neg hover, trapping?, if_neg hb, hdiv, Option.bind_some]
    rcases hop with rfl | rfl
    · rw [unwrapped, hdiv, ArithmeticOp.apply?, if_neg hb, Option.map_some]
    · rw [unwrapped, ← Int32.toInt_mod, Text.int32?_toInt, ArithmeticOp.apply?, if_neg hb,
        Option.map_some]

/-! ### Quotient and remainder -/

/-- **A quotient and a remainder that fit together.** -/
structure QuotientAndRemainder (a b q m : Int32) : Prop where
  /-- what is recombined in 32 bits is the dividend -/
  recombine : q * b + m = a
  /-- the remainder is smaller than the divisor, whatever the signs are -/
  magnitude : m.toInt.natAbs < b.toInt.natAbs
  /-- the remainder is zero or has the sign of the dividend -/
  sign : m = 0 ∨ m.toInt.sign = a.toInt.sign
  /-- the quotient is the exact one, truncated toward zero -/
  truncated : ¬(a = -2147483648 ∧ b = -1) → q.toInt = a.toInt.tdiv b.toInt
  /-- the quotient that is too big wraps around -/
  overflow : a = -2147483648 → b = -1 → q = -2147483648 ∧ m = 0

/-- **The two operators fit together.** -/
theorem quotientAndRemainder (hb : b ≠ 0) : QuotientAndRemainder a b (a / b) (a % b) where
  recombine := by
    have hdiv : a / b = Int32.ofInt (a.toInt.tdiv b.toInt) :=
      ((Int32.ofInt_eq_iff_bmod_eq_toInt _ _).mpr (a.toInt_div b).symm).symm
    have hmod : a % b = Int32.ofInt (a.toInt.tmod b.toInt) := by
      rw [← Int32.toInt_mod, Int32.ofInt_toInt]
    calc a / b * b + a % b
        = Int32.ofInt (a.toInt.tdiv b.toInt * b.toInt + a.toInt.tmod b.toInt) := by
          rw [Int32.ofInt_add, Int32.ofInt_mul, Int32.ofInt_toInt, ← hdiv, ← hmod]
      _ = a := by rw [Int.tdiv_mul_add_tmod, Int32.ofInt_toInt]
  magnitude := by
    rw [Int32.toInt_mod, Int.natAbs_tmod]
    refine Nat.mod_lt _ (Int.natAbs_pos.mpr ?_)
    exact fun h => hb (Int32.toInt_inj.mp h)
  sign := by
    rw [← Int32.toInt_inj, Int32.toInt_mod, Int.sign_tmod, Int32.toInt_zero]
    split
    · rename_i hdvd
      exact .inl (Int.tmod_eq_zero_of_dvd hdvd)
    · exact .inr rfl
  truncated := toInt_div_of_not_overflow
  overflow := by
    rintro rfl rfl
    decide

namespace Expr

variable {env : Environment} {l r : Expr}

/-- **The laws of division** for expressions that denote the integers `a` and `b`. -/
structure DivisionLaws (env : Environment) (l r : Expr) (a b : Int32) : Prop where
  /-- by zero both operators fail, at the span of the node -/
  byZero : b = 0 → ∀ (op : ArithmeticOp) s, op = .div ∨ op = .mod →
    (binary (.arithmetic op) l r s).eval env = .error ⟨.divisionByZero, s⟩
  /-- by anything else both come to integers, and these fit together -/
  results : b ≠ 0 → ∃ q m, QuotientAndRemainder a b q m ∧
    (∀ s, (binary (.arithmetic .div) l r s).eval env = .ok (.integer q)) ∧
    ∀ s, (binary (.arithmetic .mod) l r s).eval env = .ok (.integer m)
  /-- the language recombines them to the dividend -/
  recombine : b ≠ 0 → ∀ s₁ s₂ s₃ s₄,
    (binary (.arithmetic .add) (binary (.arithmetic .mul) (binary (.arithmetic .div) l r s₁) r s₂)
      (binary (.arithmetic .mod) l r s₃) s₄).eval env = .ok (.integer a)
  /-- a machine does not stop at either of them -/
  total : ∀ op : ArithmeticOp, op = .div ∨ op = .mod → op.guarded? a b = some ( op.apply? a b)

/-- **The laws of division hold for all operands** that denote integers. -/
theorem divisionLaws (hl : l.Denotes env a.toInt) (hr : r.Denotes env b.toInt) :
    DivisionLaws env l r a b := by
  have heval (op : ArithmeticOp) (s : Span) := eval_arithmetic hl hr op s
  have hdiv (hb : b ≠ 0) (s : Span) :
      (binary (.arithmetic .div) l r s).eval env = .ok (.integer (a / b)) := by
    rw [heval, ArithmeticOp.apply?, if_neg hb, Option.elim_some]
  have hmod (hb : b ≠ 0) (s : Span) :
      (binary (.arithmetic .mod) l r s).eval env = .ok (.integer (a % b)) := by
    rw [heval, ArithmeticOp.apply?, if_neg hb, Option.elim_some]
  refine ⟨?_, fun hb => ⟨_, _, quotientAndRemainder hb, hdiv hb, hmod hb⟩, ?_, ?_⟩
  · intro hb op s hop
    rcases hop with rfl | rfl <;> rw [heval, ArithmeticOp.apply?, if_pos hb, Option.elim_none]
  · intro hb s₁ s₂ s₃ s₄
    have hproduct : (binary (.arithmetic .mul) (binary (.arithmetic .div) l r s₁) r s₂).eval env =
        .ok (.integer (a / b * b)) := eval_arithmetic ⟨_, hdiv hb s₁, .integer _⟩ hr .mul s₂
    have hsum := eval_arithmetic ⟨_, hproduct, .integer _⟩ ⟨_, hmod hb s₃, .integer _⟩ .add s₄
    rw [hsum, ArithmeticOp.apply?, Option.elim_some, (quotientAndRemainder hb).recombine]
  · exact fun op hop => op.guarded?_eq hop a b

/-- The one quotient that is too big, of a numeral. -/
theorem divisionLaws_smallest :
    let env : Environment := ⟨fun _ => none, fun _ => none⟩
    let l := literal (.string "-2147483648") .detached
    let r := literal (.integer (-1)) .detached
    l.Denotes env (-2147483648) ∧ r.Denotes env (-1) ∧
      DivisionLaws env l r (-2147483648) (-1) ∧
      (binary (.arithmetic .div) l r .detached).eval env = .ok (.integer (-2147483648)) ∧
      (binary (.arithmetic .mod) l r .detached).eval env = .ok (.integer 0) := by
  intro env l r
  have hl : l.Denotes env (-2147483648) := by
    refine ⟨_, rfl, .string ?_ (by decide) (by decide)⟩
    exact .minus (by decide) (by decide)
  have hr : r.Denotes env (-1) := ⟨_, rfl, .integer _⟩
  have hlaws : DivisionLaws env l r (-2147483648) (-1) := divisionLaws hl hr
  obtain ⟨q, m, hqm, hdiv, hmod⟩ := hlaws.results (by decide)
  obtain ⟨rfl, rfl⟩ := hqm.overflow rfl rfl
  exact ⟨hl, hr, hlaws, hdiv _, hmod _⟩

end Expr

end EventFilter
