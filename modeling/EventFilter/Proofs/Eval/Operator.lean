import EventFilter.Outcomes
import EventFilter.Proofs.Eval.Outcome

/-!
# How operators fail

On values of the wrong kind an operator fails with a type mismatch, and apart from that only
arithmetic fails, with a division by zero. Each failure is at the span of the operand that could not
be converted, or at that of the whole node (`UnaryOp.eval_eq_error`, `ArithmeticOp.eval_eq_error`,
`ComparisonOp.eval_eq_error`). Which kinds can be compared is said by `ComparisonOp.Comparable`: a
comparison of values of such kinds never fails (`ComparisonOp.exists_eval_eq_ok`).
-/

namespace EventFilter

variable {e : EvalError} {left right node : Span}

/-! ### Failures -/

/-- A value is no integer if it cannot be converted to one. -/
theorem Value.integerFor_eq_error_iff {v : Value} {role : Role} {s : Span} :
    v.integerFor role s = .error e ↔
      ∃ err, v.coerce .integer = .error err ∧ e = ⟨.coercion role err, s⟩ := by
  simp only [integerFor, coerce, mapError_eq_error_iff, map_eq_error_iff]

/-- A value is no truth value if it cannot be converted to one. -/
theorem Value.booleanFor_eq_error_iff {v : Value} {role : Role} {s : Span} :
    v.booleanFor role s = .error e ↔
      ∃ err, v.coerce .boolean = .error err ∧ e = ⟨.coercion role err, s⟩ := by
  simp only [booleanFor, coerce, mapError_eq_error_iff, map_eq_error_iff]

/-- The kind that an operator takes its operand as. -/
def UnaryOp.operandKind : UnaryOp → Kind
  | .not => .boolean
  | .negate => .integer

/-- **An operator before its operand fails** for an operand that cannot be converted. -/
theorem UnaryOp.eval_eq_error {op : UnaryOp} {v : Value} {s : Span} (h : op.eval v s = .error e) :
    ∃ err, v.coerce op.operandKind = .error err ∧ e = ⟨.coercion (.operand op) err, s⟩ := by
  cases op with
  | not => exact Value.booleanFor_eq_error_iff.mp (map_eq_error_iff.mp h)
  | negate => exact Value.integerFor_eq_error_iff.mp (map_eq_error_iff.mp h)

/-- Arithmetic has no result only for a quotient or a remainder by zero. -/
theorem ArithmeticOp.of_apply?_eq_none {op : ArithmeticOp} {m n : Int32}
    (h : op.apply? m n = none) : (op = .div ∨ op = .mod) ∧ n = 0 := by
  by_cases hn : n = 0
  · cases op with
    | add | sub | mul => cases h
    | div => exact ⟨.inl rfl, hn⟩
    | mod => exact ⟨.inr rfl, hn⟩
  · cases op <;> simp [hn, ArithmeticOp.apply?] at h

/-- **Arithmetic fails** for one of its operands, or in a division by zero. -/
theorem ArithmeticOp.eval_eq_error {op : ArithmeticOp} {a b : Value}
    (h : op.eval a b left right node = .error e) :
    (∃ err, a.coerce .integer = .error err ∧
        e = ⟨.coercion (.left (.arithmetic op)) err, left⟩) ∨
      (∃ err, b.coerce .integer = .error err ∧
        e = ⟨.coercion (.right (.arithmetic op)) err, right⟩) ∨
      ((op = .div ∨ op = .mod) ∧ b.toInteger = .ok 0 ∧ e = ⟨.divisionByZero, node⟩) := by
  unfold eval at h
  rcases bind_eq_error_iff.mp h with hm | ⟨m, -, h⟩
  · exact .inl (Value.integerFor_eq_error_iff.mp hm)
  rcases bind_eq_error_iff.mp h with hn | ⟨n, hn, h⟩
  · exact .inr (.inl (Value.integerFor_eq_error_iff.mp hn))
  split at h
  · cases h
  · rename_i hnone
    cases h
    obtain ⟨hop, rfl⟩ := of_apply?_eq_none hnone
    exact .inr (.inr ⟨hop, mapError_eq_ok_iff.mp hn, rfl⟩)

/-- **A comparison fails** for an operand that is compared with an integer, or for being put between
two truth values to order them. -/
theorem ComparisonOp.eval_eq_error {op : ComparisonOp} {a b : Value}
    (h : op.eval a b left right node = .error e) :
    (∃ n err, b = .integer n ∧ a.coerce .integer = .error err ∧
        e = ⟨.coercion (.compared op) err, left⟩) ∨
      (∃ m err, a = .integer m ∧ b.coerce .integer = .error err ∧
        e = ⟨.coercion (.compared op) err, right⟩) ∨
      ∃ x y, a = .boolean x ∧ b = .boolean y ∧ op.isEquality = false ∧
        e = ⟨.orderedBooleans op, node⟩ := by
  unfold eval at h
  split at h
  · rename_i x y
    split at h
    · cases h
    · rename_i hop
      cases h
      exact .inr (.inr ⟨x, y, rfl, rfl, Bool.eq_false_iff.mpr hop, rfl⟩)
  · split at h
    · rename_i hkind
      rcases bind_eq_error_iff.mp h with hm | ⟨m, -, h⟩
      · obtain ⟨err, herr, rfl⟩ := Value.integerFor_eq_error_iff.mp hm
        -- The first operand is no integer, so the second one is what makes it be taken as one.
        have hb : b.kind = .integer := by
          refine hkind.resolve_left fun ha => ?_
          cases a <;> cases ha
          cases herr
        cases b <;> cases hb
        exact .inl ⟨_, err, rfl, herr, rfl⟩
      rcases bind_eq_error_iff.mp h with hn | ⟨n, -, h⟩
      · obtain ⟨err, herr, rfl⟩ := Value.integerFor_eq_error_iff.mp hn
        have ha : a.kind = .integer := by
          refine hkind.resolve_right fun hb => ?_
          cases b <;> cases hb
          cases herr
        cases a <;> cases ha
        exact .inr (.inl ⟨_, err, rfl, herr, rfl⟩)
      · cases h
    · cases h

/-! ### The sorts of failures -/

/-- A value that is no truth value is a type mismatch. -/
theorem Value.kind_of_booleanFor_eq_error {v : Value} {role : Role} {s : Span}
    (h : v.booleanFor role s = .error e) : e.kind = .typeMismatch := by
  obtain ⟨err, -, rfl⟩ := booleanFor_eq_error_iff.mp h
  rfl

/-- An operator before its operand fails with a type mismatch only. -/
theorem UnaryOp.kind_of_eval_eq_error {op : UnaryOp} {v : Value} {s : Span}
    (h : op.eval v s = .error e) : e.kind = .typeMismatch := by
  obtain ⟨err, -, rfl⟩ := eval_eq_error h
  rfl

/-- **Arithmetic fails** with a type mismatch or with a division by zero. -/
theorem ArithmeticOp.kind_of_eval_eq_error {op : ArithmeticOp} {a b : Value}
    (h : op.eval a b left right node = .error e) :
    e.kind = .typeMismatch ∨ e.kind = .divisionByZero := by
  rcases eval_eq_error h with ⟨err, -, rfl⟩ | ⟨err, -, rfl⟩ | ⟨-, -, rfl⟩
  · exact .inl rfl
  · exact .inl rfl
  · exact .inr rfl

/-- **A comparison fails** with a type mismatch only. -/
theorem ComparisonOp.kind_of_eval_eq_error {op : ComparisonOp} {a b : Value}
    (h : op.eval a b left right node = .error e) : e.kind = .typeMismatch := by
  rcases eval_eq_error h with ⟨n, err, -, -, rfl⟩ | ⟨m, err, -, -, rfl⟩ | ⟨x, y, -, -, -, rfl⟩ <;>
    rfl

/-! ### Operators on values of the right kinds -/

/-- **The kinds that a comparison is made for**: two integers, or two values of which none is an
integer and that are not two truth values put in order. -/
def ComparisonOp.Comparable (op : ComparisonOp) (j k : Kind) : Prop :=
  (j = .integer ∧ k = .integer) ∨
    (j ≠ .integer ∧ k ≠ .integer ∧ ¬(j = .boolean ∧ k = .boolean ∧ op.isEquality = false))

/-- An equality is made for two integers or for two other values. -/
theorem ComparisonOp.comparable_of_iff {op : ComparisonOp} {j k : Kind}
    (hop : op.isEquality = true) (h : j = .integer ↔ k = .integer) : op.Comparable j k := by
  by_cases hj : j = .integer
  · exact .inl ⟨hj, h.mp hj⟩
  · refine .inr ⟨hj, mt h.mpr hj, ?_⟩
    intro hboolean
    rw [hop] at hboolean
    cases hboolean.2.2

/-- **Values of comparable kinds are compared** without fail. -/
theorem ComparisonOp.exists_eval_eq_ok {op : ComparisonOp} {a b : Value}
    (h : op.Comparable a.kind b.kind) : ∃ p, op.eval a b left right node = .ok p := by
  rcases h with ⟨ha, hb⟩ | ⟨ha, hb, hne⟩
  · cases a <;> cases ha
    cases b <;> cases hb
    exact ⟨_, rfl⟩
  · cases a with
    | integer m => exact absurd rfl ha
    | boolean x =>
      cases b with
      | integer n => exact absurd rfl hb
      | string t => exact ⟨_, rfl⟩
      | boolean y =>
        cases heq : op.isEquality with
        | false => exact absurd ⟨rfl, rfl, heq⟩ hne
        | true => exact ⟨op.test (compare x y), if_pos heq⟩
    | string s =>
      cases b with
      | integer n => exact absurd rfl hb
      | boolean y => exact ⟨_, rfl⟩
      | string t => exact ⟨_, rfl⟩

/-- A value is an integer if its kind says so. -/
theorem Value.exists_eq_integer {v : Value} (h : v.kind = .integer) : ∃ n, v = .integer n := by
  cases v <;> cases h
  exact ⟨_, rfl⟩

/-- A value is a truth value if its kind says so. -/
theorem Value.exists_eq_boolean {v : Value} (h : v.kind = .boolean) : ∃ b, v = .boolean b := by
  cases v <;> cases h
  exact ⟨_, rfl⟩

/-- An integer is one in every role. -/
@[simp] theorem Value.integerFor_integer (n : Int32) (role : Role) (span : Span) :
    (Value.integer n).integerFor role span = .ok n := rfl

/-- Integers fail to be computed with in a division by zero only. -/
theorem ArithmeticOp.eval_integer (op : ArithmeticOp) (m n : Int32) :
    (∃ k, op.eval (.integer m) (.integer n) left right node = .ok (.integer k)) ∨
      op.eval (.integer m) (.integer n) left right node = .error ⟨.divisionByZero, node⟩ := by
  cases hk : op.apply? m n with
  | some k =>
    refine .inl ⟨k, ?_⟩
    unfold eval
    simp only [Value.integerFor_integer, bind, Except.bind, hk]
    rfl
  | none =>
    refine .inr ?_
    unfold eval
    simp only [Value.integerFor_integer, bind, Except.bind, hk]
    rfl

/-- A value of the declared kind, or any value as a text, is converted without fail. -/
theorem Value.exists_coerce_eq_ok {v : Value} {k : Kind} (h : v.kind = k ∨ k = .string) :
    ∃ w, v.coerce k = .ok w := by
  rcases h with rfl | rfl
  · cases v <;> exact ⟨_, rfl⟩
  · exact ⟨_, rfl⟩

end EventFilter
