import EventFilter.Proofs.Eval.Arithmetic
import EventFilter.Proofs.Eval.Substrings

/-!
# Explicit and implicit conversions

A value becomes an integer in three ways: as the operand of an operator, by `INT`, which is handed
the text of the value, and `IS_INT` says whether it would. All of them come down to which texts are
numerals, because the text of an integer is a numeral for it and that of a truth value is none
(`Value.readInt32?_text_eq_some_iff`). What a call comes to is said first for each of the functions
(`Expr.eval_int` and its siblings), and from this the laws are read off (`Expr.ConversionLaws`).
Main statement: the conversions agree for all expressions, integers survive being texts, and to
convert twice is to convert once (`Expr.conversions_agree`).
-/

namespace EventFilter

/-! ### Conversions of values -/

namespace Value

variable {v w : Value} {k : Kind} {n : Int32}

/-- A value of a kind is converted to that kind by leaving it as it is. -/
theorem coerce_of_kind (h : v.kind = k) : v.coerce k = .ok v := by
  subst h
  cases v <;> rfl

/-- **An integer survives being a text.** -/
theorem coerce_integer_of_text (n : Int32) :
    (Value.string (Value.integer n).text).coerce .integer = .ok (.integer n) := by
  rw [coerce, toInteger, text, String.toList_ofList, Text.readInt32?_writeInt32]
  rfl

/-- **The text of a value is read** as the integer that the value denotes, and as no other. -/
theorem readInt32?_text_eq_some_iff :
    Text.readInt32? v.text.toList = some n ↔ v.Denotes n.toInt := by
  have hdenotes : v.integerFor .filterResult .detached = .ok n ↔ v.Denotes n.toInt :=
    integerFor_eq_ok_iff
  rw [← hdenotes, integerFor, mapError_eq_ok_iff]
  cases v with
  | boolean b =>
    have hnone : Text.readInt32? (Value.boolean b).text.toList = none := by
      cases b <;> decide
    rw [hnone, toInteger]
    simp
  | integer m =>
    rw [text, String.toList_ofList, Text.readInt32?_writeInt32, toInteger]
    simp
  | string s =>
    rw [text, toInteger]
    cases Text.readInt32? s.toList <;> simp

end Value

/-- **The functions that convert are the built-in ones**, whatever else an environment has. -/
def Environment.Converts (env : Environment) : Prop :=
  ∀ name ∈ ["INT", "BOOL", "IS_INT", "IS_BOOL"],
    env.resolve name 1 = Registry.builtins.resolve name 1

/-- An environment with just the built-in functions is one of them. -/
theorem Environment.converts_of_builtins {env : Environment}
    (h : env.overloads = Registry.builtins.lookup) : env.Converts := by
  intro name _
  rw [resolve, h, Registry.resolve]

namespace Builtin

variable {t : String}

/-- `INT` of a text reads it. -/
theorem toInteger_text :
    toInteger [.string t] = (Text.readInt32? t.toList).elim
      (.error (.coercion ⟨.string t, .integer⟩)) fun n => .ok (.integer n) := by
  simp only [toInteger, integerAt, Value.toInteger, List.getElem?_cons_zero]
  cases Text.readInt32? t.toList <;> rfl

/-- `BOOL` of a text reads it. -/
theorem toBoolean_text :
    toBoolean [.string t] =
      (readBoolean? t).elim (.error (.notBoolean t)) fun p => .ok (.boolean p) := by
  simp only [toBoolean, stringAt, List.getElem?_cons_zero, bind, Except.bind]
  cases readBoolean? t <;> rfl

end Builtin

namespace Expr

/-! ### Calls -/

section calls

variable {env : Environment} {e : Expr} {v w : Value} {n : Int32} {s s₁ s₂ : Span}

/-- **A call of a function that reads a text** comes to what the function makes of the text of its
argument, or to the failure of the function. -/
theorem eval_call_of_read {α : Type} {name : String} {returns : Kind}
    {body : List Value → Except FunctionError Value} {read : Option α} {err : FunctionError}
    {answer : α → Value} (hname : Text.asciiUpper name = name)
    (hresolve : env.resolve name 1 = some (.define name [.string] none returns body))
    (he : e.eval env = .ok v)
    (hbody : body [.string v.text] = read.elim (.error err) fun a => .ok (answer a))
    (hkind : ∀ a, (answer a).kind = returns) :
    (call name [e] s).eval env =
      read.elim (.error ⟨.failed name err, s⟩) fun a => .ok (answer a) := by
  rw [eval_call_of_argumentsTo hresolve (.cons rfl he rfl .nil), Invocation.outcome]
  simp only [Overload.define, hbody, hname]
  cases read with
  | none => rfl
  | some a => exact mapError_eq_ok_iff.mpr (Value.coerce_of_kind (hkind a))

/-- `IS_INT` of a value. -/
theorem eval_isInt (henv : env.Converts) (he : e.eval env = .ok v) :
    (call "IS_INT" [e] s).eval env = .ok (.boolean (Text.readInt32? v.text.toList).isSome) :=
  eval_call_of_argumentsTo (henv "IS_INT" (by decide)) (.cons rfl he rfl .nil)

/-- `INT` of a value. -/
theorem eval_int (henv : env.Converts) (he : e.eval env = .ok v) :
    (call "INT" [e] s).eval env = (Text.readInt32? v.text.toList).elim
      (.error ⟨.failed "INT" (.coercion ⟨.string v.text, .integer⟩), s⟩) fun n =>
        .ok (.integer n) :=
  eval_call_of_read (by decide) (henv "INT" (by decide)) he Builtin.toInteger_text fun _ => rfl

/-- `IS_BOOL` of a value. -/
theorem eval_isBool (henv : env.Converts) (he : e.eval env = .ok v) :
    (call "IS_BOOL" [e] s).eval env = .ok (.boolean (Builtin.readBoolean? v.text).isSome) :=
  eval_call_of_argumentsTo (henv "IS_BOOL" (by decide)) (.cons rfl he rfl .nil)

/-- `BOOL` of a value. -/
theorem eval_bool (henv : env.Converts) (he : e.eval env = .ok v) :
    (call "BOOL" [e] s).eval env = (Builtin.readBoolean? v.text).elim
      (.error ⟨.failed "BOOL" (.notBoolean v.text), s⟩) fun p => .ok (.boolean p) :=
  eval_call_of_read (by decide) (henv "BOOL" (by decide)) he Builtin.toBoolean_text fun _ => rfl

/-- **`INT` comes to an integer** exactly if the value of its argument denotes it. -/
theorem eval_int_eq_ok_iff (henv : env.Converts) (he : e.eval env = .ok v) :
    (call "INT" [e] s).eval env = .ok w ↔ ∃ n : Int32, w = .integer n ∧ v.Denotes n.toInt := by
  simp only [← Value.readInt32?_text_eq_some_iff]
  rw [eval_int henv he]
  cases Text.readInt32? v.text.toList <;> simp [eq_comm]

/-- **A sum with zero comes to an integer** exactly if the value of the other operand denotes it. -/
theorem eval_add_zero_eq_ok_iff (he : e.eval env = .ok v) :
    (binary (.arithmetic .add) e (literal (.integer 0) s₁) s₂).eval env = .ok w ↔
      ∃ n : Int32, w = .integer n ∧ v.Denotes n.toInt := by
  have hsum (n : Int32) (hn : v.Denotes n.toInt) :
      (binary (.arithmetic .add) e (literal (.integer 0) s₁) s₂).eval env = .ok (.integer n) := by
    have hzero : (literal (.integer 0) s₁).Denotes env (0 : Int32).toInt := ⟨_, rfl, .integer 0⟩
    rw [eval_arithmetic ⟨v, he, hn⟩ hzero, ArithmeticOp.apply?, Option.elim_some, Int32.add_zero]
  constructor
  · intro h
    rw [eval_arithmetic_of_eval he rfl] at h
    obtain ⟨n, hn, -⟩ := bind_eq_ok_iff.mp h
    have hdenotes := Value.integerFor_eq_ok_iff.mp hn
    have hw := (eval_arithmetic_of_eval he rfl .add s₂).trans h
    rw [hsum n hdenotes] at hw
    exact ⟨n, (Except.ok.inj hw).symm, hdenotes⟩
  · rintro ⟨n, rfl, hn⟩
    exact hsum n hn

end calls

/-! ### Laws -/

/-- **The laws of the conversions** of an expression with the value `v`. -/
structure ConversionLaws (env : Environment) (e : Expr) (v : Value) : Prop where
  /-- `IS_INT` says whether `INT` succeeds -/
  isInt_iff : ∀ s s', (call "IS_INT" [e] s).eval env = .ok (.boolean true) ↔
    ∃ w, (call "INT" [e] s').eval env = .ok w
  /-- `INT` and a sum with zero come to the same -/
  int_iff_sum : ∀ s s₁ s₂ w, (call "INT" [e] s).eval env = .ok w ↔
    (binary (.arithmetic .add) e (literal (.integer 0) s₁) s₂).eval env = .ok w
  /-- `INT` comes to the integer that the value denotes, if it denotes one -/
  int_iff : ∀ s w, (call "INT" [e] s).eval env = .ok w ↔
    ∃ n : Int32, w = .integer n ∧ v.Denotes n.toInt
  /-- `INT` fails with a type mismatch only -/
  int_mismatch : ∀ s err, (call "INT" [e] s).eval env = .error err → err.kind = .typeMismatch
  /-- the sum fails with a type mismatch only -/
  sum_mismatch : ∀ s₁ s₂ err,
    (binary (.arithmetic .add) e (literal (.integer 0) s₁) s₂).eval env = .error err →
      err.kind = .typeMismatch
  /-- `IS_INT` and `IS_BOOL` never fail -/
  answers : ∀ s, ∀ name ∈ ["IS_INT", "IS_BOOL"], ∃ p,
    (call name [e] s).eval env = .ok (.boolean p)
  /-- `IS_BOOL` says whether `BOOL` succeeds -/
  isBool_iff : ∀ s s', (call "IS_BOOL" [e] s).eval env = .ok (.boolean true) ↔
    ∃ w, (call "BOOL" [e] s').eval env = .ok w

variable {env : Environment} {e : Expr} {v : Value}

/-- The laws hold for every expression that comes to a value. -/
theorem conversionLaws (henv : env.Converts) (he : e.eval env = .ok v) :
    ConversionLaws env e v where
  isInt_iff s s' := by
    rw [eval_isInt henv he, eval_int henv he]
    cases Text.readInt32? v.text.toList <;> simp
  int_iff_sum s s₁ s₂ w := by
    rw [eval_int_eq_ok_iff henv he, eval_add_zero_eq_ok_iff he]
  int_iff s w := eval_int_eq_ok_iff henv he
  int_mismatch s err h := by
    rw [eval_int henv he] at h
    cases hread : Text.readInt32? v.text.toList with
    | none =>
      rw [hread] at h
      cases h
      rfl
    | some n =>
      rw [hread] at h
      cases h
  sum_mismatch s₁ s₂ err h := by
    rw [eval_arithmetic_of_eval he rfl] at h
    rcases ArithmeticOp.eval_eq_error h with ⟨e, -, rfl⟩ | ⟨e, -, rfl⟩ | ⟨hop, -⟩
    · rfl
    · rfl
    · simp at hop
  answers s name hname := by
    rcases List.mem_pair.mp hname with rfl | rfl
    · exact ⟨_, eval_isInt henv he⟩
    · exact ⟨_, eval_isBool henv he⟩
  isBool_iff s s' := by
    rw [eval_isBool henv he, eval_bool henv he]
    cases Builtin.readBoolean? v.text <;> simp

/-- **The conversions agree** for all expressions; an integer survives being a text; and what has
been converted to a kind is of that kind and stays as it is when it is converted again. -/
theorem conversions_agree :
    (∀ (env : Environment) (e : Expr) (v : Value), env.Converts → e.eval env = .ok v →
      ConversionLaws env e v) ∧
    (∀ n : Int32, ∃ t, (Value.integer n).coerce .string = .ok t ∧
      t.coerce .integer = .ok (.integer n)) ∧
    ∀ (v w : Value) (k : Kind), v.coerce k = .ok w → w.kind = k ∧ w.coerce k = .ok w := by
  refine ⟨fun _ _ _ => conversionLaws, fun n => ⟨_, rfl, Value.coerce_integer_of_text n⟩, ?_⟩
  intro v w k h
  have hkind := Value.kind_of_coerce h
  exact ⟨hkind, Value.coerce_of_kind hkind⟩

/-- The smallest integer as a text with zeros in front. -/
theorem conversions_agree_smallest :
    let env : Environment := ⟨fun _ => none, Registry.builtins.lookup⟩
    let e := literal (.string "-0002147483648") .detached
    env.Converts ∧ e.eval env = .ok (.string "-0002147483648") ∧
      ConversionLaws env e (.string "-0002147483648") ∧
      (call "INT" [e] .detached).eval env = .ok (.integer (-2147483648)) ∧
      (call "IS_INT" [e] .detached).eval env = .ok (.boolean true) ∧
      Value.coerce (.integer (-2147483648)) .integer = .ok (.integer (-2147483648)) := by
  intro env e
  have henv : env.Converts := Environment.converts_of_builtins rfl
  have hlaws : ConversionLaws env e (.string "-0002147483648") :=
    conversions_agree.1 env e _ henv rfl
  have hdenotes : (Value.string "-0002147483648").Denotes (-2147483648 : Int32).toInt := by
    refine .string ?_ (by decide) (by decide)
    exact .minus (by decide) (by decide)
  have hint := (hlaws.int_iff .detached _).mpr ⟨_, rfl, hdenotes⟩
  obtain ⟨t, -, ht⟩ := conversions_agree.2.1 (-2147483648)
  exact ⟨henv, rfl, hlaws, hint, (hlaws.isInt_iff .detached .detached).mpr ⟨_, hint⟩,
    (conversions_agree.2.2 t _ .integer ht).2⟩

end Expr

end EventFilter
