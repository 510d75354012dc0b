import EventFilter.Proofs.Eval.Arguments
import EventFilter.Proofs.Eval.Positions

/-!
# Parts of texts

`LEFT` and `RIGHT` cut a number of characters off a text, and `SUBSTRING` what stands from a
position on. What a call of them comes to is said first for each function by itself, for any
expressions that come to a text and to integers. From this the laws follow that tie the functions to
each other (`Expr.SubstringLaws`): which arguments are refused, and which calls come to the same
text or give a text back in two parts. Positions run from one to the number of characters and from
minus that number to minus one, so that the laws have to hold up to the ends of both ranges.
Main statement: the laws hold for every text that an integer can count the characters of
(`Expr.substringLaws`).
-/

namespace EventFilter

/-! ### Lengths and positions -/

namespace Builtin

/-- **A position is outside of a text** of so many characters: there is none that counts as zero,
and none beyond the number of characters, from the beginning or from the end. -/
def Outside (p : Int32) (count : Nat) : Prop :=
  p.toInt = 0 ∨ (count : Int) < p.toInt ∨ p.toInt < -(count : Int)

variable {p k : Int32} {count : Nat}

/-- A number of characters that is not negative. -/
theorem characterCount_of_nonneg (h : 0 ≤ k.toInt) : characterCount k = .ok k.toInt.toNat :=
  if_neg fun hlt => not_lt.mpr h (Int32.lt_iff_toInt_lt.mp hlt)

/-- A negative number of characters. -/
theorem characterCount_of_neg (h : k.toInt < 0) : characterCount k = .error (.negativeLength k) :=
  if_pos (Int32.lt_iff_toInt_lt.mpr h)

/-- Outside of a text there is no character. -/
theorem startOf_of_outside (h : Outside p count) :
    startOf p count = .error (.positionOutOfRange p count) := by
  unfold Outside at h
  rcases lt_trichotomy p.toInt 0 with hneg | hzero | hpos
  · rw [startOf_of_neg hneg, if_neg (by omega)]
  · exact startOf_of_eq_zero hzero count
  · rw [startOf_of_pos hpos, if_neg (by omega)]

/-- A position that counts from the beginning, within a text. -/
theorem startOf_of_le (h : 1 ≤ p.toInt) (hp : p.toInt ≤ count) :
    startOf p count = .ok (p.toInt.toNat - 1) := by
  rw [startOf_of_pos (by omega), if_pos (by omega)]

/-- A position that counts from the end, within a text. -/
theorem startOf_of_neg_le (h : p.toInt ≤ -1) (hp : -(count : Int) ≤ p.toInt) :
    startOf p count = .ok (count - p.toInt.natAbs) := by
  rw [startOf_of_neg (by omega), if_pos (by omega)]

/-- There is a character at every position that is not outside. -/
theorem exists_startOf_of_not_outside (h : ¬ Outside p count) :
    ∃ start, startOf p count = .ok start := by
  unfold Outside at h
  rcases lt_or_gt_of_ne (fun hzero => h (.inl hzero) : p.toInt ≠ 0) with hneg | hpos
  · exact ⟨_, startOf_of_neg_le (by omega) (by omega)⟩
  · exact ⟨_, startOf_of_le (by omega) (by omega)⟩

end Builtin

/-! ### Integers that do not overflow -/

section integers

variable {a b : Int32}

/-- A difference that is in range is that of the integers. -/
theorem toInt_sub_of_inRange (h : -2147483648 ≤ a.toInt - b.toInt)
    (h' : a.toInt - b.toInt ≤ 2147483647) : (a - b).toInt = a.toInt - b.toInt := by
  rw [Int32.toInt_sub]
  exact Int.bmod_eq_of_le (by omega) (by omega)

/-- The opposite of a positive integer is in range. -/
theorem toInt_neg_of_pos (h : 0 < a.toInt) : (-a).toInt = -a.toInt := by
  have hlt := a.toInt_lt
  rw [Int32.toInt_neg]
  exact Int.bmod_eq_of_le (by omega) (by omega)

/-- A number of characters that an integer can hold. -/
theorem toInt_ofNat_of_le {n : Nat} (h : n ≤ 2147483647) : (Int32.ofNat n).toInt = n :=
  Int32.toInt_ofNat_of_lt (by omega)

end integers

/-! ### Calls -/

/-- What a call comes to whose function answers with a text or fails. -/
def textOrFailure (name : String) (span : Span) (answer : Except FunctionError String) :
    Except EvalError Value :=
  (answer.map .string).mapError fun e => ⟨.failed name e, span⟩

/-- A function that declares texts as its results comes to what its body answers. -/
theorem Invocation.outcome_of_returns_string {i : Invocation} {answer : Except FunctionError String}
    (hreturns : i.overload.returns = .string)
    (hbody : i.overload.body i.args = answer.map .string) :
    i.outcome = textOrFailure i.overload.name i.site.span answer := by
  unfold Invocation.outcome textOrFailure
  rw [hbody, hreturns]
  cases answer <;> rfl

namespace Expr

open Builtin

section calls

variable {env : Environment} {f : Overload} {name : String} {args : List Expr} {x y z : Expr}
  {values : List Value} {s t : String} {k p l : Int32} {span : Span}
  {answer : Except FunctionError String}

/-- A call whose arguments come to values is the invocation of the function with these. -/
theorem eval_call_of_argumentsTo (hresolve : env.resolve name args.length = some f)
    (hargs : ArgumentsTo env f 0 args values) :
    (call name args span).eval env = Invocation.outcome ⟨call name args span, f, values⟩ := by
  unfold eval
  rw [run_call hresolve, Run.bind_of_outcome_eq_ok (outcome_runArguments_eq_ok_iff.mpr hargs)]

/-- A call of a built-in function that answers with a text. -/
theorem eval_builtin_call (henv : env.overloads = Registry.builtins.lookup)
    (hresolve : Registry.builtins.resolve name args.length = some f)
    (hargs : ArgumentsTo env f 0 args values) (hname : f.name = name)
    (hreturns : f.returns = .string) (hbody : f.body values = answer.map .string) :
    (call name args span).eval env = textOrFailure name span answer := by
  have hcall : env.resolve name args.length = some f := by
    rwa [Environment.resolve, henv]
  rw [eval_call_of_argumentsTo hcall hargs, Invocation.outcome_of_returns_string hreturns hbody]
  exact congrArg (textOrFailure · span answer) hname

/-- A call of a built-in function that takes a text and an integer. -/
theorem eval_builtin_call_text_integer {body : List Value → Except FunctionError Value}
    (henv : env.overloads = Registry.builtins.lookup)
    (hname : Text.asciiUpper name = name)
    (hresolve : Registry.builtins.resolve name 2 =
      some (.define name [.string, .integer] none .string body))
    (hx : x.eval env = .ok (.string s)) (hy : y.eval env = .ok (.integer k))
    (hbody : body [.string s, .integer k] = answer.map .string) :
    (call name [x, y] span).eval env = textOrFailure name span answer :=
  eval_builtin_call henv hresolve (.cons rfl hx rfl (.cons rfl hy rfl .nil)) hname rfl hbody

/-- `CONCAT` of two texts. -/
theorem eval_concat (henv : env.overloads = Registry.builtins.lookup)
    (hx : x.eval env = .ok (.string s)) (hy : y.eval env = .ok (.string t)) :
    (call "CONCAT" [x, y] span).eval env = .ok (.string (s ++ t)) := by
  have hresolve : Registry.builtins.resolve "CONCAT" 2 =
      some (.define "CONCAT" [] (some .string) .string concat) := rfl
  have hjoin : String.join [s, t] = s ++ t := by
    rw [String.join]
    simp
  have hbody : concat [.string s, .string t] =
      (Except.ok (s ++ t) : Except FunctionError String).map .string :=
    congrArg (fun t => Except.ok (Value.string t)) hjoin
  exact eval_builtin_call henv hresolve (.cons rfl hx rfl (.cons rfl hy rfl .nil)) (by decide) rfl
    hbody

/-- `LEFT` of a text. -/
theorem eval_left (henv : env.overloads = Registry.builtins.lookup)
    (hx : x.eval env = .ok (.string s)) (hy : y.eval env = .ok (.integer k)) :
    (call "LEFT" [x, y] span).eval env = textOrFailure "LEFT" span
      ((characterCount k).map fun count => String.ofList (s.toList.take count)) := by
  have hbody : left [.string s, .integer k] =
      (characterCount k).map fun count => .string (String.ofList (s.toList.take count)) := rfl
  refine eval_builtin_call_text_integer henv (by decide) rfl hx hy (hbody.trans ?_)
  cases characterCount k <;> rfl

/-- `RIGHT` of a text. -/
theorem eval_right (henv : env.overloads = Registry.builtins.lookup)
    (hx : x.eval env = .ok (.string s)) (hy : y.eval env = .ok (.integer k)) :
    (call "RIGHT" [x, y] span).eval env = textOrFailure "RIGHT" span
      ((characterCount k).map fun count =>
        String.ofList (s.toList.drop (s.toList.length - count))) := by
  have hbody : right [.string s, .integer k] = (characterCount k).map fun count =>
      .string (String.ofList (s.toList.drop (s.toList.length - count))) := rfl
  refine eval_builtin_call_text_integer henv (by decide) rfl hx hy (hbody.trans ?_)
  cases characterCount k <;> rfl

/-- `SUBSTRING` of a text from a position on. -/
theorem eval_substring (henv : env.overloads = Registry.builtins.lookup)
    (hx : x.eval env = .ok (.string s)) (hy : y.eval env = .ok (.integer p)) :
    (call "SUBSTRING" [x, y] span).eval env = textOrFailure "SUBSTRING" span
      ((startOf p s.toList.length).map fun start => String.ofList (s.toList.drop start)) := by
  have hbody : substring [.string s, .integer p] = (startOf p s.toList.length).map fun start =>
      .string (String.ofList (s.toList.drop start)) := rfl
  refine eval_builtin_call_text_integer henv (by decide) rfl hx hy (hbody.trans ?_)
  cases startOf p s.toList.length <;> rfl

/-- `SUBSTRING` of a number of characters. -/
theorem eval_substring_count (henv : env.overloads = Registry.builtins.lookup)
    (hx : x.eval env = .ok (.string s)) (hy : y.eval env = .ok (.integer p))
    (hz : z.eval env = .ok (.integer l)) :
    (call "SUBSTRING" [x, y, z] span).eval env = textOrFailure "SUBSTRING" span
      (startOf p s.toList.length >>= fun start => (characterCount l).map fun count =>
        String.ofList ((s.toList.drop start).take count)) := by
  have hresolve : Registry.builtins.resolve "SUBSTRING" 3 =
      some (.define "SUBSTRING" [.string, .integer, .integer] none .string substring) := rfl
  have hbody : substring [.string s, .integer p, .integer l] =
      startOf p s.toList.length >>= fun start => (characterCount l).map fun count =>
        .string (String.ofList ((s.toList.drop start).take count)) := rfl
  refine eval_builtin_call henv hresolve
    (.cons rfl hx rfl (.cons rfl hy rfl (.cons rfl hz rfl .nil))) (by decide) rfl (hbody.trans ?_)
  cases startOf p s.toList.length <;> cases characterCount l <;> rfl

/-- `LEFT` of a text, if the length is not negative. -/
theorem eval_left_of_nonneg (henv : env.overloads = Registry.builtins.lookup)
    (hx : x.eval env = .ok (.string s)) (hy : y.eval env = .ok (.integer k)) (hk : 0 ≤ k.toInt) :
    (call "LEFT" [x, y] span).eval env =
      .ok (.string (String.ofList (s.toList.take k.toInt.toNat))) := by
  rw [eval_left henv hx hy, characterCount_of_nonneg hk]
  rfl

/-- `RIGHT` of a text, if the length is not negative. -/
theorem eval_right_of_nonneg (henv : env.overloads = Registry.builtins.lookup)
    (hx : x.eval env = .ok (.string s)) (hy : y.eval env = .ok (.integer k)) (hk : 0 ≤ k.toInt) :
    (call "RIGHT" [x, y] span).eval env =
      .ok (.string (String.ofList (s.toList.drop (s.toList.length - k.toInt.toNat)))) := by
  rw [eval_right henv hx hy, characterCount_of_nonneg hk]
  rfl

/-- `SUBSTRING` of a text from a position within it on. -/
theorem eval_substring_of_startOf {start : Nat} (henv : env.overloads = Registry.builtins.lookup)
    (hx : x.eval env = .ok (.string s)) (hy : y.eval env = .ok (.integer p))
    (hstart : startOf p s.toList.length = .ok start) :
    (call "SUBSTRING" [x, y] span).eval env =
      .ok (.string (String.ofList (s.toList.drop start))) := by
  rw [eval_substring henv hx hy, hstart]
  rfl

end calls

/-! ### Laws -/

/-- **A call answers with a text, or refuses its arguments exactly under a condition.** -/
structure RefusedIff (env : Environment) (e : Expr) (P : Prop) : Prop where
  /-- under the condition an argument is invalid -/
  refused : P → ∃ err, e.eval env = .error err ∧ err.kind = .invalidArgument
  /-- otherwise there is a text -/
  answered : ¬ P → ∃ t, e.eval env = .ok (.string t)

/-- **The laws of `LEFT`, `RIGHT` and `SUBSTRING`** on an expression `x` for a text and expressions
for all integers, with functions as in an environment. -/
structure SubstringLaws (env : Environment) (x : Expr) (s : String) (number : Int32 → Expr) :
    Prop where
  /-- the beginning of a text is refused exactly for lengths below zero -/
  left_refused (k : Int32) (span : Span) :
    RefusedIff env (call "LEFT" [x, number k] span) (k.toInt < 0)
  /-- and so is its end -/
  right_refused (k : Int32) (span : Span) :
    RefusedIff env (call "RIGHT" [x, number k] span) (k.toInt < 0)
  /-- the beginning has as many characters as are asked for, as far as there are so many -/
  left_isPrefix (k : Int32) (span : Span) : 0 ≤ k.toInt → ∃ t : String,
    (call "LEFT" [x, number k] span).eval env = .ok (.string t) ∧
      t.toList <+: s.toList ∧ t.toList.length = min k.toInt.toNat s.toList.length
  /-- and so has the end -/
  right_isSuffix (k : Int32) (span : Span) : 0 ≤ k.toInt → ∃ t : String,
    (call "RIGHT" [x, number k] span).eval env = .ok (.string t) ∧
      t.toList <:+ s.toList ∧ t.toList.length = min k.toInt.toNat s.toList.length
  /-- what stands from a position on is refused exactly for positions outside of the text -/
  substring_refused (p : Int32) (span : Span) :
    RefusedIff env (call "SUBSTRING" [x, number p] span) (Outside p s.toList.length)
  /-- a number of characters from there is also refused for lengths below zero -/
  substring_count_refused (p l : Int32) (span : Span) :
    RefusedIff env (call "SUBSTRING" [x, number p, number l] span)
      (Outside p s.toList.length ∨ l.toInt < 0)
  /-- it is the position that is reported, whatever the length is -/
  position_first (p l : Int32) (span : Span) : Outside p s.toList.length →
    (call "SUBSTRING" [x, number p, number l] span).eval env =
      .error ⟨.failed "SUBSTRING" (.positionOutOfRange p s.toList.length), span⟩
  /-- a length below zero is reported if the position is within the text -/
  length_second (p l : Int32) (span : Span) : ¬ Outside p s.toList.length → l.toInt < 0 →
    (call "SUBSTRING" [x, number p, number l] span).eval env =
      .error ⟨.failed "SUBSTRING" (.negativeLength l), span⟩
  /-- what stands before a position and what stands from it on make up the text -/
  concat_left_substring (p : Int32) (s₁ s₂ s₃ : Span) :
    1 ≤ p.toInt → p.toInt ≤ s.toList.length →
      (call "CONCAT" [call "LEFT" [x, number (p - 1)] s₁, call "SUBSTRING" [x, number p] s₂]
        s₃).eval env = .ok (.string s)
  /-- positions that count from the end are those that count from the beginning -/
  substring_fromEnd (p : Int32) (s₁ s₂ : Span) : 1 ≤ p.toInt → p.toInt ≤ s.toList.length →
    (call "SUBSTRING" [x, number (p - Int32.ofNat s.toList.length - 1)] s₁).eval env =
      (call "SUBSTRING" [x, number p] s₂).eval env
  /-- a number of characters from a position on is the beginning of what stands there -/
  substring_eq_left (p l : Int32) (s₁ s₂ s₃ : Span) :
    1 ≤ p.toInt → p.toInt ≤ s.toList.length → 0 ≤ l.toInt →
      (call "SUBSTRING" [x, number p, number l] s₁).eval env =
        (call "LEFT" [call "SUBSTRING" [x, number p] s₂, number l] s₃).eval env
  /-- what stands from a position on that counts from the end is the end of the text -/
  substring_eq_right (m : Int32) (s₁ s₂ : Span) : 1 ≤ m.toInt → m.toInt ≤ s.toList.length →
    (call "SUBSTRING" [x, number (-m)] s₁).eval env =
      (call "RIGHT" [x, number m] s₂).eval env
  /-- a beginning and the end behind it make up the text -/
  concat_left_right (k : Int32) (s₁ s₂ s₃ : Span) : 0 ≤ k.toInt → k.toInt ≤ s.toList.length →
    (call "CONCAT" [call "LEFT" [x, number k] s₁,
      call "RIGHT" [x, number (Int32.ofNat s.toList.length - k)] s₂] s₃).eval env = .ok (.string s)
  /-- counting in words of at least 32 bits is the same, and nothing overflows -/
  inWords (w : Nat) : 32 ≤ w → ∃ count : BitVec w, count.toNat = s.toList.length ∧
    ∀ k : Int32,
      (startInWords? k count).map (Except.map BitVec.toNat) =
        some (startOf k s.toList.length) ∧
      (countInWords w k).map BitVec.toNat = characterCount k ∧
      ∀ length, countInWords w k = .ok length →
        (skipInWords count length).toNat = s.toList.length - k.toInt.toNat

section refused

variable {env : Environment} {e : Expr} {name : String} {span : Span} {P : Prop}
  {answer : Except FunctionError String}

/-- A call answers with a text or refuses its arguments as its function does. -/
theorem RefusedIff.of_eval (heval : e.eval env = textOrFailure name span answer)
    (hrefused : P → ∃ failure, answer = .error failure ∧ failure.kind = .invalidArgument)
    (hanswered : ¬ P → ∃ t, answer = .ok t) : RefusedIff env e P where
  refused h := by
    obtain ⟨failure, hanswer, hkind⟩ := hrefused h
    rw [hanswer] at heval
    exact ⟨_, heval, hkind⟩
  answered h := by
    obtain ⟨t, ht⟩ := hanswered h
    rw [ht] at heval
    exact ⟨t, heval⟩

/-- **A call that counts characters** refuses exactly the counts below zero. -/
theorem RefusedIff.of_characterCount {k : Int32} {cut : Nat → String}
    (heval : e.eval env = textOrFailure name span ((characterCount k).map cut)) :
    RefusedIff env e (k.toInt < 0) := by
  refine .of_eval heval (fun hk => ?_) fun hk => ?_
  · exact ⟨_, by rw [characterCount_of_neg hk]; rfl, rfl⟩
  · exact ⟨_, by rw [characterCount_of_nonneg (not_lt.mp hk)]; rfl⟩

end refused

variable {env : Environment} {x : Expr} {s : String} {number : Int32 → Expr}

/-- **The laws hold for every text** of so many characters that an integer can count them. -/
theorem substringLaws (henv : env.overloads = Registry.builtins.lookup)
    (hx : x.eval env = .ok (.string s))
    (hnumber : ∀ k, (number k).eval env = .ok (.integer k))
    (hs : s.toList.length ≤ 2147483647) : SubstringLaws env x s number where
  left_refused k _ := .of_characterCount (eval_left henv hx (hnumber k))
  right_refused k _ := .of_characterCount (eval_right henv hx (hnumber k))
  left_isPrefix k span hk := by
    refine ⟨_, eval_left_of_nonneg henv hx (hnumber k) hk, ?_⟩
    rw [String.toList_ofList, List.length_take]
    exact ⟨List.take_prefix _ _, rfl⟩
  right_isSuffix k span hk := by
    refine ⟨_, eval_right_of_nonneg henv hx (hnumber k) hk, ?_⟩
    rw [String.toList_ofList, List.length_drop]
    exact ⟨List.drop_suffix _ _, by omega⟩
  substring_refused p span := by
    refine .of_eval (eval_substring henv hx (hnumber p)) (fun hp => ?_) fun hp => ?_
    · exact ⟨_, by rw [startOf_of_outside hp]; rfl, rfl⟩
    · obtain ⟨start, hstart⟩ := exists_startOf_of_not_outside hp
      exact ⟨_, by rw [hstart]; rfl⟩
  substring_count_refused p l span := by
    refine .of_eval (eval_substring_count henv hx (hnumber p) (hnumber l)) (fun h => ?_) fun h => ?_
    · by_cases hp : Outside p s.toList.length
      · exact ⟨_, by rw [startOf_of_outside hp]; rfl, rfl⟩
      · obtain ⟨start, hstart⟩ := exists_startOf_of_not_outside hp
        have hl := h.resolve_left hp
        exact ⟨_, by rw [hstart, characterCount_of_neg hl]; rfl, rfl⟩
    · obtain ⟨hp, hl⟩ := not_or.mp h
      obtain ⟨start, hstart⟩ := exists_startOf_of_not_outside hp
      exact ⟨_, by rw [hstart, characterCount_of_nonneg (not_lt.mp hl)]; rfl⟩
  position_first p l span h := by
    rw [eval_substring_count henv hx (hnumber p) (hnumber l), startOf_of_outside h]
    rfl
  length_second p l span h hl := by
    obtain ⟨start, hstart⟩ := exists_startOf_of_not_outside h
    rw [eval_substring_count henv hx (hnumber p) (hnumber l), hstart, characterCount_of_neg hl]
    rfl
  concat_left_substring p s₁ s₂ s₃ h hp := by
    have hbefore : (p - 1).toInt = p.toInt - 1 :=
      toInt_sub_of_inRange (by rw [Int32.toInt_one]; omega) (by rw [Int32.toInt_one]; omega)
    rw [eval_concat henv (eval_left_of_nonneg henv hx (hnumber _) (by omega))
      (eval_substring_of_startOf henv hx (hnumber p) (startOf_of_le h hp)), hbefore,
      show (p.toInt - 1).toNat = p.toInt.toNat - 1 by omega, ← String.ofList_append,
      List.take_append_drop, String.ofList_toList]
  substring_fromEnd p s₁ s₂ h hp := by
    have hcount := toInt_ofNat_of_le hs
    have hshift : (p - Int32.ofNat s.toList.length).toInt = p.toInt - s.toList.length := by
      rw [toInt_sub_of_inRange (by omega) (by omega), hcount]
    have hback : (p - Int32.ofNat s.toList.length - 1).toInt = p.toInt - s.toList.length - 1 := by
      rw [toInt_sub_of_inRange (by rw [Int32.toInt_one]; omega) (by rw [Int32.toInt_one]; omega),
        hshift, Int32.toInt_one]
    rw [eval_substring_of_startOf henv hx (hnumber _) (startOf_of_neg_le (by omega) (by omega)),
      eval_substring_of_startOf henv hx (hnumber p) (startOf_of_le h hp), hback,
      show s.toList.length - (p.toInt - s.toList.length - 1).natAbs = p.toInt.toNat - 1 by omega]
  substring_eq_left p l s₁ s₂ s₃ h hp hl := by
    have hstart := startOf_of_le h hp
    rw [eval_left_of_nonneg henv (eval_substring_of_startOf henv hx (hnumber p) hstart)
      (hnumber l) hl, eval_substring_count henv hx (hnumber p) (hnumber l), hstart,
      characterCount_of_nonneg hl, String.toList_ofList]
    rfl
  substring_eq_right m s₁ s₂ h hm := by
    have hback : (-m).toInt = -m.toInt := toInt_neg_of_pos (by omega)
    rw [eval_substring_of_startOf henv hx (hnumber _) (startOf_of_neg_le (by omega) (by omega)),
      eval_right_of_nonneg henv hx (hnumber m) (by omega), hback,
      show (-m.toInt).natAbs = m.toInt.toNat by omega]
  concat_left_right k s₁ s₂ s₃ h hk := by
    have hcount := toInt_ofNat_of_le hs
    have hrest : (Int32.ofNat s.toList.length - k).toInt = s.toList.length - k.toInt := by
      rw [toInt_sub_of_inRange (by omega) (by omega), hcount]
    rw [eval_concat henv (eval_left_of_nonneg henv hx (hnumber k) h)
      (eval_right_of_nonneg henv hx (hnumber _) (by omega)), hrest,
      show s.toList.length - (s.toList.length - k.toInt).toNat = k.toInt.toNat by omega,
      ← String.ofList_append, List.take_append_drop, String.ofList_toList]
  inWords w hw := by
    have hcount : (BitVec.ofNat w s.toList.length).toNat = s.toList.length := by
      have hwide : 2 ^ 32 ≤ 2 ^ w := Nat.pow_le_pow_right (by decide) hw
      rw [BitVec.toNat_ofNat, Nat.mod_eq_of_lt (by omega)]
    refine ⟨.ofNat w s.toList.length, hcount, fun k => ⟨?_, map_countInWords hw k, ?_⟩⟩
    · rw [map_startInWords? hw, hcount]
    · intro length hlength
      have hvalue : length.toNat = k.toInt.toNat := toNat_of_countInWords hw hlength
      rw [toNat_skipInWords, hcount, hvalue]

/-- A text with characters of one to four bytes, cut at the smallest integer and at both ends. -/
theorem substringLaws_smallest :
    let env : Environment := ⟨fun _ => none, Registry.builtins.lookup⟩
    let x := literal (.string "aé€𝄞") .detached
    let number := fun k => literal (.integer k) .detached
    env.overloads = Registry.builtins.lookup ∧ x.eval env = .ok (.string "aé€𝄞") ∧
      (∀ k, (number k).eval env = .ok (.integer k)) ∧ "aé€𝄞".toList.length ≤ 2147483647 ∧
      SubstringLaws env x "aé€𝄞" number ∧
      (call "SUBSTRING" [x, number (-2147483648), number (-1)] .detached).eval env =
        .error ⟨.failed "SUBSTRING" (.positionOutOfRange (-2147483648) 4), .detached⟩ ∧
      (call "SUBSTRING" [x, number (-4)] .detached).eval env =
        (call "SUBSTRING" [x, number 1] .detached).eval env := by
  intro env x number
  have hlaws : SubstringLaws env x "aé€𝄞" number :=
    substringLaws rfl rfl (fun _ => rfl) (by decide)
  refine ⟨rfl, rfl, fun _ => rfl, by decide, hlaws, ?_, ?_⟩
  · exact hlaws.position_first (-2147483648) (-1) .detached (by unfold Outside; decide)
  · exact hlaws.substring_fromEnd 1 .detached .detached (by decide) (by decide)

end Expr

end EventFilter
