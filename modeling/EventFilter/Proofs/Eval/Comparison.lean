import Mathlib.Order.Compare
import Mathlib.Data.List.Lex
import Mathlib.Data.String.Basic
import EventFilter.Proofs.Eval.Membership
import EventFilter.Proofs.Text.Decimal

/-!
# Laws of the comparisons

Two values are compared as numbers if one of them is an integer, and as texts if none is. How they
stand to each other (`Value.StandsTo`) does not depend on the operator: it is one of the three
orderings, the opposite one if the values change sides, and each operator is a test of it. So the
operators agree with one another on all values that can be compared at all, whatever their kinds,
and the values that cannot are known in advance (`ComparisonOp.Mismatched`).
Main statement: the laws of the comparisons hold for all operands (`Expr.comparisonLaws`).
-/

namespace EventFilter

/-! ### What values denote -/

/-- **The integer that a value denotes**: an integer denotes itself, and a text the number that it
is a numeral for, if that is in the range of integers. -/
inductive Value.Denotes : Value → Int → Prop
  | integer (n : Int32) : Denotes (.integer n) n.toInt
  | string {s k} : Text.Numeral s.toList k → -2147483648 ≤ k → k ≤ 2147483647 →
      Denotes (.string s) k

/-- **The scalar values of a text**, from left to right. -/
def Text.scalars (s : String) : List Nat := s.toList.map Char.toNat

namespace Value

variable {v a b : Value} {n : Int32} {k : Int} {role : Role} {span : Span}

/-- **A value is taken as an integer** if and only if it denotes that integer. -/
theorem integerFor_eq_ok_iff : v.integerFor role span = .ok n ↔ v.Denotes n.toInt := by
  unfold integerFor
  rw [mapError_eq_ok_iff]
  constructor
  · intro h
    cases v with
    | boolean b => cases h
    | integer m =>
      cases h
      exact .integer n
    | string s =>
      rw [toInteger] at h
      split at h
      · rename_i m hm
        cases h
        exact .string (Text.readInt32?_eq_some_iff.mp hm) n.le_toInt
          (Int.le_sub_one_of_lt n.toInt_lt)
      · cases h
  · intro h
    generalize hk : n.toInt = k at h
    cases h with
    | integer m =>
      rw [Int32.toInt_inj.mp hk]
      rfl
    | string hs =>
      subst hk
      rw [toInteger, Text.readInt32?_eq_some_iff.mpr hs]

/-- A value denotes nothing but integers of 32 bits. -/
theorem Denotes.exists_toInt_eq (h : v.Denotes k) : ∃ n : Int32, n.toInt = k := by
  cases h with
  | integer n => exact ⟨n, rfl⟩
  | string _ hle hge => exact Text.exists_toInt_eq hle hge

/-- An integer denotes an integer. -/
theorem exists_denotes_of_kind (h : v.kind = .integer) : ∃ k, v.Denotes k := by
  obtain ⟨n, rfl⟩ := exists_eq_integer h
  exact ⟨_, .integer n⟩

/-- A value denotes one integer at most. -/
theorem Denotes.unique {k' : Int} (h : v.Denotes k) (h' : v.Denotes k') : k = k' := by
  obtain ⟨m, rfl⟩ := h.exists_toInt_eq
  obtain ⟨n, rfl⟩ := h'.exists_toInt_eq
  have hm : v.integerFor .filterResult .detached = .ok m := integerFor_eq_ok_iff.mpr h
  have hn : v.integerFor .filterResult .detached = .ok n := integerFor_eq_ok_iff.mpr h'
  rw [hm] at hn
  rw [Except.ok.inj hn]

/-! ### How values stand to each other -/

/-- **How two values stand to each other**: as the integers that they denote if one of them is an
integer, else as their texts in the order of scalar values. -/
inductive StandsTo : Value → Value → Ordering → Prop
  | numbers {a b m n o} : a.kind = .integer ∨ b.kind = .integer → a.Denotes m → b.Denotes n →
      o.Compares m n → StandsTo a b o
  | texts {a b o} : a.kind ≠ .integer → b.kind ≠ .integer →
      o.Compares (Text.scalars a.text) (Text.scalars b.text) → StandsTo a b o

namespace StandsTo

variable {o o' : Ordering}

/-- **Values that change sides** stand to each other the other way round. -/
theorem swap (h : StandsTo a b o) : StandsTo b a o.swap := by
  cases h with
  | numbers hkind ha hb ho => exact .numbers hkind.symm hb ha (Ordering.compares_swap.mpr ho)
  | texts ha hb ho => exact .texts hb ha (Ordering.compares_swap.mpr ho)

/-- Values stand to each other in one way only. -/
theorem unique (h : StandsTo a b o) (h' : StandsTo a b o') : o = o' := by
  cases h with
  | numbers hkind ha hb ho =>
    cases h' with
    | numbers _ ha' hb' ho' =>
      rw [ha'.unique ha, hb'.unique hb] at ho'
      exact ho.inj ho'
    | texts ha' hb' _ => exact absurd hkind (not_or.mpr ⟨ha', hb'⟩)
  | texts ha hb ho =>
    cases h' with
    | numbers hkind _ _ _ => exact absurd hkind (not_or.mpr ⟨ha, hb⟩)
    | texts _ _ ho' => exact ho.inj ho'

/-- **A value is equal to itself.** -/
theorem refl (a : Value) : StandsTo a a .eq := by
  by_cases ha : a.kind = .integer
  · obtain ⟨k, hk⟩ := exists_denotes_of_kind ha
    exact .numbers (.inl ha) hk hk rfl
  · exact .texts ha ha rfl

end StandsTo

end Value

namespace ComparisonOp

variable {op : ComparisonOp} {a b : Value} {o : Ordering} {p : Bool} {left right node : Span}

/-! ### Operators as tests of an ordering -/

/-- The operator that holds exactly where another does not. -/
def opposite : ComparisonOp → ComparisonOp
  | .eq => .ne
  | .ne => .eq
  | .lt => .ge
  | .le => .gt
  | .gt => .le
  | .ge => .lt

/-- The operator that says of two things what another says of them the other way round. -/
def mirror : ComparisonOp → ComparisonOp
  | .eq => .eq
  | .ne => .ne
  | .lt => .gt
  | .le => .ge
  | .gt => .lt
  | .ge => .le

/-- **What an operator says** of two things in an order. -/
def Holds {α : Type} [LinearOrder α] : ComparisonOp → α → α → Prop
  | .eq, x, y => x = y
  | .ne, x, y => x ≠ y
  | .lt, x, y => x < y
  | .le, x, y => x ≤ y
  | .gt, x, y => y < x
  | .ge, x, y => y ≤ x

/-- **A test of an ordering** says of two things what the operator says. -/
theorem test_iff_holds {α : Type} [LinearOrder α] {x y : α} (h : o.Compares x y) :
    op.test o = true ↔ op.Holds x y := by
  cases o with
  | lt =>
    have hlt : x < y := h
    cases op <;> simp [test, Holds, hlt, hlt.le, hlt.not_ge, hlt.ne, hlt.not_gt]
  | eq =>
    have heq : x = y := h
    cases op <;> simp [test, Holds, heq]
  | gt =>
    have hgt : y < x := h
    cases op <;> simp [test, Holds, hgt, hgt.le, hgt.not_ge, hgt.ne', hgt.not_gt]

/-- The opposite operator is the opposite test. -/
theorem test_opposite (op : ComparisonOp) (o : Ordering) : op.opposite.test o = !op.test o := by
  cases op <;> cases o <;> rfl

/-- The mirrored operator tests the ordering the other way round. -/
theorem test_mirror_swap (op : ComparisonOp) (o : Ordering) :
    op.mirror.test o.swap = op.test o := by
  cases op <;> cases o <;> rfl

/-- An ordering is that of a lesser thing, of equal ones, or of a greater one. -/
theorem existsUnique_test (o : Ordering) :
    ∃! op, op ∈ [ComparisonOp.lt, .eq, .gt] ∧ op.test o = true := by
  cases o with
  | lt => exact ⟨.lt, by decide, fun op => by cases op <;> decide⟩
  | eq => exact ⟨.eq, by decide, fun op => by cases op <;> decide⟩
  | gt => exact ⟨.gt, by decide, fun op => by cases op <;> decide⟩

/-- The opposite of an equality is an equality. -/
theorem isEquality_opposite (op : ComparisonOp) : op.opposite.isEquality = op.isEquality := by
  cases op <;> rfl

/-- The mirrored operator of an equality is an equality. -/
theorem isEquality_mirror (op : ComparisonOp) : op.mirror.isEquality = op.isEquality := by
  cases op <;> rfl

/-! ### What comes of a comparison -/

/-- **The values that an operator cannot compare**: an integer and a value that denotes none, or
two truth values that are to be put in order. -/
def Mismatched (op : ComparisonOp) (a b : Value) : Prop :=
  (a.kind = .integer ∧ ¬ ∃ k, b.Denotes k) ∨ (b.kind = .integer ∧ ¬ ∃ k, a.Denotes k) ∨
    (a.kind = .boolean ∧ b.kind = .boolean ∧ op.isEquality = false)

/-- Values that are compared as numbers. -/
theorem eval_eq_of_integer (h : a.kind = .integer ∨ b.kind = .integer) :
    op.eval a b left right node = do
      let m ← a.integerFor (.compared op) left
      let n ← b.integerFor (.compared op) right
      return op.test (compare m n) := by
  cases a <;> cases b <;> simp [Value.kind] at h <;> rfl

/-- Values that are compared as texts. -/
theorem eval_eq_of_text (ha : a.kind ≠ .integer) (hb : b.kind ≠ .integer)
    (hop : ¬(a.kind = .boolean ∧ b.kind = .boolean)) :
    op.eval a b left right node = .ok (op.test (compare a.text b.text)) := by
  cases a <;> cases b <;> simp [Value.kind] at ha hb hop <;> rfl

/-- The order of 32-bit integers is that of the integers. -/
theorem compares_toInt (m n : Int32) : (compare m n).Compares m.toInt n.toInt := by
  have hcompare : compare m n = compareOfLessAndEq m n := rfl
  rw [hcompare, compareOfLessAndEq]
  split
  · rename_i hlt
    exact Int32.lt_iff_toInt_lt.mp hlt
  split
  · rename_i heq
    exact congrArg Int32.toInt heq
  · rename_i hlt heq
    rw [Int32.lt_iff_toInt_lt, not_lt] at hlt
    exact hlt.lt_of_ne fun h => heq (Int32.toInt_inj.mp h.symm)

/-- The order of texts is that of their scalar values. -/
theorem compares_scalars (s t : String) :
    (compare s t).Compares (Text.scalars s) (Text.scalars t) := by
  have hlt {s t : String} (h : s < t) : Text.scalars s < Text.scalars t :=
    List.map_lt (fun _ _ hc => hc) (String.lt_iff_toList_lt.mp h)
  have hcompares : (compare s t).Compares s t := (compare_iff s t).mp rfl
  cases hst : compare s t with
  | lt =>
    rw [hst] at hcompares
    exact hlt hcompares
  | eq =>
    rw [hst] at hcompares
    exact congrArg Text.scalars hcompares
  | gt =>
    rw [hst] at hcompares
    exact hlt hcompares

/-- Truth values stand to each other as their texts do. -/
theorem standsTo_boolean (x y : Bool) :
    Value.StandsTo (.boolean x) (.boolean y) (compare x y) := by
  have htext : compare x y = compare (Value.boolean x).text (Value.boolean y).text := by
    cases x <;> cases y <;> decide
  rw [htext]
  exact .texts nofun nofun (compares_scalars _ _)

/-- Values of which one is an integer are compared by how they stand to each other. -/
theorem eval_eq_ok_iff_of_integer (h : a.kind = .integer ∨ b.kind = .integer) :
    op.eval a b left right node = .ok p ↔ ∃ o, a.StandsTo b o ∧ p = op.test o := by
  rw [eval_eq_of_integer h]
  constructor
  · intro heval
    obtain ⟨m, hm, heval⟩ := bind_eq_ok_iff.mp heval
    obtain ⟨n, hn, heval⟩ := bind_eq_ok_iff.mp heval
    cases heval
    exact ⟨_, .numbers h (Value.integerFor_eq_ok_iff.mp hm) (Value.integerFor_eq_ok_iff.mp hn)
      (compares_toInt m n), rfl⟩
  · rintro ⟨o, hstands, rfl⟩
    cases hstands with
    | numbers _ ha hb ho =>
      obtain ⟨m, rfl⟩ := ha.exists_toInt_eq
      obtain ⟨n, rfl⟩ := hb.exists_toInt_eq
      rw [ho.inj (compares_toInt m n), Value.integerFor_eq_ok_iff.mpr ha,
        Value.integerFor_eq_ok_iff.mpr hb]
      rfl
    | texts ha hb _ => exact absurd h (not_or.mpr ⟨ha, hb⟩)

/-- Truth values are compared by how they stand to each other, but not put in order. -/
theorem eval_boolean_eq_ok_iff {x y : Bool} :
    op.eval (.boolean x) (.boolean y) left right node = .ok p ↔
      op.isEquality = true ∧ ∃ o, Value.StandsTo (.boolean x) (.boolean y) o ∧ p = op.test o := by
  have heval : op.eval (.boolean x) (.boolean y) left right node =
      if op.isEquality then .ok (op.test (compare x y))
      else .error ⟨.orderedBooleans op, node⟩ := rfl
  rw [heval]
  cases op.isEquality with
  | false => exact iff_of_false nofun fun h => Bool.false_ne_true h.1
  | true =>
    constructor
    · intro h
      cases h
      exact ⟨rfl, _, standsTo_boolean x y, rfl⟩
    · rintro ⟨-, o, hstands, rfl⟩
      rw [hstands.unique (standsTo_boolean x y)]
      rfl

/-- **A comparison tests how its operands stand to each other**, unless that is to put truth values
in order. -/
theorem eval_eq_ok_iff : op.eval a b left right node = .ok p ↔
    ¬(a.kind = .boolean ∧ b.kind = .boolean ∧ op.isEquality = false) ∧
      ∃ o, a.StandsTo b o ∧ p = op.test o := by
  by_cases hint : a.kind = .integer ∨ b.kind = .integer
  · rw [eval_eq_ok_iff_of_integer hint, iff_and_self]
    rintro - ⟨ha, hb, -⟩
    rw [ha, hb] at hint
    exact hint.elim nofun nofun
  obtain ⟨ha, hb⟩ := not_or.mp hint
  by_cases hboolean : a.kind = .boolean ∧ b.kind = .boolean
  · obtain ⟨x, rfl⟩ := Value.exists_eq_boolean hboolean.1
    obtain ⟨y, rfl⟩ := Value.exists_eq_boolean hboolean.2
    simp [eval_boolean_eq_ok_iff, Value.kind]
  · have hstands : a.StandsTo b (compare a.text b.text) := .texts ha hb (compares_scalars _ _)
    rw [eval_eq_of_text ha hb hboolean]
    constructor
    · intro h
      cases h
      exact ⟨fun h => hboolean ⟨h.1, h.2.1⟩, _, hstands, rfl⟩
    · rintro ⟨-, o, ho, rfl⟩
      rw [ho.unique hstands]

/-- Values that an operator can compare stand to each other in some way. -/
theorem exists_standsTo (h : ¬ op.Mismatched a b) : ∃ o, a.StandsTo b o := by
  by_cases hint : a.kind = .integer ∨ b.kind = .integer
  · obtain ⟨m, hm⟩ : ∃ m, a.Denotes m := by
      rcases hint with ha | hb
      · exact Value.exists_denotes_of_kind ha
      · by_contra hm
        exact h (.inr (.inl ⟨hb, hm⟩))
    obtain ⟨n, hn⟩ : ∃ n, b.Denotes n := by
      rcases hint with ha | hb
      · by_contra hn
        exact h (.inl ⟨ha, hn⟩)
      · exact Value.exists_denotes_of_kind hb
    exact ⟨_, .numbers hint hm hn ((compare_iff m n).mp rfl)⟩
  · obtain ⟨ha, hb⟩ := not_or.mp hint
    exact ⟨_, .texts ha hb ((compare_iff _ _).mp rfl)⟩

/-- **An operator compares all values but those that it cannot compare.** -/
theorem exists_eval_eq_ok_iff :
    (∃ p, op.eval a b left right node = .ok p) ↔ ¬ op.Mismatched a b := by
  constructor
  · rintro ⟨p, hp⟩ hmismatch
    obtain ⟨hboolean, o, hstands, -⟩ := eval_eq_ok_iff.mp hp
    rcases hmismatch with ⟨ha, hb⟩ | ⟨hb, ha⟩ | h
    · cases hstands with
      | numbers _ _ hn _ => exact hb ⟨_, hn⟩
      | texts ha' _ _ => exact ha' ha
    · cases hstands with
      | numbers _ hm _ _ => exact ha ⟨_, hm⟩
      | texts _ hb' _ => exact hb' hb
    · exact hboolean h
  · intro h
    obtain ⟨o, ho⟩ := exists_standsTo h
    exact ⟨_, eval_eq_ok_iff.mpr ⟨fun h' => h (.inr (.inr h')), o, ho, rfl⟩⟩

end ComparisonOp

/-! ### Laws -/

namespace Expr

variable {env : Environment} {l r : Expr} {a b : Value} {op : ComparisonOp} {p : Bool} {s : Span}

/-- **The laws of the comparisons** of two expressions, given the values that these come to. -/
structure ComparisonLaws (env : Environment) (l r : Expr) (a b : Value) : Prop where
  /-- the operator fails with a type mismatch exactly on values that it cannot compare -/
  mismatch (op : ComparisonOp) (s : Span) :
    (∃ e, (binary (.comparison op) l r s).eval env = .error e ∧ e.kind = .typeMismatch) ↔
      op.Mismatched a b
  /-- on all other values it comes to a truth value -/
  defined (op : ComparisonOp) (s : Span) :
    (∃ p, (binary (.comparison op) l r s).eval env = .ok (.boolean p)) ↔ ¬ op.Mismatched a b
  /-- the opposite operator comes to the opposite truth value -/
  opposite (op : ComparisonOp) (s s' : Span) (p : Bool) :
    (binary (.comparison op) l r s).eval env = .ok (.boolean p) ↔
      (binary (.comparison op.opposite) l r s').eval env = .ok (.boolean (!p))
  /-- the mirrored operator comes to the same truth value on operands that change sides -/
  mirror (op : ComparisonOp) (s s' : Span) (p : Bool) :
    (binary (.comparison op) l r s).eval env = .ok (.boolean p) ↔
      (binary (.comparison op.mirror) r l s').eval env = .ok (.boolean p)
  /-- of values that can be ordered, one is less, or they are equal, or one is greater -/
  trichotomy (s : Span) : ¬ ComparisonOp.lt.Mismatched a b →
    ∃! op, op ∈ [ComparisonOp.lt, .eq, .gt] ∧
      (binary (.comparison op) l r s).eval env = .ok (.boolean true)
  /-- a value is equal to itself -/
  refl (s : Span) : a = b → (binary (.comparison .eq) l r s).eval env = .ok (.boolean true)
  /-- with an integer, values are compared as the integers that they denote -/
  numbers (op : ComparisonOp) (s : Span) (p : Bool) : a.kind = .integer ∨ b.kind = .integer →
    (binary (.comparison op) l r s).eval env = .ok (.boolean p) →
      ∃ m n, a.Denotes m ∧ b.Denotes n ∧ (p = true ↔ op.Holds m n)
  /-- without integers, values are compared as texts, scalar value by scalar value -/
  texts (op : ComparisonOp) (s : Span) (p : Bool) : a.kind ≠ .integer → b.kind ≠ .integer →
    (binary (.comparison op) l r s).eval env = .ok (.boolean p) →
      (p = true ↔ op.Holds (Text.scalars a.text) (Text.scalars b.text))

/-- A comparison of expressions compares the values that they come to. -/
theorem eval_comparison_of_eval (hl : l.eval env = .ok a) (hr : r.eval env = .ok b)
    (op : ComparisonOp) (s : Span) :
    (binary (.comparison op) l r s).eval env = (op.eval a b l.span r.span s).map .boolean := by
  rw [eval_comparison, comparison, hl, hr]
  rfl

/-- A comparison comes to a truth value if comparing the values does. -/
theorem eval_comparison_eq_ok_iff (hl : l.eval env = .ok a) (hr : r.eval env = .ok b) :
    (binary (.comparison op) l r s).eval env = .ok (.boolean p) ↔
      ¬(a.kind = .boolean ∧ b.kind = .boolean ∧ op.isEquality = false) ∧
        ∃ o, a.StandsTo b o ∧ p = op.test o := by
  rw [eval_comparison_of_eval hl hr, ← ComparisonOp.eval_eq_ok_iff]
  cases op.eval a b l.span r.span s <;> simp [Except.map]

/-- **The laws of the comparisons hold for all operands** that come to values, of whatever kinds. -/
theorem comparisonLaws (hl : l.eval env = .ok a) (hr : r.eval env = .ok b) :
    ComparisonLaws env l r a b where
  mismatch op s := by
    rw [← not_iff_not, ← ComparisonOp.exists_eval_eq_ok_iff, eval_comparison_of_eval hl hr]
    cases heval : op.eval a b l.span r.span s with
    | ok p => exact iff_of_true nofun ⟨p, rfl⟩
    | error e =>
      refine iff_of_false (not_not.mpr ⟨e, rfl, ?_⟩) nofun
      exact ComparisonOp.kind_of_eval_eq_error heval
  defined op s := by
    rw [← ComparisonOp.exists_eval_eq_ok_iff, eval_comparison_of_eval hl hr]
    cases op.eval a b l.span r.span s <;> simp [Except.map]
  opposite op s s' p := by
    rw [eval_comparison_eq_ok_iff hl hr, eval_comparison_eq_ok_iff hl hr, op.isEquality_opposite]
    simp only [op.test_opposite, Bool.not_inj_iff]
  mirror op s s' p := by
    rw [eval_comparison_eq_ok_iff hl hr, eval_comparison_eq_ok_iff hr hl, op.isEquality_mirror]
    refine and_congr ⟨fun h h' => h ⟨h'.2.1, h'.1, h'.2.2⟩, fun h h' => h ⟨h'.2.1, h'.1, h'.2.2⟩⟩ ?_
    constructor
    · rintro ⟨o, ho, rfl⟩
      exact ⟨o.swap, ho.swap, (op.test_mirror_swap o).symm⟩
    · rintro ⟨o, ho, rfl⟩
      refine ⟨o.swap, ho.swap, ?_⟩
      rw [← op.test_mirror_swap, Ordering.swap_swap]
  trichotomy s h := by
    obtain ⟨o, ho⟩ := ComparisonOp.exists_standsTo h
    have htest (op : ComparisonOp) :
        (binary (.comparison op) l r s).eval env = .ok (.boolean true) ↔ op.test o = true := by
      rw [eval_comparison_eq_ok_iff hl hr]
      constructor
      · rintro ⟨-, o', ho', hp⟩
        rw [ho.unique ho', ← hp]
      · intro hp
        exact ⟨fun hb => h (.inr (.inr ⟨hb.1, hb.2.1, rfl⟩)), o, ho, hp.symm⟩
    simp only [htest]
    exact ComparisonOp.existsUnique_test o
  refl s h := by
    subst h
    exact (eval_comparison_eq_ok_iff hl hr).mpr ⟨nofun, .eq, .refl a, rfl⟩
  numbers op s p hint h := by
    obtain ⟨-, o, hstands, rfl⟩ := (eval_comparison_eq_ok_iff hl hr).mp h
    cases hstands with
    | numbers _ hm hn ho => exact ⟨_, _, hm, hn, ComparisonOp.test_iff_holds ho⟩
    | texts ha hb _ => exact absurd hint (not_or.mpr ⟨ha, hb⟩)
  texts op s p ha hb h := by
    obtain ⟨-, o, hstands, rfl⟩ := (eval_comparison_eq_ok_iff hl hr).mp h
    cases hstands with
    | numbers hint _ _ _ => exact absurd hint (not_or.mpr ⟨ha, hb⟩)
    | texts _ _ ho => exact ComparisonOp.test_iff_holds ho

/-- A numeral with a sign and zeros in front, beside the integer that it denotes. -/
theorem comparisonLaws_numeral :
    let env : Environment := ⟨fun _ => none, fun _ => none⟩
    let l := literal (.string "+007") .detached
    let r := literal (.integer 7) .detached
    l.eval env = .ok (.string "+007") ∧ r.eval env = .ok (.integer 7) ∧
      ComparisonLaws env l r (.string "+007") (.integer 7) ∧
      (Value.string "+007").Denotes 7 ∧
      (binary (.comparison .ge) r l .detached).eval env = .ok (.boolean true) := by
  intro env l r
  have hlaws : ComparisonLaws env l r (.string "+007") (.integer 7) := comparisonLaws rfl rfl
  have hdenotes : (Value.string "+007").Denotes 7 := by
    refine .string ?_ (by decide) (by decide)
    exact .plus (by decide) (by decide)
  refine ⟨rfl, rfl, hlaws, hdenotes, ?_⟩
  have heq : (binary (.comparison .le) l r .detached).eval env = .ok (.boolean true) := by
    decide +kernel
  exact (hlaws.mirror .le .detached .detached true).mp heq

end Expr

end EventFilter
