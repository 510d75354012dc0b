import EventFilter.Expr

/-!
# Expressions without their spans

Two sources can hold the same expression at different places. What is left of an expression when
the spans are taken away is its tree (`Expr.tree`), and statements about what a text denotes are
about trees. This module also holds the principle by which properties of expressions are proved:
a node has a property if its operands have it (`Expr.childInduction`).
-/

namespace EventFilter

/-- **An expression without spans.** -/
inductive Tree where
  | literal (value : Value)
  | attr (name : String)
  | unary (op : UnaryOp) (operand : Tree)
  | binary (op : BinaryOp) (left right : Tree)
  | present (name : String)
  | among (value : Tree) (set : List Tree)
  | like (value : Tree) (pattern : Pattern)
  | call (name : String) (args : List Tree)

namespace Expr

/-- Operands are smaller than the node they belong to. -/
theorem sizeOf_lt_of_mem_children {e c : Expr} (h : c ∈ e.children) : sizeOf c < sizeOf e := by
  cases e with
  | literal v s => cases h
  | attr n s => cases h
  | present n ns s => cases h
  | unary op x s =>
    obtain rfl := List.mem_singleton.mp h
    simp only [unary.sizeOf_spec]
    omega
  | like x p s =>
    obtain rfl := List.mem_singleton.mp h
    simp only [like.sizeOf_spec]
    omega
  | binary op l r s =>
    simp only [children, List.mem_cons, List.not_mem_nil, or_false] at h
    rcases h with rfl | rfl <;> simp only [binary.sizeOf_spec] <;> omega
  | among x set s =>
    rcases List.mem_cons.mp h with rfl | h
    · simp only [among.sizeOf_spec]
      omega
    · have := List.sizeOf_lt_of_mem h
      simp only [among.sizeOf_spec]
      omega
  | call n args s =>
    have : sizeOf c < sizeOf args := List.sizeOf_lt_of_mem h
    simp only [call.sizeOf_spec]
    omega

/-- **Induction on expressions**: a node has a property if its operands have it. -/
@[elab_as_elim]
theorem childInduction {motive : Expr → Prop}
    (node : ∀ e, (∀ c ∈ e.children, motive c) → motive e) (e : Expr) : motive e :=
  node e fun c _ => childInduction node c
termination_by sizeOf e
decreasing_by exact sizeOf_lt_of_mem_children ‹_›

/-- **Induction by constructors**, with a hypothesis for each operand. -/
@[elab_as_elim]
theorem operandInduction {motive : Expr → Prop} (literal : ∀ v s, motive (.literal v s))
    (attr : ∀ name s, motive (.attr name s))
    (unary : ∀ op x s, motive x → motive (.unary op x s))
    (binary : ∀ op l r s, motive l → motive r → motive (.binary op l r s))
    (present : ∀ name nameSpan s, motive (.present name nameSpan s))
    (among : ∀ x set s, motive x → (∀ c ∈ set, motive c) → motive (.among x set s))
    (like : ∀ x p s, motive x → motive (.like x p s))
    (call : ∀ name args s, (∀ c ∈ args, motive c) → motive (.call name args s)) (e : Expr) :
    motive e := by
  induction e using childInduction with
  | node e ih =>
    cases e with
    | literal v s => exact literal v s
    | attr name s => exact attr name s
    | unary op x s => exact unary op x s (ih x List.mem_cons_self)
    | binary op l r s =>
      obtain ⟨hl, hr⟩ := List.forall_mem_cons.mp ih
      exact binary op l r s hl (List.forall_mem_singleton.mp hr)
    | present name nameSpan s => exact present name nameSpan s
    | among x set s =>
      obtain ⟨hx, hset⟩ := List.forall_mem_cons.mp ih
      exact among x set s hx hset
    | like x p s => exact like x p s (ih x List.mem_cons_self)
    | call name args s => exact call name args s ih

mutual

/-- **The tree of an expression.** -/
def tree : Expr → Tree
  | literal v _ => .literal v
  | attr name _ => .attr name
  | unary op x _ => .unary op (tree x)
  | binary op l r _ => .binary op (tree l) (tree r)
  | present name _ _ => .present name
  | among x set _ => .among (tree x) (trees set)
  | like x p _ => .like (tree x) p
  | call name args _ => .call name (trees args)

/-- The trees of a list of expressions. -/
def trees : List Expr → List Tree
  | [] => []
  | e :: es => tree e :: trees es

end

@[simp] theorem trees_eq_map (es : List Expr) : trees es = es.map tree := by
  induction es with
  | nil => rfl
  | cons e es ih => rw [trees, ih, List.map_cons]

/-- The span of a node plays no part in its tree. -/
@[simp] theorem tree_withSpan (e : Expr) (s : Span) : (e.withSpan s).tree = e.tree := by
  cases e <;> simp [withSpan, tree]

end Expr

end EventFilter
