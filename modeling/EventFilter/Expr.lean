import EventFilter.Operator
import EventFilter.Pattern
import EventFilter.Span

/-!
# Expressions

The expressions of the filter language as trees, each node with the span it was read from. Besides
the tree itself this module holds what can be said of it without evaluating it: its nodes in
preorder, the attributes it reads (`Expr.attributes`), and when two trees are the same.
-/

namespace EventFilter

/-- **An expression.** -/
inductive Expr where
  /-- a constant -/
  | literal (value : Value) (span : Span)
  /-- the value of an attribute -/
  | attr (name : String) (span : Span)
  /-- NOT or the unary minus -/
  | unary (op : UnaryOp) (operand : Expr) (span : Span)
  /-- arithmetic, a comparison or a connective -/
  | binary (op : BinaryOp) (left right : Expr) (span : Span)
  /-- EXISTS: whether an attribute is there -/
  | present (name : String) (nameSpan : Span) (span : Span)
  /-- IN: whether a value is among those of a list -/
  | among (value : Expr) (set : List Expr) (span : Span)
  /-- LIKE: whether a text matches a pattern -/
  | like (value : Expr) (pattern : Pattern) (span : Span)
  /-- the call of a function -/
  | call (name : String) (args : List Expr) (span : Span)

namespace Expr

instance : Inhabited Expr := ⟨.literal default default⟩

/-- The stretch of the source that a node stands for. -/
def span : Expr → Span
  | literal _ s | attr _ s | unary _ _ s | binary _ _ _ s | present _ _ s | among _ _ s
  | like _ _ s | call _ _ s => s

/-- A node with another span. -/
def withSpan (e : Expr) (s : Span) : Expr :=
  match e with
  | literal v _ => literal v s
  | attr name _ => attr name s
  | unary op x _ => unary op x s
  | binary op l r _ => binary op l r s
  | present name nameSpan _ => present name nameSpan s
  | among x set _ => among x set s
  | like x p _ => like x p s
  | call name args _ => call name args s

@[simp] theorem span_withSpan (e : Expr) (s : Span) : (e.withSpan s).span = s := by
  cases e <;> rfl

/-- The operands of a node from left to right: for IN the value and then the list. -/
def children : Expr → List Expr
  | literal .. | attr .. | present .. => []
  | unary _ x _ | like x _ _ => [x]
  | binary _ l r _ => [l, r]
  | among x set _ => x :: set
  | call _ args _ => args

mutual

/-- The nodes of a tree in preorder, with their depths below a node of depth `depth`. -/
def nodesFrom (depth : Nat) : Expr → List (Nat × Expr)
  | literal v s => [(depth, literal v s)]
  | attr name s => [(depth, attr name s)]
  | unary op x s => (depth, unary op x s) :: nodesFrom (depth + 1) x
  | binary op l r s =>
    (depth, binary op l r s) :: (nodesFrom (depth + 1) l ++ nodesFrom (depth + 1) r)
  | present name nameSpan s => [(depth, present name nameSpan s)]
  | among x set s =>
    (depth, among x set s) :: (nodesFrom (depth + 1) x ++ nodesFromList (depth + 1) set)
  | like x p s => (depth, like x p s) :: nodesFrom (depth + 1) x
  | call name args s => (depth, call name args s) :: nodesFromList (depth + 1) args

/-- The nodes of the trees of a list, one tree after the other. -/
def nodesFromList (depth : Nat) : List Expr → List (Nat × Expr)
  | [] => []
  | e :: es => nodesFrom depth e ++ nodesFromList depth es

end

/-- **The nodes of a tree in preorder.** -/
def nodes (e : Expr) : List Expr := (e.nodesFrom 0).map (·.2)

/-- The attribute that a node itself reads. -/
def attributeRead? : Expr → Option String
  | attr name _ | present name _ _ => some name
  | _ => none

/-- **The attributes that an expression reads**, each once, in the order of their first use. -/
def attributes (e : Expr) : List String := (e.nodes.filterMap attributeRead?).eraseDups

mutual

/-- Whether two trees are the same, with the same spans. -/
def same : Expr → Expr → Bool
  | literal v s, literal v' s' => v == v' && s == s'
  | attr n s, attr n' s' => n == n' && s == s'
  | unary op x s, unary op' x' s' => op == op' && same x x' && s == s'
  | binary op l r s, binary op' l' r' s' => op == op' && same l l' && same r r' && s == s'
  | present n ns s, present n' ns' s' => n == n' && ns == ns' && s == s'
  | among x set s, among x' set' s' => same x x' && sameList set set' && s == s'
  | like x p s, like x' p' s' => same x x' && p == p' && s == s'
  | call n args s, call n' args' s' => n == n' && sameList args args' && s == s'
  | _, _ => false

/-- Whether two lists of trees are the same. -/
def sameList : List Expr → List Expr → Bool
  | [], [] => true
  | e :: es, e' :: es' => same e e' && sameList es es'
  | _, _ => false

end

instance : BEq Expr := ⟨same⟩

end Expr

end EventFilter
