import Mathlib.Data.List.Basic
import EventFilter.Proofs.Tree

/-!
# The nodes of an expression

The nodes of an expression are those of its operands and the expression itself (`Expr.nodes_eq`), so
what is said of nodes is proved by induction on expressions.
-/

namespace EventFilter.Expr

/-- The nodes of a list are those of its members. -/
theorem nodesFromList_eq (depth : Nat) (es : List Expr) :
    nodesFromList depth es = es.flatMap (nodesFrom depth) := by
  induction es with
  | nil => rfl
  | cons e es ih => rw [nodesFromList, ih, List.flatMap_cons]

/-- The nodes below an expression are those of its operands. -/
theorem map_snd_nodesFrom (depth : Nat) (e : Expr) : (e.nodesFrom depth).map (·.2) =
    e :: e.children.flatMap fun c => (c.nodesFrom (depth + 1)).map (·.2) := by
  cases e <;> simp [nodesFrom, children, nodesFromList_eq, List.map_flatMap]

/-- Depths do not matter to which nodes there are. -/
theorem map_snd_nodesFrom_eq_nodes (depth : Nat) (e : Expr) :
    (e.nodesFrom depth).map (·.2) = e.nodes := by
  unfold nodes
  induction e using childInduction generalizing depth with
  | node e ih =>
    rw [map_snd_nodesFrom depth, map_snd_nodesFrom 0]
    congr 1
    apply List.flatMap_congr
    intro c hc
    rw [ih c hc (depth + 1), ih c hc (0 + 1)]

/-- **The nodes of an expression**: itself and those of its operands. -/
theorem nodes_eq (e : Expr) : e.nodes = e :: e.children.flatMap nodes := by
  rw [nodes, map_snd_nodesFrom]
  simp only [map_snd_nodesFrom_eq_nodes]

/-- A node is the expression itself or one of an operand. -/
theorem mem_nodes_iff {e n : Expr} : n ∈ e.nodes ↔ n = e ∨ ∃ c ∈ e.children, n ∈ c.nodes := by
  rw [nodes_eq, List.mem_cons, List.mem_flatMap]

/-- A node of an operand is a node. -/
theorem mem_nodes_of_child {e c n : Expr} (hc : c ∈ e.children) (h : n ∈ c.nodes) : n ∈ e.nodes :=
  mem_nodes_iff.mpr (.inr ⟨c, hc, h⟩)

/-- An expression is one of its nodes. -/
theorem self_mem_nodes (e : Expr) : e ∈ e.nodes := mem_nodes_iff.mpr (.inl rfl)

/-- An operand is a node. -/
theorem mem_nodes_of_mem_children {e c : Expr} (hc : c ∈ e.children) : c ∈ e.nodes :=
  mem_nodes_of_child hc c.self_mem_nodes

end EventFilter.Expr
