import EventFilter.Filter
import EventFilter.Proofs.Eval.Blame
import EventFilter.Proofs.Phrase.Nesting
import Mathlib.Data.String.Basic

/-!
# Values and verdicts of filters

A filter has a verdict exactly where its value is a truth value, and an error of its value is one of
its verdict. Every such error has the span of a node of the expression. So the errors of a filter
that was compiled from a text stand in this text.
Main statement: an error of a compiled filter takes up some of its text
(`Filter.start_lt_stop_and_stop_le_of_verdict`).
-/

namespace EventFilter

/-- The bytes of a text are counted as those of its characters. -/
theorem Text.byteLength_toList (s : String) : byteLength s.toList = s.utf8ByteSize := by
  have hlength (cs : List Char) : byteLength cs = String.utf8Len cs := by
    induction cs with
    | nil => rfl
    | cons c cs ih => rw [byteLength_cons, ih, String.utf8Len_cons, Nat.add_comm]
  rw [hlength, ← String.utf8ByteSize_ofList, String.ofList_toList]

namespace Filter

variable {f : Filter} {env : Environment} {e : EvalError}

/-- **A verdict** is a truth value that the filter has. -/
theorem verdict_eq_ok_iff {b : Bool} :
    f.verdict env = .ok b ↔ f.evaluate env = .ok (.boolean b) := by
  rw [verdict, bind_eq_ok_iff]
  constructor
  · rintro ⟨v, hv, hb⟩
    cases v with
    | boolean b' =>
      cases hb
      exact hv
    | integer n => cases hb
    | string s => cases hb
  · intro h
    exact ⟨.boolean b, h, rfl⟩

/-- Where a filter has no value it has no verdict, for the same reason. -/
theorem verdict_eq_error (h : f.evaluate env = .error e) : f.verdict env = .error e :=
  bind_eq_error_iff.mpr (.inl h)

/-- An error of a filter has the span of a node of its expression. -/
theorem exists_mem_nodes_of_verdict (h : f.verdict env = .error e) :
    ∃ n ∈ f.expr.nodes, n.span = e.span := by
  rcases bind_eq_error_iff.mp h with hvalue | ⟨v, -, hboolean⟩
  · obtain ⟨n, hn, hspan, -⟩ := Expr.isBlamed_of_eval_eq_error hvalue
    exact ⟨n, hn, hspan⟩
  · obtain ⟨_, -, rfl⟩ := Value.booleanFor_eq_error_iff.mp hboolean
    exact ⟨f.expr, f.expr.self_mem_nodes, rfl⟩

/-- **The errors of a compiled filter** take up some of the text that it was compiled from. -/
theorem start_lt_stop_and_stop_le_of_verdict {functions : Registry} {text : String}
    (hf : compile functions text = .ok f) (h : f.verdict env = .error e) :
    e.span.start < e.span.stop ∧ e.span.stop ≤ text.utf8ByteSize := by
  have hparse : (Source.mk 0 text).parse functions = .ok f.expr := by
    unfold compile ofSource at hf
    cases hexpr : (Source.mk 0 text).parse functions with
    | error _ =>
      rw [hexpr] at hf
      cases hf
    | ok expr =>
      rw [hexpr] at hf
      cases hf
      rfl
  obtain ⟨n, hn, hspan⟩ := exists_mem_nodes_of_verdict h
  have hplace := Source.start_lt_stop_and_stop_le hparse hn
  rwa [hspan, Source.length, Source.chars, Text.byteLength_toList] at hplace

end Filter

end EventFilter
