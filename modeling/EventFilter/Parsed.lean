/-!
# Results of reading

What a reader makes of the front of a list, together with what it leaves. A bound on the length of
the rest is part of the result, so that readers that call one another are seen to end.
-/

namespace EventFilter

/-- **What was read**, and what is left, which is shorter than `bound`. -/
structure Parsed (τ α : Type) (bound : Nat) where
  value : α
  rest : List τ
  shorter : rest.length < bound

namespace Parsed

variable {τ α β : Type} {m n : Nat}

/-- What was read under a bound was read under a larger one. -/
def widen (p : Parsed τ α m) (h : m ≤ n) : Parsed τ α n :=
  { p with shorter := Nat.lt_of_lt_of_le p.shorter h }

/-- What was read, in another form. -/
def map (f : α → β) (p : Parsed τ α n) : Parsed τ β n := ⟨f p.value, p.rest, p.shorter⟩

@[simp] theorem value_widen (p : Parsed τ α m) (h : m ≤ n) : (p.widen h).value = p.value := rfl

@[simp] theorem rest_widen (p : Parsed τ α m) (h : m ≤ n) : (p.widen h).rest = p.rest := rfl

end Parsed

end EventFilter
