/-!
# Outcomes

Where an outcome that is made from others comes from. `collect` turns a list of outcomes into the
list of their values, or into the first error among them. Main statement: it succeeds exactly on the
lists without an error (`collect_eq_ok_iff`).
-/

namespace EventFilter

/-! ### Steps -/

section steps

variable {ε ε' α β : Type} {x : Except ε α} {e : ε}

/-- A value that is changed leaves errors as they are. -/
theorem map_eq_error_iff {f : α → β} : x.map f = .error e ↔ x = .error e := by
  cases x <;> simp [Except.map]

/-- A value that was changed comes from another one. -/
theorem map_eq_ok_iff {f : α → β} {b : β} : x.map f = .ok b ↔ ∃ a, x = .ok a ∧ f a = b := by
  cases x <;> simp [Except.map]

/-- An error that is changed leaves values as they are. -/
theorem mapError_eq_ok_iff {f : ε → ε'} {a : α} : x.mapError f = .ok a ↔ x = .ok a := by
  cases x <;> constructor <;> intro h <;> cases h <;> rfl

/-- An error that was changed comes from another one. -/
theorem mapError_eq_error_iff {f : ε → ε'} {e' : ε'} :
    x.mapError f = .error e' ↔ ∃ e, x = .error e ∧ e' = f e := by
  constructor
  · intro h
    cases x with
    | ok a => cases h
    | error e =>
      cases h
      exact ⟨e, rfl, rfl⟩
  · rintro ⟨e, rfl, rfl⟩
    rfl

/-- Two steps succeed together if the second succeeds on the result of the first. -/
theorem bind_eq_ok_iff {f : α → Except ε β} {b : β} :
    (x >>= f) = .ok b ↔ ∃ a, x = .ok a ∧ f a = .ok b := by
  cases x <;> simp [bind, Except.bind]

/-- Two steps fail together if the first fails, or the second on the result of the first. -/
theorem bind_eq_error_iff {f : α → Except ε β} :
    (x >>= f) = .error e ↔ x = .error e ∨ ∃ a, x = .ok a ∧ f a = .error e := by
  cases x <;> simp [bind, Except.bind]

end steps

/-! ### Lists of outcomes -/

/-- The values of a list of outcomes, or the first error. -/
def collect {ε α : Type} : List (Except ε α) → Except ε (List α)
  | [] => .ok []
  | .error e :: _ => .error e
  | .ok a :: rest => (collect rest).map (a :: ·)

/-- **The values before the first error** of a list of outcomes. -/
theorem exists_eq_map_ok_append {ε α : Type} (outcomes : List (Except ε α)) :
    ∃ (values : List α) (rest : List (Except ε α)), outcomes = values.map .ok ++ rest ∧
      ∀ o ∈ rest.head?, ∃ e, o = .error e := by
  induction outcomes with
  | nil => exact ⟨[], [], rfl, nofun⟩
  | cons o outcomes ih =>
    cases o with
    | error e =>
      refine ⟨[], .error e :: outcomes, rfl, ?_⟩
      rintro _ ⟨⟩
      exact ⟨e, rfl⟩
    | ok a =>
      obtain ⟨values, rest, rfl, hrest⟩ := ih
      exact ⟨a :: values, rest, rfl, hrest⟩

/-- **Success means that nothing failed.** -/
theorem collect_eq_ok_iff {ε α : Type} {outcomes : List (Except ε α)} {values : List α} :
    collect outcomes = .ok values ↔ outcomes = values.map .ok := by
  induction outcomes generalizing values with
  | nil => cases values <;> simp [collect]
  | cons o rest ih =>
    cases o with
    | error e => cases values <;> simp [collect]
    | ok a =>
      cases values with
      | nil => cases hc : collect rest <;> simp [collect, hc, Except.map]
      | cons v vs =>
        cases hc : collect rest with
        | error e =>
          have : rest ≠ vs.map .ok := fun h => by rw [ih.mpr h] at hc; cases hc
          simp [collect, hc, Except.map, this]
        | ok ws =>
          have hw := ih.mp hc
          constructor
          · intro h
            simp only [collect, hc, Except.map, Except.ok.injEq, List.cons.injEq] at h
            rw [← h.1, ← h.2, hw, List.map_cons]
          · intro h
            simp only [List.map_cons, List.cons.injEq, Except.ok.injEq] at h
            have := ih.mpr h.2
            rw [hc] at this
            simp only [collect, hc, Except.map, h.1, Except.ok.inj this]

/-- It succeeds if there is a value in every place. -/
theorem exists_collect_eq_ok_iff {ε α : Type} {outcomes : List (Except ε α)} :
    (∃ values, collect outcomes = .ok values) ↔ ∀ o ∈ outcomes, ∃ a, o = .ok a := by
  induction outcomes with
  | nil => simp [collect]
  | cons o rest ih =>
    rw [List.forall_mem_cons, ← ih]
    cases o with
    | error e => simp [collect]
    | ok a => cases hc : collect rest <;> simp [collect, hc, Except.map]

/-- **Failure means the first error.** -/
theorem collect_eq_error_iff {ε α : Type} {outcomes : List (Except ε α)} {e : ε} :
    collect outcomes = .error e ↔ ∃ before after,
      outcomes = before ++ .error e :: after ∧ ∀ o ∈ before, ∃ a, o = .ok a := by
  constructor
  · intro h
    induction outcomes with
    | nil => cases h
    | cons o rest ih =>
      cases o with
      | error e' =>
        cases h
        exact ⟨[], rest, rfl, nofun⟩
      | ok a =>
        cases hc : collect rest with
        | ok values =>
          rw [collect, hc] at h
          cases h
        | error e' =>
          rw [collect, hc] at h
          cases h
          obtain ⟨before, after, rfl, hbefore⟩ := ih hc
          exact ⟨.ok a :: before, after, rfl, List.forall_mem_cons.mpr ⟨⟨a, rfl⟩, hbefore⟩⟩
  · rintro ⟨before, after, rfl, hbefore⟩
    induction before with
    | nil => rfl
    | cons o before ih =>
      obtain ⟨⟨a, rfl⟩, hrest⟩ := List.forall_mem_cons.mp hbefore
      rw [List.cons_append, collect, ih hrest]
      rfl

end EventFilter
