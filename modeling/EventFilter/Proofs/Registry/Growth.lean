import EventFilter.Registry

/-!
# Registries that grow

What a call needs of a registry is that there is an overload of its name for its number of arguments
(`Registry.Offers`). Registering an overload may take another one away, but only one of the same
shape, and overloads of one shape take the same numbers of arguments. So no call is lost.
Main statements: a call can be resolved exactly if it is offered (`Registry.offers_iff_resolve`),
and whatever a registry offers it still offers after any further registrations
(`Registry.le_foldl_register`).
-/

namespace EventFilter

/-- Overloads of one shape take the same numbers of arguments. -/
theorem Overload.accepts_eq_of_shape_eq {f g : Overload} (h : f.shape = g.shape) (count : Nat) :
    f.accepts count = g.accepts count := by
  obtain ⟨hlen, hvar⟩ := Prod.mk.inj h
  unfold accepts
  rw [hlen, hvar]

namespace Registry

/-- **A registry offers a call**: one of its overloads has the name, in whatever case that is
written, and takes the number of arguments. -/
def Offers (r : Registry) (name : String) (count : Nat) : Prop :=
  ∃ f ∈ r.overloads, f.name = Text.asciiUpper name ∧ f.accepts count = true

/-- An overload can be selected if one of them accepts the call. -/
theorem exists_select_iff {fs : List Overload} {count : Nat} :
    (∃ f, select fs count = some f) ↔ ∃ f ∈ fs, f.accepts count = true := by
  constructor
  · rintro ⟨f, hf⟩
    exact ⟨f, accepts_of_select hf⟩
  · rintro ⟨f, hf, hacc⟩
    unfold select
    cases hfixed : fs.find? fun f => f.variadic.isNone && f.accepts count with
    | some g => exact ⟨g, rfl⟩
    | none =>
      cases hany : fs.find? (·.accepts count) with
      | some g => exact ⟨g, rfl⟩
      | none => exact absurd hacc (List.find?_eq_none.mp hany f hf)

/-- What is looked up under a name are the overloads of that name. -/
theorem lookup_eq_some_iff {r : Registry} {name : String} {fs : List Overload} :
    r.lookup name = some fs ↔
      fs ≠ [] ∧ r.overloads.filter (·.name == Text.asciiUpper name) = fs := by
  unfold lookup
  split
  · rename_i heq
    rw [heq]
    simp only [reduceCtorEq, false_iff, not_and]
    exact fun hne h => hne h.symm
  · rename_i fs' heq
    simp only [Option.some.injEq]
    exact ⟨fun h => ⟨h ▸ heq, h⟩, fun h => h.2⟩

/-- **A call is offered exactly if it can be resolved.** -/
theorem offers_iff_resolve {r : Registry} {name : String} {count : Nat} :
    r.Offers name count ↔ ∃ fs f, r.lookup name = some fs ∧ select fs count = some f := by
  constructor
  · rintro ⟨f, hf, hname, hacc⟩
    have hmem : f ∈ r.overloads.filter (·.name == Text.asciiUpper name) :=
      List.mem_filter.mpr ⟨hf, beq_iff_eq.mpr hname⟩
    obtain ⟨g, hg⟩ := exists_select_iff.mpr ⟨f, hmem, hacc⟩
    exact ⟨_, g, lookup_eq_some_iff.mpr ⟨List.ne_nil_of_mem hmem, rfl⟩, hg⟩
  · rintro ⟨fs, f, hlookup, hselect⟩
    obtain ⟨-, rfl⟩ := lookup_eq_some_iff.mp hlookup
    obtain ⟨hmem, hacc⟩ := accepts_of_select hselect
    obtain ⟨hf, hname⟩ := List.mem_filter.mp hmem
    exact ⟨f, hf, beq_iff_eq.mp hname, hacc⟩

/-- The case of a name plays no part in what is offered. -/
theorem offers_asciiUpper {r : Registry} {name : String} {count : Nat} :
    r.Offers (Text.asciiUpper name) count ↔ r.Offers name count := by
  unfold Offers
  rw [Text.asciiUpper_asciiUpper]

/-- One registry offers at least the calls that another one does. -/
instance : LE Registry := ⟨fun r r' => ∀ name count, r.Offers name count → r'.Offers name count⟩

/-- A registry offers what it offers. -/
theorem le_refl (r : Registry) : r ≤ r := fun _ _ h => h

/-- Offers are passed on from registry to registry. -/
theorem le_trans {r r' r'' : Registry} (h : r ≤ r') (h' : r' ≤ r'') : r ≤ r'' :=
  fun name count hr => h' name count (h name count hr)

/-- **Registering loses no call**: an overload gives way only to one that takes the same numbers of
arguments. -/
theorem le_register (r : Registry) (f : Overload) : r ≤ r.register f := by
  rintro name count ⟨g, hg, hname, hacc⟩
  cases hconf : conflicts f g with
  | false =>
    refine ⟨g, ?_, hname, hacc⟩
    exact List.mem_append_left _ (List.mem_filter.mpr ⟨hg, by rw [hconf]; rfl⟩)
  | true =>
    simp only [conflicts, Bool.and_eq_true, beq_iff_eq] at hconf
    obtain ⟨hn, hs⟩ := hconf
    refine ⟨f, List.mem_append_right _ List.mem_cons_self, hn.trans hname, ?_⟩
    rw [Overload.accepts_eq_of_shape_eq hs, hacc]

/-- **Registering one overload after the other loses no call.** -/
theorem le_foldl_register (r : Registry) (fs : List Overload) : r ≤ fs.foldl register r := by
  induction fs generalizing r with
  | nil => exact le_refl r
  | cons f fs ih => exact le_trans (le_register r f) (ih (r.register f))

/-- An overload that has been registered is offered. -/
theorem offers_register (r : Registry) {f : Overload} {count : Nat}
    (hcount : f.accepts count = true) : (r.register f).Offers f.name count :=
  ⟨f, List.mem_append_right _ List.mem_cons_self, f.asciiUpper_name.symm, hcount⟩

/-- Each of some overloads that have been registered one after the other is offered. -/
theorem offers_foldl_register {r : Registry} {f : Overload} {fs : List Overload} {count : Nat}
    (hf : f ∈ fs) (hcount : f.accepts count = true) :
    (fs.foldl register r).Offers f.name count := by
  induction fs generalizing r with
  | nil => cases hf
  | cons g fs ih =>
    rcases List.mem_cons.mp hf with rfl | hf
    · exact le_foldl_register _ fs _ _ (offers_register r hcount)
    · exact ih hf

end Registry

end EventFilter
