import EventFilter.Overload

/-!
# Registries of functions

The overloads that calls are resolved against, in the order in which they were last registered. A
name is looked up without regard to the case of its ASCII letters. There is at most one overload of
each shape under a name: registering another one replaces it and moves it to the end. A call takes
the overload with exactly its number of arguments if there is one, else the first that takes further
arguments and accepts it (`Registry.select`). Main statement: what is selected accepts the call
(`Registry.accepts_of_select`).
-/

namespace EventFilter

/-- **A registry of functions.** -/
structure Registry where
  overloads : List Overload

namespace Registry

instance : Inhabited Registry := ⟨⟨[]⟩⟩

/-- The registry without functions. -/
def empty : Registry := ⟨[]⟩

/-- Whether two overloads cannot stand beside each other. -/
def conflicts (f g : Overload) : Bool := f.name == g.name && f.shape == g.shape

/-- **A registry with one more overload**, in place of the one of its name and shape. -/
def register (r : Registry) (f : Overload) : Registry :=
  ⟨r.overloads.filter (!conflicts f ·) ++ [f]⟩

/-- The registry made by registering overloads one after the other. -/
def ofList (fs : List Overload) : Registry := fs.foldl register empty

/-- **The overloads under a name**, in the order of their registration, `none` if there are none. -/
def lookup (r : Registry) (name : String) : Option (List Overload) :=
  match r.overloads.filter (·.name == Text.asciiUpper name) with
  | [] => none
  | fs => some fs

/-- **The overload that a call with `count` arguments takes.** -/
def select (fs : List Overload) (count : Nat) : Option Overload :=
  (fs.find? fun f => f.variadic.isNone && f.accepts count).or (fs.find? (·.accepts count))

/-- The overload that a call of a name takes. -/
def resolve (r : Registry) (name : String) (count : Nat) : Option Overload :=
  (r.lookup name).bind (select · count)

/-- Whether there is a function of a given name. -/
def contains (r : Registry) (name : String) : Bool := (r.lookup name).isSome

/-- The names of the functions, each once. -/
def names (r : Registry) : List String := (r.overloads.map (·.name)).eraseDups

/-- **The selected overload accepts the call**, and is one of those it was selected from. -/
theorem accepts_of_select {fs : List Overload} {count : Nat} {f : Overload}
    (h : select fs count = some f) : f ∈ fs ∧ f.accepts count = true := by
  rcases Option.or_eq_some_iff.mp h with h | ⟨_, h⟩
  · have hp := List.find?_some h
    simp only [Bool.and_eq_true] at hp
    exact ⟨List.mem_of_find?_eq_some h, hp.2⟩
  · have hp := List.find?_some h
    exact ⟨List.mem_of_find?_eq_some h, hp⟩

end Registry

end EventFilter
