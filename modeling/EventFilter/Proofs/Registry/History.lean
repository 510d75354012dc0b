import Mathlib.Data.List.Induction
import EventFilter.Proofs.Registry.Growth

/-!
# Registries and their histories

What a registry holds is determined by the overloads that were registered, one after the other:
under each name, and of each shape, the overload that was registered last (`Registry.LatestAt`), in
the order of these registrations. A registration at the end of a history replaces one entry of this
record and adds one at its end (`Registry.Records.register`), so that every registry made by
registrations has such a record. Which overload a call takes can be read from the history alone
(`Registry.Resolution`).
Main statement: look-up and resolution as functions of the history
(`Registry.lookup_and_resolve_ofList`).
-/

namespace EventFilter

namespace Overload

/-- **An overload goes by a name**, in whatever case either is written. -/
def IsNamed (f : Overload) (name : String) : Prop := Text.asciiUpper f.name = Text.asciiUpper name

/-- An overload of a fixed number of parameters. -/
def TakesExactly (f : Overload) (count : Nat) : Prop :=
  f.variadic = none ∧ f.parameters.length = count

/-- An overload that takes further arguments, and no more parameters than a given number. -/
def TakesFurther (f : Overload) (count : Nat) : Prop :=
  f.variadic.isSome = true ∧ f.parameters.length ≤ count

variable {f g : Overload} {name : String} {count : Nat}

/-- The name that an overload is kept under is in upper case already. -/
theorem isNamed_iff : f.IsNamed name ↔ f.name = Text.asciiUpper name := by
  unfold IsNamed
  rw [f.asciiUpper_name]

/-- An overload goes by the name of another one exactly if the two names are the same. -/
theorem isNamed_name_iff : g.IsNamed f.name ↔ g.name = f.name := by
  rw [isNamed_iff, f.asciiUpper_name]

/-- The shape of an overload says whether it takes exactly so many arguments. -/
theorem takesExactly_iff_shape : f.TakesExactly count ↔ f.shape = (count, false) := by
  unfold TakesExactly shape
  rw [Prod.mk.injEq, Option.isSome_eq_false_iff, Option.isNone_iff_eq_none, and_comm]

/-- An overload without further arguments that accepts a call takes exactly its arguments. -/
theorem isNone_and_accepts_iff :
    (f.variadic.isNone && f.accepts count) = true ↔ f.TakesExactly count := by
  unfold TakesExactly accepts
  cases f.variadic with
  | none =>
    simp only [Option.isNone_none, Bool.true_and, Option.isSome_none, Bool.false_eq_true, if_false,
      beq_iff_eq, true_and]
    exact eq_comm
  | some k => simp

/-- **An overload accepts a call** if it takes exactly its arguments, or further ones. -/
theorem accepts_iff_takes :
    f.accepts count = true ↔ f.TakesExactly count ∨ f.TakesFurther count := by
  unfold TakesExactly TakesFurther accepts
  cases f.variadic with
  | none =>
    simp only [Option.isSome_none, Bool.false_eq_true, if_false, beq_iff_eq, true_and, false_and,
      or_false]
    exact eq_comm
  | some k => simp

end Overload

namespace Registry

/-! ### The latest overloads -/

/-- **The latest overload of a shape**: it was registered under a name at some time, and no other
one of its shape was registered under this name later. Times are places in the history. -/
structure LatestAt (history : List Overload) (name : String) (time : Nat) (f : Overload) :
    Prop where
  registered : history[time]? = some f
  named : f.IsNamed name
  last : ∀ later g, time < later → history[later]? = some g → g.IsNamed name → g.shape ≠ f.shape

/-- Two overloads conflict if they go by one name and have one shape. -/
theorem conflicts_iff {f g : Overload} :
    conflicts g f = true ↔ g.IsNamed f.name ∧ g.shape = f.shape := by
  rw [Overload.isNamed_name_iff, conflicts, Bool.and_eq_true, beq_iff_eq, beq_iff_eq]

section history

variable {history : List Overload} {name : String} {time time' count : Nat} {f g : Overload}

/-- An overload that goes by a name is the latest under this name if it is under its own. -/
theorem latestAt_iff_of_isNamed (hf : f.IsNamed name) :
    LatestAt history name time f ↔ LatestAt history f.name time f := by
  have hname (g : Overload) : g.IsNamed f.name ↔ g.IsNamed name := by
    rw [Overload.isNamed_name_iff, Overload.isNamed_iff, Overload.isNamed_iff.mp hf]
  constructor <;> intro h
  · refine ⟨h.registered, rfl, fun later g hlater hg hn => ?_⟩
    exact h.last later g hlater hg ((hname g).mp hn)
  · refine ⟨h.registered, hf, fun later g hlater hg hn => ?_⟩
    exact h.last later g hlater hg ((hname g).mpr hn)

/-- The latest overload was registered. -/
theorem LatestAt.mem (h : LatestAt history name time f) : f ∈ history :=
  List.mem_of_getElem? h.registered

/-- At each time one overload was registered. -/
theorem LatestAt.eq_of_time (h : LatestAt history name time f) (h' : LatestAt history name time g) :
    f = g :=
  Option.some.inj (h.registered.symm.trans h'.registered)

/-- **Of each shape there is one latest overload.** -/
theorem LatestAt.eq_of_shape (h : LatestAt history name time f)
    (h' : LatestAt history name time' g) (hshape : f.shape = g.shape) : f = g := by
  rcases Nat.lt_trichotomy time time' with hlt | rfl | hlt
  · exact absurd hshape.symm (h.last time' g hlt h'.registered h'.named)
  · exact h.eq_of_time h'
  · exact absurd hshape (h'.last time f hlt h.registered h.named)

/-- What stands in a list with one more member at its end. -/
theorem getElem?_concat_eq_some_iff {α : Type} {l : List α} {a b : α} {i : Nat} :
    (l ++ [b])[i]? = some a ↔ l[i]? = some a ∨ (i = l.length ∧ a = b) := by
  rw [List.getElem?_append]
  split
  · rename_i hlt
    exact ⟨.inl, fun h => h.resolve_right fun hend => Nat.ne_of_lt hlt hend.1⟩
  · rename_i hge
    rw [List.getElem?_singleton, List.getElem?_eq_none (Nat.le_of_not_lt hge)]
    grind

/-- **One more registration** leaves the latest overloads that it does not conflict with, and adds
its own. -/
theorem latestAt_concat :
    LatestAt (history ++ [g]) name time f ↔
      (LatestAt history name time f ∧ conflicts g f = false) ∨
        (time = history.length ∧ f = g ∧ g.IsNamed name) := by
  have hend : (history ++ [g])[history.length]? = some g := List.getElem?_concat_length
  constructor
  · intro h
    rcases getElem?_concat_eq_some_iff.mp h.registered with hbefore | ⟨rfl, rfl⟩
    · refine .inl ⟨⟨hbefore, h.named, fun later g' hlater hg' => ?_⟩, ?_⟩
      · exact h.last later g' hlater (getElem?_concat_eq_some_iff.mpr (.inl hg'))
      · rw [Bool.eq_false_iff, ne_eq, conflicts_iff]
        rintro ⟨hname, hshape⟩
        have hlt : time < history.length := (List.getElem?_eq_some_iff.mp hbefore).1
        exact h.last _ g hlt hend (hname.trans h.named) hshape
    · exact .inr ⟨rfl, rfl, h.named⟩
  · rintro (⟨h, hconflict⟩ | ⟨rfl, rfl, hnamed⟩)
    · have hregistered : (history ++ [g])[time]? = some f :=
        getElem?_concat_eq_some_iff.mpr (.inl h.registered)
      refine ⟨hregistered, h.named, fun later g' hlater hg' hn hshape => ?_⟩
      rcases getElem?_concat_eq_some_iff.mp hg' with hbefore | ⟨-, rfl⟩
      · exact h.last later g' hlater hbefore hn hshape
      · rw [conflicts_iff.mpr ⟨hn.trans h.named.symm, hshape⟩] at hconflict
        cases hconflict
    · refine ⟨hend, hnamed, fun later g' hlater hg' => ?_⟩
      -- The new registration is the last one, so there is no later one to compare with.
      have hlt := (List.getElem?_eq_some_iff.mp hg').1
      rw [List.length_append, List.length_singleton] at hlt
      omega

/-- Of each shape that was registered under a name there is a latest overload. -/
theorem exists_latestAt (hf : f ∈ history) (hnamed : f.IsNamed name) :
    ∃ time g, LatestAt history name time g ∧ g.shape = f.shape := by
  induction history using List.reverseRecOn with
  | nil => cases hf
  | append_singleton history last ih =>
    by_cases hlast : last.IsNamed name ∧ last.shape = f.shape
    · exact ⟨_, last, latestAt_concat.mpr (.inr ⟨rfl, rfl, hlast.1⟩), hlast.2⟩
    · have hmem : f ∈ history := by
        rcases List.mem_append.mp hf with h | h
        · exact h
        · obtain rfl := List.mem_singleton.mp h
          exact absurd ⟨hnamed, rfl⟩ hlast
      obtain ⟨time, g, hg, hshape⟩ := ih hmem
      refine ⟨time, g, latestAt_concat.mpr (.inl ⟨hg, ?_⟩), hshape⟩
      rw [Bool.eq_false_iff, ne_eq, conflicts_iff]
      rintro ⟨hname, hshape'⟩
      exact hlast ⟨hname.trans hg.named, hshape'.trans hshape⟩

end history

/-! ### Records -/

/-- **The record of a history**: the overloads of a registry with the times of their registration,
which are the latest of their shapes and in the order of time. -/
structure Records (history : List Overload) (r : Registry) (entries : List (Nat × Overload)) :
    Prop where
  overloads_eq : r.overloads = entries.map (·.2)
  inOrder : entries.Pairwise fun a b => a.1 < b.1
  mem_iff : ∀ time f, (time, f) ∈ entries ↔ LatestAt history f.name time f

/-- Without registrations there is nothing on record. -/
theorem records_empty : Records [] empty [] where
  overloads_eq := rfl
  inOrder := .nil
  mem_iff := by
    intro time f
    refine ⟨nofun, fun h => ?_⟩
    cases h.registered

/-- **A registration is recorded** at the end, and what it conflicts with is taken from the
record. -/
theorem Records.register {history : List Overload} {r : Registry}
    {entries : List (Nat × Overload)} (h : Records history r entries) (g : Overload) :
    Records (history ++ [g]) (r.register g)
      (entries.filter (fun entry => !conflicts g entry.2) ++ [(history.length, g)]) where
  overloads_eq := by
    rw [Registry.register, h.overloads_eq, List.map_append, List.filter_map]
    rfl
  inOrder := by
    refine List.pairwise_append.mpr ⟨h.inOrder.filter _, List.pairwise_singleton _ _, ?_⟩
    rintro ⟨time, f⟩ hentry _ hlast
    obtain rfl := List.mem_singleton.mp hlast
    have hlatest := (h.mem_iff time f).mp (List.mem_filter.mp hentry).1
    exact (List.getElem?_eq_some_iff.mp hlatest.registered).1
  mem_iff := by
    intro time f
    rw [latestAt_concat, List.mem_append, List.mem_filter, h.mem_iff, List.mem_singleton,
      Prod.mk.injEq, Bool.not_eq_true']
    refine or_congr_right (and_congr_right fun _ => ⟨?_, And.left⟩)
    rintro rfl
    exact ⟨rfl, rfl⟩

/-- Registrations are recorded one after the other. -/
theorem Records.exists_foldl {history : List Overload} {r : Registry}
    {entries : List (Nat × Overload)} (h : Records history r entries) (fs : List Overload) :
    ∃ entries', Records (history ++ fs) (fs.foldl Registry.register r) entries' := by
  induction fs generalizing history r entries with
  | nil => exact ⟨entries, by rwa [List.append_nil]⟩
  | cons f fs ih =>
    have hstep := ih (h.register f)
    rwa [List.append_assoc, List.singleton_append] at hstep

/-- **Every registry made by registrations has a record.** -/
theorem exists_records (history : List Overload) :
    ∃ entries, Records history (ofList history) entries :=
  records_empty.exists_foldl history

/-- The overloads of a registry were registered. -/
theorem mem_of_mem_overloads_ofList {history : List Overload} {f : Overload}
    (hf : f ∈ (ofList history).overloads) : f ∈ history := by
  obtain ⟨entries, h⟩ := exists_records history
  rw [h.overloads_eq] at hf
  obtain ⟨⟨time, _⟩, hentry, rfl⟩ := List.mem_map.mp hf
  exact ((h.mem_iff time _).mp hentry).mem

/-! ### Look-up -/

/-- The overloads of a registry under a name. -/
def named (r : Registry) (name : String) : List Overload :=
  r.overloads.filter (·.name == Text.asciiUpper name)

/-- What is looked up are the overloads under the name. -/
theorem getD_lookup (r : Registry) (name : String) : (r.lookup name).getD [] = r.named name := by
  unfold lookup named
  split
  · rename_i h
    rw [h, Option.getD_none]
  · rfl

/-- Look-up fails exactly if there are no overloads under the name. -/
theorem lookup_eq_none_iff {r : Registry} {name : String} :
    r.lookup name = none ↔ r.named name = [] := by
  unfold lookup named
  split
  · rename_i h
    simp only [h]
  · rename_i hne
    simp only [reduceCtorEq, false_iff]
    exact hne

/-- A call is resolved among the overloads under its name. -/
theorem resolve_eq_select (r : Registry) (name : String) (count : Nat) :
    r.resolve name count = select (r.named name) count := by
  unfold resolve
  rw [← getD_lookup]
  cases r.lookup name with
  | none => rfl
  | some fs => rfl

/-- **The overloads under a name** are the latest of their shapes, in the order of time. -/
theorem exists_named_ofList (history : List Overload) (name : String) :
    ∃ entries : List (Nat × Overload), (ofList history).named name = entries.map (·.2) ∧
      entries.Pairwise (fun a b => a.1 < b.1) ∧
      ∀ time f, (time, f) ∈ entries ↔ LatestAt history name time f := by
  obtain ⟨entries, h⟩ := exists_records history
  refine ⟨entries.filter fun entry => entry.2.name == Text.asciiUpper name, ?_,
    h.inOrder.filter _, fun time f => ?_⟩
  · rw [named, h.overloads_eq, List.filter_map]
    rfl
  · rw [List.mem_filter, h.mem_iff, beq_iff_eq, ← Overload.isNamed_iff]
    constructor
    · exact fun hf => (latestAt_iff_of_isNamed hf.2).mpr hf.1
    · exact fun hf => ⟨(latestAt_iff_of_isNamed hf.named).mp hf, hf.named⟩

/-! ### Resolution -/

/-- **What a call takes, by the history**: the latest overload with exactly its number of parameters
if there ever was one, else the earliest among the latest overloads that take further arguments and
not more parameters than that, else nothing. -/
inductive Resolution (history : List Overload) (name : String) (count : Nat) :
    Option Overload → Prop
  /-- an overload with exactly as many parameters -/
  | exactly {time f} : LatestAt history name time f → f.TakesExactly count →
      Resolution history name count (some f)
  /-- an overload that takes further arguments -/
  | further {time f} : (∀ g ∈ history, g.IsNamed name → ¬ g.TakesExactly count) →
      LatestAt history name time f → f.TakesFurther count →
      (∀ time' g, LatestAt history name time' g → g.TakesFurther count → time ≤ time') →
      Resolution history name count (some f)
  /-- no overload -/
  | none : (∀ g ∈ history, g.IsNamed name → ¬ g.TakesExactly count ∧ ¬ g.TakesFurther count) →
      Resolution history name count none

/-- **The history allows one resolution.** -/
theorem Resolution.unique {history : List Overload} {name : String} {count : Nat}
    {o o' : Option Overload} (h : Resolution history name count o)
    (h' : Resolution history name count o') : o = o' := by
  cases h with
  | exactly hf hcount =>
    cases h' with
    | exactly hg hcount' =>
      rw [Overload.takesExactly_iff_shape] at hcount hcount'
      rw [hf.eq_of_shape hg (hcount.trans hcount'.symm)]
    | further hne => exact absurd hcount (hne _ hf.mem hf.named)
    | none hne => exact absurd hcount (hne _ hf.mem hf.named).1
  | further hne hf hcount hearliest =>
    cases h' with
    | exactly hg hcount' => exact absurd hcount' (hne _ hg.mem hg.named)
    | further _ hg hcount' hearliest' =>
      obtain rfl := Nat.le_antisymm (hearliest _ _ hg hcount') (hearliest' _ _ hf hcount)
      rw [hf.eq_of_time hg]
    | none hne' => exact absurd hcount (hne' _ hf.mem hf.named).2
  | none hne =>
    cases h' with
    | exactly hg hcount' => exact absurd hcount' (hne _ hg.mem hg.named).1
    | further _ hg hcount' => exact absurd hcount' (hne _ hg.mem hg.named).2
    | none => rfl

/-- **In the order of time the first overload is the earliest.** -/
theorem find?_map_snd_eq_some {entries : List (Nat × Overload)}
    (hinOrder : entries.Pairwise fun a b => a.1 < b.1) {p : Overload → Bool} {f : Overload}
    (h : (entries.map (·.2)).find? p = some f) :
    p f = true ∧ ∃ time, (time, f) ∈ entries ∧
      ∀ time' g, (time', g) ∈ entries → p g = true → time ≤ time' := by
  obtain ⟨hp, before, after, heq, hbefore⟩ := List.find?_eq_some_iff_append.mp h
  obtain ⟨before', rest, rfl, rfl, hrest⟩ := List.map_eq_append_iff.mp heq
  obtain ⟨⟨time, _⟩, after', rfl, rfl, rfl⟩ := List.map_eq_cons_iff.mp hrest
  refine ⟨hp, time, List.mem_append_right _ List.mem_cons_self, fun time' g hg hpg => ?_⟩
  have hnot : (time', g) ∉ before' := by
    intro hmem
    have := hbefore g (List.mem_map_of_mem (f := (·.2)) hmem)
    rw [hpg] at this
    cases this
  rcases List.mem_cons.mp ((List.mem_append.mp hg).resolve_left hnot) with heq | hmem
  · exact Nat.le_of_eq (Prod.mk.inj heq).1.symm
  · have hlater := (List.pairwise_append.mp hinOrder).2.1
    exact Nat.le_of_lt (List.rel_of_pairwise_cons hlater hmem)

/-- **A call takes what the history says.** -/
theorem resolution_resolve (history : List Overload) (name : String) (count : Nat) :
    Resolution history name count ((ofList history).resolve name count) := by
  obtain ⟨entries, hnamed, hinOrder, hmem⟩ := exists_named_ofList history name
  have hnone {p : Overload → Bool} (h : (entries.map (·.2)).find? p = none) {time : Nat}
      {g : Overload} (hg : LatestAt history name time g) : p g = false := by
    have hmem' : g ∈ entries.map (·.2) := List.mem_map_of_mem (f := (·.2)) ((hmem time g).mpr hg)
    exact Bool.eq_false_iff.mpr (List.find?_eq_none.mp h g hmem')
  rw [resolve_eq_select, hnamed]
  unfold select
  cases hexactly : (entries.map (·.2)).find? fun f => f.variadic.isNone && f.accepts count with
  | some f =>
    obtain ⟨hcount, time, hf, -⟩ := find?_map_snd_eq_some hinOrder hexactly
    exact .exactly ((hmem time f).mp hf) (Overload.isNone_and_accepts_iff.mp hcount)
  | none =>
    have hne : ∀ g ∈ history, g.IsNamed name → ¬ g.TakesExactly count := by
      intro g hg hname hcount
      obtain ⟨time, g', hlatest, hshape⟩ := exists_latestAt hg hname
      rw [Overload.takesExactly_iff_shape, ← hshape, ← Overload.takesExactly_iff_shape] at hcount
      have := hnone hexactly hlatest
      rw [Overload.isNone_and_accepts_iff.mpr hcount] at this
      cases this
    rw [Option.none_or]
    cases haccepts : (entries.map (·.2)).find? (·.accepts count) with
    | some f =>
      obtain ⟨hcount, time, hf, hearliest⟩ := find?_map_snd_eq_some hinOrder haccepts
      have hlatest := (hmem time f).mp hf
      have hfurther := (Overload.accepts_iff_takes.mp hcount).resolve_left
        (hne f hlatest.mem hlatest.named)
      refine .further hne hlatest hfurther fun time' g hg hgfurther => ?_
      exact hearliest time' g ((hmem time' g).mpr hg)
        (Overload.accepts_iff_takes.mpr (.inr hgfurther))
    | none =>
      refine .none fun g hg hname => ⟨hne g hg hname, fun hfurther => ?_⟩
      obtain ⟨time, g', hlatest, hshape⟩ := exists_latestAt hg hname
      have := hnone haccepts hlatest
      rw [Overload.accepts_eq_of_shape_eq hshape,
        Overload.accepts_iff_takes.mpr (.inr hfurther)] at this
      cases this

/-- **A registry as a function of its history.** There is nothing under a name exactly if nothing
was registered under it, in whatever case. Otherwise there is, of each shape that was registered
under the name, the overload that was registered last, and these are in the order of their
registrations. A call takes the last overload with exactly its number of parameters, if there ever
was one, else the earliest of those that are left and take further arguments. -/
theorem lookup_and_resolve_ofList (history : List Overload) (name : String) :
    ((ofList history).lookup name = none ↔ ∀ f ∈ history, ¬ f.IsNamed name) ∧
    (∃ entries : List (Nat × Overload),
      ((ofList history).lookup name).getD [] = entries.map (·.2) ∧
      entries.Pairwise (fun a b => a.1 < b.1) ∧
      ∀ time f, (time, f) ∈ entries ↔ LatestAt history name time f) ∧
    ∀ count o, (ofList history).resolve name count = o ↔ Resolution history name count o := by
  obtain ⟨entries, hnamed, hinOrder, hmem⟩ := exists_named_ofList history name
  refine ⟨?_, ⟨entries, by rw [getD_lookup, hnamed], hinOrder, hmem⟩, fun count o => ?_⟩
  · rw [lookup_eq_none_iff, hnamed, List.map_eq_nil_iff]
    constructor
    · intro hnil f hf hname
      obtain ⟨time, g, hg, -⟩ := exists_latestAt hf hname
      have hentry := (hmem time g).mpr hg
      rw [hnil] at hentry
      cases hentry
    · intro hne
      refine List.eq_nil_iff_forall_not_mem.mpr ?_
      rintro ⟨time, f⟩ hf
      have hlatest := (hmem time f).mp hf
      exact hne f hlatest.mem hlatest.named
  · constructor
    · rintro rfl
      exact resolution_resolve history name count
    · exact (resolution_resolve history name count).unique

/-- A replaced overload goes behind those registered in between: the call takes the one with a
parameter, though the other one was the first of its shape. -/
example :
    let free := Overload.define "f" [] (some .string) .integer fun _ => .ok (.integer 1)
    let led := Overload.define "F" [.string] (some .string) .integer fun _ => .ok (.integer 2)
    ((ofList [free, led, free]).resolve "f" 1).map Overload.signature =
      some "F(String, String...) -> Integer" := by
  decide +kernel

end Registry

end EventFilter
