import EventFilter.KeyedList
import Mathlib.Data.List.Sort
import Mathlib.Data.String.Basic

/-!
# What is looked up in a list of entries

A list in the order of its keys is determined by what is looked up in it, and a list that is put
together from entries by the last entry of each key. So the order in which entries are put in is of
no matter, as far as they have different keys.
Main statements: what is looked up is the last entry of a key (`KeyedList.find?_ofList`), and lists
in which the same is looked up are the same (`KeyedList.eq_of_find?_eq`).
-/

namespace EventFilter.KeyedList

variable {α : Type} {entries entries' : List (String × α)} {key : String} {value : α}

/-- **What is looked up is the last entry of a key.** -/
theorem find?_ofList (key : String) (entries : List (String × α)) :
    find? key (ofList entries) = entries.reverse.lookup key := by
  have hfold (es acc : List (String × α)) :
      find? key (es.foldl (fun acc e => insert e.1 e.2 acc) acc) =
        (es.reverse.lookup key).or (find? key acc) := by
    induction es generalizing acc with
    | nil => rfl
    | cons e es ih =>
      obtain ⟨k, v⟩ := e
      rw [List.foldl_cons, ih, find?_insert, List.reverse_cons, List.lookup_append, Option.or_assoc,
        List.lookup_cons]
      by_cases hkey : key = k
      · simp [hkey]
      · simp [hkey, beq_false_of_ne hkey]
  rw [ofList, hfold, find?, Option.or_none]

/-- Entries are put in as they are. -/
theorem mem_of_mem_ofList {e : String × α} (h : e ∈ ofList entries) : e ∈ entries := by
  have hfold (es acc : List (String × α))
      (hmem : e ∈ es.foldl (fun acc e => insert e.1 e.2 acc) acc) : e ∈ es ∨ e ∈ acc := by
    induction es generalizing acc with
    | nil => exact .inr hmem
    | cons d es ih =>
      rcases ih _ hmem with hes | hinsert
      · exact .inl (List.mem_cons_of_mem d hes)
      · rcases mem_insert hinsert with rfl | hacc
        · exact .inl List.mem_cons_self
        · exact .inr hacc
  exact (hfold entries [] h).resolve_right List.not_mem_nil

/-- In a list in order the entry of a key is looked up under it. -/
theorem find?_eq_some_iff_mem (h : Sorted entries) :
    find? key entries = some value ↔ (key, value) ∈ entries := by
  induction entries with
  | nil => simp [find?]
  | cons e entries ih =>
    obtain ⟨k, v⟩ := e
    obtain ⟨hfirst, hrest⟩ := List.pairwise_cons.mp h
    rw [find?, List.mem_cons]
    by_cases hkey : key = k
    · subst hkey
      have hmem : (key, value) ∉ entries := fun hmem =>
        String.lt_irrefl key (hfirst (key, value) hmem)
      simp [hmem, eq_comm]
    · simp [hkey, ih hrest]

/-- **Lists in which the same is looked up** are the same. -/
theorem eq_of_find?_eq (h : Sorted entries) (h' : Sorted entries')
    (heq : ∀ key, find? key entries = find? key entries') : entries = entries' := by
  have hmem : ∀ e : String × α, e ∈ entries ↔ e ∈ entries' := fun e => by
    rw [← find?_eq_some_iff_mem h, ← find?_eq_some_iff_mem h', heq]
  have hnodup {es : List (String × α)} (hes : Sorted es) : es.Nodup :=
    List.Pairwise.imp (fun hlt heq => String.ne_of_lt hlt (congrArg Prod.fst heq)) hes
  exact ((List.perm_ext_iff_of_nodup (hnodup h) (hnodup h')).mpr hmem).eq_of_pairwise
    (fun _ _ _ _ hab hba => absurd hba (String.lt_asymm hab)) h h'

/-- Of entries with different keys each is looked up under its key. -/
theorem lookup_eq_some_iff_mem (hkeys : (entries.map Prod.fst).Nodup) :
    entries.lookup key = some value ↔ (key, value) ∈ entries := by
  induction entries with
  | nil => simp
  | cons e entries ih =>
    obtain ⟨k, v⟩ := e
    obtain ⟨hfirst, hrest⟩ := List.nodup_cons.mp hkeys
    rw [List.lookup_cons, List.mem_cons]
    by_cases hkey : key = k
    · subst hkey
      have hmem : (key, value) ∉ entries := fun hmem =>
        hfirst (List.mem_map.mpr ⟨(key, value), hmem, rfl⟩)
      simp [hmem, eq_comm]
    · simp [hkey, beq_false_of_ne hkey, ih hrest]

/-- **The order of entries with different keys** is of no matter. -/
theorem lookup_reverse_of_perm (hperm : entries.Perm entries')
    (hkeys : (entries.map Prod.fst).Nodup) (key : String) :
    entries'.reverse.lookup key = entries.reverse.lookup key := by
  have hreverse {es : List (String × α)} (hes : entries.Perm es) :
      (es.reverse.map Prod.fst).Nodup := by
    rw [List.map_reverse, List.nodup_reverse]
    exact (hes.map Prod.fst).nodup_iff.mp hkeys
  apply Option.ext
  intro value
  rw [lookup_eq_some_iff_mem (hreverse hperm), lookup_eq_some_iff_mem (hreverse .rfl),
    List.mem_reverse, List.mem_reverse, hperm.mem_iff]

end EventFilter.KeyedList
