/-!
# Lists in the order of their keys

Finite maps from texts to values as lists of entries with ascending keys, by code points. Inserting
an entry puts it at its place and replaces one with the same key. Main statements: the order is kept
(`sorted_insert`, `sorted_erase`), looking up sees the last value put under a key
(`find?_insert`, `find?_erase`), and a list in order is the list of its entries (`ofList_eq_self`).
-/

namespace EventFilter.KeyedList

variable {α : Type}

/-- The keys ascend. -/
def Sorted (entries : List (String × α)) : Prop := entries.Pairwise fun a b => a.1 < b.1

/-- A list with an entry at its place. -/
def insert (key : String) (value : α) : List (String × α) → List (String × α)
  | [] => [(key, value)]
  | (k, v) :: rest =>
    if key < k then (key, value) :: (k, v) :: rest
    else if key = k then (key, value) :: rest
    else (k, v) :: insert key value rest

/-- A list without the entry of a key. -/
def erase (key : String) (entries : List (String × α)) : List (String × α) :=
  entries.filter fun e => e.1 ≠ key

/-- The value of a key. -/
def find? (key : String) : List (String × α) → Option α
  | [] => none
  | (k, v) :: rest => if key = k then some v else find? key rest

/-- The list of some entries, later ones replacing earlier ones. -/
def ofList (entries : List (String × α)) : List (String × α) :=
  entries.foldl (fun acc e => insert e.1 e.2 acc) []

/-- The keys after an insertion. -/
theorem mem_insert {key : String} {value : α} {entries : List (String × α)} {e : String × α}
    (h : e ∈ insert key value entries) : e = (key, value) ∨ e ∈ entries := by
  induction entries with
  | nil => simpa [insert] using h
  | cons d rest ih =>
    obtain ⟨k, v⟩ := d
    unfold insert at h
    split at h
    · simpa using h
    · split at h
      · rcases List.mem_cons.mp h with h | h
        · exact .inl h
        · exact .inr (List.mem_cons_of_mem _ h)
      · rcases List.mem_cons.mp h with h | h
        · exact .inr (h ▸ List.mem_cons_self)
        · exact (ih h).imp_right (List.mem_cons_of_mem _)

/-- **Insertion keeps the order.** -/
theorem sorted_insert {key : String} {value : α} {entries : List (String × α)}
    (h : Sorted entries) : Sorted (insert key value entries) := by
  induction entries with
  | nil => simp [insert, Sorted]
  | cons d rest ih =>
    obtain ⟨k, v⟩ := d
    have hrest := List.pairwise_cons.mp h
    unfold insert
    split
    · rename_i hlt
      refine List.pairwise_cons.mpr ⟨fun e he => ?_, h⟩
      rcases List.mem_cons.mp he with rfl | he
      · exact hlt
      · exact String.lt_trans hlt (hrest.1 e he)
    · split
      · rename_i heq
        subst heq
        exact List.pairwise_cons.mpr hrest
      · rename_i hlt hne
        refine List.pairwise_cons.mpr ⟨fun e he => ?_, ih hrest.2⟩
        rcases mem_insert he with rfl | he
        · exact Std.lt_of_le_of_ne (String.not_lt.mp hlt) (Ne.symm hne)
        · exact hrest.1 e he

/-- **Removal keeps the order.** -/
theorem sorted_erase {key : String} {entries : List (String × α)} (h : Sorted entries) :
    Sorted (erase key entries) := List.Pairwise.filter _ h

/-- The list of some entries is in order. -/
theorem sorted_ofList (entries : List (String × α)) : Sorted (ofList entries) := by
  have hfold (es acc : List (String × α)) (h : Sorted acc) :
      Sorted (es.foldl (fun acc e => insert e.1 e.2 acc) acc) := by
    induction es generalizing acc with
    | nil => exact h
    | cons e es ih => exact ih _ (sorted_insert h)
  exact hfold entries [] List.Pairwise.nil

/-- **Looking up after an insertion.** -/
theorem find?_insert (key key' : String) (value : α) (entries : List (String × α)) :
    find? key' (insert key value entries) =
      if key' = key then some value else find? key' entries := by
  induction entries with
  | nil => rfl
  | cons d rest ih =>
    obtain ⟨k, v⟩ := d
    unfold insert
    split
    · rfl
    · split
      · rename_i heq
        subst heq
        by_cases h : key' = key <;> simp [find?, h]
      · rename_i hne
        by_cases hk : key' = k
        · subst hk
          simp [find?, Ne.symm hne]
        · simp [find?, hk, ih]

/-- **Looking up after a removal.** -/
theorem find?_erase (key key' : String) (entries : List (String × α)) :
    find? key' (erase key entries) = if key' = key then none else find? key' entries := by
  induction entries with
  | nil => simp [find?, erase]
  | cons d rest ih =>
    obtain ⟨k, v⟩ := d
    by_cases hk : k = key
    · subst hk
      have : erase k ((k, v) :: rest) = erase k rest := by simp [erase]
      rw [this, ih]
      by_cases h : key' = k <;> simp [find?, h]
    · have : erase key ((k, v) :: rest) = (k, v) :: erase key rest := by simp [erase, hk]
      rw [this]
      by_cases h : key' = k
      · subst h
        simp [find?, hk]
      · simp [find?, h, ih]

/-- A key without a value is the key of no entry. -/
theorem find?_eq_none_iff {key : String} {entries : List (String × α)} :
    find? key entries = none ↔ ∀ e ∈ entries, key ≠ e.1 := by
  induction entries with
  | nil => simp [find?]
  | cons e rest ih =>
    rw [List.forall_mem_cons, find?]
    by_cases h : key = e.1 <;> simp [h, ih]

/-- An entry with the largest key is put at the end. -/
theorem insert_eq_append {key : String} {value : α} {entries : List (String × α)}
    (h : ∀ e ∈ entries, e.1 < key) : insert key value entries = entries ++ [(key, value)] := by
  induction entries with
  | nil => rfl
  | cons e rest ih =>
    obtain ⟨hlt, hrest⟩ := List.forall_mem_cons.mp h
    rw [insert, if_neg (String.lt_asymm hlt), if_neg (String.ne_of_lt hlt).symm, ih hrest]
    rfl

/-- **A list in order is the list of its entries.** -/
theorem ofList_eq_self {entries : List (String × α)} (h : Sorted entries) :
    ofList entries = entries := by
  have hfold (es acc : List (String × α)) (h : Sorted (acc ++ es)) :
      es.foldl (fun acc e => insert e.1 e.2 acc) acc = acc ++ es := by
    induction es generalizing acc with
    | nil => simp
    | cons e es ih =>
      have hlast : ∀ d ∈ acc, d.1 < e.1 := fun d hd =>
        (List.pairwise_append.mp h).2.2 d hd e List.mem_cons_self
      have happend : acc ++ [(e.1, e.2)] ++ es = acc ++ e :: es := by simp
      rw [List.foldl_cons, insert_eq_append hlast, ih _ (by rwa [happend]), happend]
  exact hfold entries [] h

end EventFilter.KeyedList
