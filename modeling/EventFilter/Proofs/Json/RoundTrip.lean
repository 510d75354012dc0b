import EventFilter.Json.Writer
import EventFilter.Proofs.Json.Reading
import EventFilter.Proofs.KeyedList
import Mathlib.Data.List.Basic
import Mathlib.Data.List.TakeWhile

/-!
# Reading back what was written

A JSON value without floating point numbers is read back from its text, if its integers fit in 64
bits, the members of its objects are in order and its arrays and objects are not nested too deep
(`Json.Plain`). Every part of a text is read back before any text that cannot go on it, so that the
statement about a value is put together from those about its parts, in the order in which they are
written. The text of a plain value is one line, since control characters are escaped.
Main statement: a plain value is read back from its text (`Json.read?_render`).
-/

namespace EventFilter

namespace Json

open Parsed (Yields)

variable {c : Char} {cs rest more : List Char} {depth : Nat}

/-! ### Characters -/

/-- A character that is not white space is the next one. -/
theorem yields_next? (h : isSpace c = false) (cs : List Char) : Yields (next? (c :: cs)) c cs := by
  have hskip : skip (c :: cs) = c :: cs := by simp [skip, h]
  have hlt : cs.length < (c :: cs).length := Nat.lt_succ_self _
  exact ⟨hlt, next?_eq_some_iff.mpr hskip⟩

/-- A digit is not a character of another kind. -/
theorem ne_of_isDigit {d : Char} (hc : c.isDigit = true) (hd : d.isDigit = false) : c ≠ d := by
  rintro rfl
  rw [hc] at hd
  cases hd

/-! ### Strings -/

/-- A hexadecimal digit is read back. -/
theorem hexValue?_hexDigit (n : Nat) : hexValue? (hexDigit n) = some (n % 16) := by
  have hall : ∀ k < 16, hexValue? (Nat.digitChar k) = some k := by decide
  exact hall (n % 16) (Nat.mod_lt n (by decide))

/-- The code point of a control character is read back. -/
theorem yields_hexUnit? (n : Nat) (hn : n < 0x100) (cs : List Char) :
    Yields (hexUnit? ('0' :: '0' :: hexDigit (n / 16) :: hexDigit n :: cs)) n cs := by
  have hzero : hexValue? '0' = some 0 := by decide
  have hvalue : ((0 * 16 + 0) * 16 + n / 16 % 16) * 16 + n % 16 = n := by omega
  have hlt : cs.length < ('0' :: '0' :: hexDigit (n / 16) :: hexDigit n :: cs).length := by
    simp only [List.length_cons]
    omega
  refine ⟨hlt, ?_⟩
  simp only [hexUnit?, hzero, hexValue?_hexDigit, Option.bind_eq_bind, Option.bind_some, hvalue]
  rfl

/-- A control character is read back from its code point. -/
theorem yields_escape?_control (hc : c.toNat < 0x20) (cs : List Char) :
    Yields (escape? ('u' :: '0' :: '0' :: hexDigit (c.toNat / 16) :: hexDigit c.toNat :: cs)) c
      cs := by
  have hlookup : plainEscapes.lookup 'u' = none := by decide
  unfold escape?
  simp only [hlookup, if_true]
  refine .bind (yields_hexUnit? c.toNat (by omega) cs) fun h => ?_
  rw [if_neg (by simp only; omega), if_neg (by simp only; omega)]
  simp only [Char.ofNat_toNat]
  exact .some _

/-- An escape of one character is read back. -/
theorem yields_escape?_plain {d : Char} (h : plainEscapes.lookup c = some d) (cs : List Char) :
    Yields (escape? (c :: cs)) d cs := by
  unfold escape?
  simp only [h]
  exact .some _

/-- A character is read behind a backslash if its escape is. -/
theorem yields_stringTail?_escape {tail : List Char} {cs' : List Char}
    (he : Yields (escape? cs') c cs) (h : Yields (stringTail? cs) tail rest) :
    Yields (stringTail? ('\\' :: cs')) (c :: tail) rest := by
  rw [stringTail?.eq_def]
  simp only [Char.reduceEq, if_false, if_true]
  exact .bind he fun _ => .bind h fun _ => .some _

/-- How a character stands in a string: behind a backslash as a letter, as its code point, or as
itself. -/
theorem escapeChar_eq (c : Char) :
    (∃ d, plainEscapes.lookup d = some c ∧ escapeChar c = ['\\', d]) ∨
      (c.toNat < 0x20 ∧
        escapeChar c = ['\\', 'u', '0', '0', hexDigit (c.toNat / 16), hexDigit c.toNat]) ∨
      (c ≠ '"' ∧ c ≠ '\\' ∧ ¬c.toNat < 0x20 ∧ escapeChar c = [c]) := by
  unfold escapeChar
  split
  case h_1 | h_2 | h_3 | h_4 | h_5 | h_6 | h_7 => exact .inl ⟨_, rfl, rfl⟩
  case h_8 hquote hbackslash _ _ _ _ _ =>
    split
    · rename_i hcontrol
      exact .inr (.inl ⟨hcontrol, rfl⟩)
    · rename_i hcontrol
      exact .inr (.inr ⟨hquote, hbackslash, hcontrol, rfl⟩)

/-- **A character** is read back from the way in which it stands in a string. -/
theorem yields_stringTail?_escapeChar {tail : List Char}
    (h : Yields (stringTail? cs) tail rest) (c : Char) :
    Yields (stringTail? (escapeChar c ++ cs)) (c :: tail) rest := by
  obtain ⟨d, hd, heq⟩ | ⟨hcontrol, heq⟩ | ⟨hquote, hbackslash, hcontrol, heq⟩ := escapeChar_eq c
  · rw [heq]
    exact yields_stringTail?_escape (yields_escape?_plain hd cs) h
  · rw [heq]
    exact yields_stringTail?_escape (yields_escape?_control hcontrol cs) h
  · rw [heq, List.cons_append, List.nil_append, stringTail?.eq_def]
    simp only [if_neg hquote, if_neg hbackslash, if_neg hcontrol]
    exact .bind h fun _ => .some _

/-- **A string is read back.** -/
theorem yields_stringTail? (s rest : List Char) :
    Yields (stringTail? (s.flatMap escapeChar ++ '"' :: rest)) s rest := by
  induction s with
  | nil =>
    rw [List.flatMap_nil, List.nil_append, stringTail?.eq_def]
    exact .some _
  | cons c s ih =>
    rw [List.flatMap_cons, List.append_assoc]
    exact yields_stringTail?_escapeChar ih c

/-- The text of a string in front of more text. -/
theorem renderString_append (s : String) (rest : List Char) :
    renderString s ++ rest = '"' :: (s.toList.flatMap escapeChar ++ '"' :: rest) := by
  simp [renderString]

/-! ### Numbers -/

/-- A number has a first digit. -/
theorem toDigits_eq_cons (n : Nat) : ∃ d ds, Nat.toDigits 10 n = d :: ds ∧ d.isDigit = true := by
  obtain ⟨d, ds, hdigits⟩ := List.exists_cons_of_ne_nil (Nat.toDigits_ne_nil (n := n) (b := 10))
  have hmem : d ∈ Nat.toDigits 10 n := hdigits ▸ List.mem_cons_self
  exact ⟨d, ds, hdigits, Nat.isDigit_of_mem_toDigits (by decide) (by decide) hmem⟩

/-- A digit is no white space. -/
theorem isSpace_of_isDigit (h : c.isDigit = true) : isSpace c = false := by
  simp [isSpace, ne_of_isDigit h]

/-- Only zero begins with a zero. -/
theorem eq_zero_of_head?_toDigits {n : Nat} (h : (Nat.toDigits 10 n).head? = some '0') : n = 0 := by
  induction n using Nat.strongRecOn with
  | ind n ih =>
    rw [Nat.toDigits_eq_if (by decide)] at h
    split at h
    · exact Nat.digitChar_eq_zero.mp (Option.some.inj h)
    · rename_i hn
      rw [List.head?_append_of_ne_nil _ Nat.toDigits_ne_nil] at h
      have := ih (n / 10) (by omega) h
      omega

/-- Digits are read up to what goes on no number. -/
theorem yields_digits? {n : Nat} (hrest : Stops rest) :
    Yields (digits? (Nat.toDigits 10 n ++ rest)) (Nat.toDigits 10 n) rest := by
  have hall : ∀ c ∈ Nat.toDigits 10 n, c.isDigit = true := fun c hc =>
    Nat.isDigit_of_mem_toDigits (by decide) (by decide) hc
  obtain ⟨d, ds, hdigits, hd⟩ := toDigits_eq_cons n
  rw [hdigits] at hall ⊢
  have hds := (List.forall_mem_cons.mp hall).2
  obtain ⟨htake, hdrop⟩ := span_append_of_head (fun c hc => (hrest c hc).1) ds
  rw [List.takeWhile_eq_self_iff.mpr hds] at htake
  rw [List.dropWhile_eq_nil_iff.mpr hds, List.nil_append] at hdrop
  unfold digits?
  rw [List.cons_append]
  simp only [hd, if_true, htake, hdrop]
  exact .some _

/-- Digits are read back as the integer that they denote. -/
theorem yields_number? {negative : Bool} {n : Nat} {value : Json} (hrest : Stops rest)
    (hvalue : integerOf? negative (Nat.toDigits 10 n) = some value) :
    Yields (number? negative (Nat.toDigits 10 n ++ rest)) value rest := by
  have hzero : ¬((Nat.toDigits 10 n).head? = some '0' ∧ Nat.toDigits 10 n ≠ ['0']) := by
    rintro ⟨hhead, hne⟩
    rw [eq_zero_of_head?_toDigits hhead] at hne
    exact hne rfl
  have hpoint : rest.head? ≠ some '.' := fun h => (hrest '.' h).2.1 rfl
  refine .bind (yields_digits? hrest) fun _ => ?_
  rw [if_neg hzero, fraction?_eq_none hpoint, Option.bind_eq_bind, Option.bind_some,
    exponent?_eq_none fun c hc => (hrest c hc).2.2, Option.bind_eq_bind, Option.bind_some]
  simp only [NumberText.value?, hvalue, Option.bind_eq_bind, Option.bind_some]
  exact .some _

/-- The digits of a number denote it. -/
theorem digitsValue_toDigits (n : Nat) : Text.digitsValue (Nat.toDigits 10 n) = n :=
  Nat.ofDigitChars_toDigits (by decide) (by decide)

/-- The digits of a number that fits in 64 bits are read as an integer. -/
theorem integerOf?_toDigits {negative : Bool} {n : Nat}
    (h : if negative then n ≠ 0 ∧ 2 * n ≤ UInt64.size else n < UInt64.size) :
    integerOf? negative (Nat.toDigits 10 n) =
      some (.integer (if negative then -(n : Int) else n)) := by
  cases negative <;> simp_all [integerOf?, digitsValue_toDigits]

/-! ### Values -/

/-- A word is read back. -/
theorem yields_word? (word : List Char) (value : Json) (rest : List Char) :
    Yields (word? word value (word ++ rest)) value rest := by
  have hfront : word.isPrefixOf (word ++ rest) = true :=
    List.isPrefixOf_iff_prefix.mpr (List.prefix_append word rest)
  have hdrop : (word ++ rest).drop word.length = rest := List.drop_left
  unfold word?
  simp only [hfront, if_true, hdrop]
  exact .some _

/-- **A plain value**: one that its text determines, with arrays and objects nested at most `depth`
deep. -/
inductive Plain : Nat → Json → Prop
  | null {depth : Nat} : Plain depth .null
  | boolean {depth : Nat} (b : Bool) : Plain depth (.boolean b)
  | integer {depth : Nat} {n : Int} (hmin : -9223372036854775808 ≤ n)
      (hmax : n ≤ 18446744073709551615) : Plain depth (.integer n)
  | string {depth : Nat} (s : String) : Plain depth (.string s)
  | array {depth : Nat} {items : List Json} (hitems : ∀ v ∈ items, Plain depth v) :
      Plain (depth + 1) (.array items)
  | object {depth : Nat} {members : List (String × Json)} (hsorted : KeyedList.Sorted members)
      (hmembers : ∀ m ∈ members, Plain depth m.2) : Plain (depth + 1) (.object members)

/-- An object that is made of plain members is plain. -/
theorem Plain.ofMembers {members : List (String × Json)} (h : ∀ m ∈ members, Plain depth m.2) :
    Plain (depth + 1) (ofMembers members) :=
  .object (KeyedList.sorted_ofList members) fun m hm => h m (KeyedList.mem_of_mem_ofList hm)

/-- The first character of a plain value. -/
theorem Plain.render_eq_cons {j : Json} (h : Plain depth j) :
    ∃ c cs, j.render = c :: cs ∧ isSpace c = false ∧ c ≠ ']' := by
  cases h with
  | null => exact ⟨_, _, render.eq_1, by decide, by decide⟩
  | boolean b =>
    cases b
    · exact ⟨_, _, render.eq_3, by decide, by decide⟩
    · exact ⟨_, _, render.eq_2, by decide, by decide⟩
  | @integer _ n hmin hmax =>
    rw [render]
    unfold Text.writeInt
    split
    · exact ⟨_, _, rfl, by decide, by decide⟩
    · obtain ⟨d, ds, hdigits, hd⟩ := toDigits_eq_cons n.natAbs
      exact ⟨d, ds, hdigits, isSpace_of_isDigit hd, ne_of_isDigit hd (by decide)⟩
  | string s => exact ⟨_, _, render.eq_6 s, by decide, by decide⟩
  | array => exact ⟨_, _, render.eq_7 _, by decide, by decide⟩
  | object => exact ⟨_, _, render.eq_8 _, by decide, by decide⟩

/-- **A value is read back** before whatever goes on no number. -/
def ReadsBack (depth : Nat) (v : Json) : Prop :=
  ∀ rest, Stops rest → Yields (value? depth (v.render ++ rest)) v rest

/-- An integer is read back. -/
theorem readsBack_integer {n : Int} (hmin : -9223372036854775808 ≤ n)
    (hmax : n ≤ 18446744073709551615) : ReadsBack depth (.integer n) := by
  intro rest hrest
  have hsize : UInt64.size = 18446744073709551616 := rfl
  rw [render, Text.writeInt]
  by_cases hneg : n < 0
  · rw [if_pos hneg]
    have hvalue : integerOf? true (Nat.toDigits 10 n.natAbs) = some (.integer n) := by
      rw [integerOf?_toDigits (by simp only [if_true]; omega), if_pos rfl]
      congr 2
      omega
    rw [List.cons_append, value?.eq_def]
    refine .bind (yields_next? (by decide) _) fun _ => ?_
    simp only [Char.reduceEq, if_false, if_true]
    exact .bind (yields_number? hrest hvalue) fun _ => .some _
  · rw [if_neg hneg]
    have hvalue : integerOf? false (Nat.toDigits 10 n.natAbs) = some (.integer n) := by
      rw [integerOf?_toDigits (by simp only [Bool.false_eq_true, if_false]; omega),
        if_neg Bool.false_ne_true]
      congr 2
      omega
    have hnumber := yields_number? hrest hvalue
    obtain ⟨d, ds, hdigits, hd⟩ := toDigits_eq_cons n.natAbs
    have hne {c : Char} (hc : c.isDigit = false) : d ≠ c := ne_of_isDigit hd hc
    rw [hdigits] at hnumber ⊢
    rw [List.cons_append, value?.eq_def]
    refine .bind (yields_next? (isSpace_of_isDigit hd) _) fun _ => ?_
    rw [if_neg (hne (by decide)), if_neg (hne (by decide)), if_neg (hne (by decide)),
      if_neg (hne (by decide)), if_neg (hne (by decide)), if_pos hd]
    exact .bind hnumber fun _ => .some _

/-- The first character of the items of an array. -/
theorem renderItems_eq_cons {v : Json} (h : Plain depth v) (vs : List Json) :
    ∃ c cs, renderItems (v :: vs) = c :: cs ∧ isSpace c = false ∧ c ≠ ']' := by
  obtain ⟨c, cs, hcs, hspace, hclose⟩ := h.render_eq_cons
  cases vs with
  | nil => exact ⟨c, cs, by rw [renderItems, hcs], hspace, hclose⟩
  | cons w ws =>
    exact ⟨c, cs ++ ',' :: renderItems (w :: ws), by rw [renderItems, hcs]; rfl, hspace, hclose⟩

/-- The first character of the members of an object. -/
theorem renderMembers_eq_cons (m : String × Json) (ms : List (String × Json)) :
    ∃ cs, renderMembers (m :: ms) = '"' :: cs := by
  obtain ⟨key, v⟩ := m
  cases ms with
  | nil => exact ⟨_, by rw [renderMembers, renderString]; rfl⟩
  | cons m' ms => exact ⟨_, by rw [renderMembers, renderString]; rfl⟩

/-- The items of an array are read back if each of them is. -/
theorem yields_items? {items : List Json} (hread : ∀ v ∈ items, ReadsBack depth v)
    (hne : items ≠ []) (rest : List Char) :
    Yields (items? depth (renderItems items ++ ']' :: rest)) items rest := by
  have hcomma (cs : List Char) : Stops (',' :: cs) := stops_cons_iff.mpr (by decide)
  have hclose : Stops (']' :: rest) := stops_cons_iff.mpr (by decide)
  induction items with
  | nil => exact absurd rfl hne
  | cons v vs ih =>
    obtain ⟨hv, hvs⟩ := List.forall_mem_cons.mp hread
    rw [items?.eq_def]
    cases vs with
    | nil =>
      rw [renderItems]
      refine .bind (hv _ hclose) fun _ => .bind (yields_next? (by decide) rest) fun _ => ?_
      simp only [Char.reduceEq, if_false, if_true]
      exact .some _
    | cons w ws =>
      rw [renderItems, List.append_assoc, List.cons_append]
      refine .bind (hv _ (hcomma _)) fun _ => .bind (yields_next? (by decide) _) fun _ => ?_
      simp only [Char.reduceEq, if_false, if_true]
      exact .bind (ih hvs (List.cons_ne_nil _ _)) fun _ => .some _

/-- A member of an object is read back if its value is. -/
theorem yields_member? {v : Json} (hv : Yields (value? depth (v.render ++ more)) v rest)
    (key : String) :
    Yields (member? depth (renderString key ++ ':' :: v.render ++ more)) (key, v) rest := by
  rw [List.append_assoc, List.cons_append, renderString_append, member?.eq_def]
  refine .bind (yields_next? (by decide) _) fun _ => ?_
  simp only [if_true]
  refine .bind (yields_stringTail? _ _) fun _ => .bind (yields_next? (by decide) _) fun _ => ?_
  simp only [if_true, String.ofList_toList]
  exact .bind hv fun _ => .some _

/-- The members of an object are read back if each of them is. -/
theorem yields_members? {members : List (String × Json)}
    (hread : ∀ m ∈ members, ReadsBack depth m.2) (hne : members ≠ []) (rest : List Char) :
    Yields (members? depth (renderMembers members ++ '\x7d' :: rest)) members rest := by
  have hcomma (cs : List Char) : Stops (',' :: cs) := stops_cons_iff.mpr (by decide)
  have hclose : Stops ('\x7d' :: rest) := stops_cons_iff.mpr (by decide)
  induction members with
  | nil => exact absurd rfl hne
  | cons m ms ih =>
    obtain ⟨key, v⟩ := m
    obtain ⟨hv, hms⟩ := List.forall_mem_cons.mp hread
    rw [members?.eq_def]
    cases ms with
    | nil =>
      rw [renderMembers]
      refine .bind (yields_member? (hv _ hclose) key) fun _ => ?_
      refine .bind (yields_next? (by decide) rest) fun _ => ?_
      simp only [Char.reduceEq, if_false, if_true]
      exact .some _
    | cons m' ms =>
      rw [renderMembers, List.append_assoc, List.cons_append]
      refine .bind (yields_member? (hv _ (hcomma _)) key) fun _ => ?_
      refine .bind (yields_next? (by decide) _) fun _ => ?_
      simp only [Char.reduceEq, if_false, if_true]
      exact .bind (ih hms (List.cons_ne_nil _ _)) fun _ => .some _

/-- An array is read back if its items are. -/
theorem readsBack_array {items : List Json} (hitems : ∀ v ∈ items, Plain depth v)
    (hread : ∀ v ∈ items, ReadsBack depth v) : ReadsBack (depth + 1) (.array items) := by
  intro rest _
  have htext : (Json.array items).render ++ rest = '[' :: (renderItems items ++ ']' :: rest) := by
    simp [render]
  rw [htext]
  cases items with
  | nil =>
    rw [renderItems, List.nil_append, value?.eq_def]
    refine .bind (yields_next? (by decide) _) fun _ => ?_
    simp only [Char.reduceEq, Char.reduceIsDigit, Bool.false_eq_true, if_false, if_true]
    refine .bind (yields_next? (by decide) _) fun _ => ?_
    simp only [if_true]
    exact .some _
  | cons v vs =>
    obtain ⟨c, cs, hcs, hspace, hclose⟩ := renderItems_eq_cons (hitems v List.mem_cons_self) vs
    have hread := yields_items? hread (List.cons_ne_nil v vs) rest
    rw [hcs, List.cons_append] at hread
    rw [hcs, List.cons_append, value?.eq_def]
    refine .bind (yields_next? (by decide) _) fun _ => ?_
    simp only [Char.reduceEq, Char.reduceIsDigit, Bool.false_eq_true, if_false, if_true]
    refine .bind (yields_next? hspace _) fun _ => ?_
    rw [if_neg hclose]
    exact .bind hread fun _ => .some _

/-- An object is read back if its members are. -/
theorem readsBack_object {members : List (String × Json)} (hsorted : KeyedList.Sorted members)
    (hread : ∀ m ∈ members, ReadsBack depth m.2) : ReadsBack (depth + 1) (.object members) := by
  intro rest _
  have htext : (Json.object members).render ++ rest =
      '\x7b' :: (renderMembers members ++ '\x7d' :: rest) := by
    simp [render]
  rw [htext]
  cases members with
  | nil =>
    rw [renderMembers, List.nil_append, value?.eq_def]
    refine .bind (yields_next? (by decide) _) fun _ => ?_
    simp only [Char.reduceEq, Char.reduceIsDigit, Bool.false_eq_true, if_false, if_true]
    refine .bind (yields_next? (by decide) _) fun _ => ?_
    simp only [if_true]
    exact .some _
  | cons m ms =>
    obtain ⟨cs, hcs⟩ := renderMembers_eq_cons m ms
    have hread := yields_members? hread (List.cons_ne_nil m ms) rest
    rw [hcs, List.cons_append] at hread
    rw [hcs, List.cons_append, value?.eq_def]
    refine .bind (yields_next? (by decide) _) fun _ => ?_
    simp only [Char.reduceEq, Char.reduceIsDigit, Bool.false_eq_true, if_false, if_true]
    refine .bind (yields_next? (by decide) _) fun _ => ?_
    simp only [Char.reduceEq, if_false]
    refine .bind hread fun _ => ?_
    simpa only [Parsed.map, ofMembers, KeyedList.ofList_eq_self hsorted] using .some _

/-- **A plain value is read back.** -/
theorem Plain.readsBack {j : Json} (h : Plain depth j) : ReadsBack depth j := by
  induction h with
  | null =>
    intro rest _
    rw [render, List.cons_append, value?.eq_def]
    refine .bind (yields_next? (by decide) _) fun _ => ?_
    simp only [if_true]
    exact .widen (yields_word? ['u', 'l', 'l'] _ rest) _
  | boolean b =>
    intro rest _
    cases b
    · rw [render, List.cons_append, value?.eq_def]
      refine .bind (yields_next? (by decide) _) fun _ => ?_
      simp only [Char.reduceEq, if_false, if_true]
      exact .widen (yields_word? ['a', 'l', 's', 'e'] _ rest) _
    · rw [render, List.cons_append, value?.eq_def]
      refine .bind (yields_next? (by decide) _) fun _ => ?_
      simp only [Char.reduceEq, if_false, if_true]
      exact .widen (yields_word? ['r', 'u', 'e'] _ rest) _
  | integer hmin hmax => exact readsBack_integer hmin hmax
  | string s =>
    intro rest _
    rw [render, renderString_append, value?.eq_def]
    refine .bind (yields_next? (by decide) _) fun _ => ?_
    simp only [Char.reduceEq, if_false, if_true]
    refine .bind (yields_stringTail? _ _) fun _ => ?_
    simpa only [Parsed.map, String.ofList_toList] using .some _
  | array hitems ih => exact readsBack_array hitems ih
  | object hsorted hmembers ih => exact readsBack_object hsorted ih

/-- **What is written is read back.** -/
theorem read?_render {j : Json} (h : Plain maxDepth j) : read? j.render = some j := by
  have hyields := h.readsBack [] nofun
  rw [List.append_nil] at hyields
  obtain ⟨_, hvalue⟩ := hyields
  rw [read?, hvalue]
  rfl

/-- The text of a plain value is read back. -/
theorem ofText?_text {j : Json} (h : Plain maxDepth j) : ofText? j.text = some j := by
  rw [ofText?, text, String.toList_ofList]
  exact read?_render h

/-! ### Control characters -/

/-- A character of a string is written without control characters. -/
theorem le_toNat_of_mem_escapeChar {d : Char} (h : d ∈ escapeChar c) : 0x20 ≤ d.toNat := by
  have hhex (n : Nat) : 0x20 ≤ (hexDigit n).toNat := by
    have hall : ∀ k < 16, 0x20 ≤ (Nat.digitChar k).toNat := by decide
    exact hall (n % 16) (Nat.mod_lt n (by decide))
  obtain ⟨e, he, heq⟩ | ⟨-, heq⟩ | ⟨-, -, hcontrol, heq⟩ := escapeChar_eq c
  · have hall : ∀ p ∈ plainEscapes, 0x20 ≤ p.1.toNat := by decide
    obtain ⟨before, after, hsplit, -⟩ := List.lookup_eq_some_iff.mp he
    have hmem : (e, c) ∈ plainEscapes := by simp [hsplit]
    rw [heq] at h
    obtain rfl | rfl := List.mem_pair.mp h
    · decide
    · exact hall _ hmem
  · rw [heq] at h
    simp only [List.mem_cons, List.not_mem_nil, or_false] at h
    obtain rfl | rfl | rfl | rfl | rfl | rfl := h
    iterate 4 decide
    iterate 2 exact hhex _
  · rw [heq, List.mem_singleton] at h
    rw [h]
    exact Nat.not_lt.mp hcontrol

/-- A string is written without control characters. -/
theorem le_toNat_of_mem_renderString {s : String} (h : c ∈ renderString s) : 0x20 ≤ c.toNat := by
  simp only [renderString, List.mem_append, List.mem_cons, List.mem_flatMap, List.not_mem_nil,
    or_false] at h
  obtain (rfl | ⟨d, -, hd⟩) | rfl := h
  · decide
  · exact le_toNat_of_mem_escapeChar hd
  · decide

/-- An integer is written without control characters. -/
theorem le_toNat_of_mem_writeInt {n : Int} (h : c ∈ Text.writeInt n) : 0x20 ≤ c.toNat := by
  have hdigits (h : c ∈ Nat.toDigits 10 n.natAbs) : 0x20 ≤ c.toNat := by
    have hdigit : c.isDigit = true := Nat.isDigit_of_mem_toDigits (by decide) (by decide) h
    exact Nat.le_trans (by decide) (Char.isDigit_iff_toNat.mp hdigit).1
  unfold Text.writeInt at h
  split at h
  · obtain rfl | h := List.mem_cons.mp h
    · decide
    · exact hdigits h
  · exact hdigits h

/-- What the text of an array's items is made of. -/
theorem mem_renderItems {items : List Json} (h : c ∈ renderItems items) :
    c = ',' ∨ ∃ v ∈ items, c ∈ v.render := by
  induction items with
  | nil => simp [renderItems] at h
  | cons v vs ih =>
    cases vs with
    | nil => exact .inr ⟨v, List.mem_cons_self, by rwa [renderItems] at h⟩
    | cons w ws =>
      rw [renderItems, List.mem_append, List.mem_cons] at h
      obtain h | h | h := h
      · exact .inr ⟨v, List.mem_cons_self, h⟩
      · exact .inl h
      · exact (ih h).imp_right fun ⟨u, hu, hc⟩ => ⟨u, List.mem_cons_of_mem _ hu, hc⟩

/-- What the text of an object's members is made of. -/
theorem mem_renderMembers {members : List (String × Json)} (h : c ∈ renderMembers members) :
    (c = ',' ∨ c = ':') ∨ ∃ m ∈ members, c ∈ renderString m.1 ∨ c ∈ m.2.render := by
  induction members with
  | nil => simp [renderMembers] at h
  | cons m ms ih =>
    cases ms with
    | nil =>
      rw [renderMembers, List.mem_append, List.mem_cons] at h
      obtain h | h | h := h
      · exact .inr ⟨m, List.mem_cons_self, .inl h⟩
      · exact .inl (.inr h)
      · exact .inr ⟨m, List.mem_cons_self, .inr h⟩
    | cons m' ms =>
      rw [renderMembers, List.mem_append, List.mem_append, List.mem_cons, List.mem_cons] at h
      obtain (h | h | h) | h | h := h
      · exact .inr ⟨m, List.mem_cons_self, .inl h⟩
      · exact .inl (.inr h)
      · exact .inr ⟨m, List.mem_cons_self, .inr h⟩
      · exact .inl (.inl h)
      · exact (ih h).imp_right fun ⟨u, hu, hc⟩ => ⟨u, List.mem_cons_of_mem _ hu, hc⟩

/-- **A plain value is written without control characters**, so on one line. -/
theorem Plain.le_toNat_of_mem_render {j : Json} (h : Plain depth j) :
    ∀ c ∈ j.render, 0x20 ≤ c.toNat := by
  induction h with
  | null => simp [render]
  | boolean b => cases b <;> simp [render]
  | integer hmin hmax =>
    rw [render]
    exact fun c => le_toNat_of_mem_writeInt
  | string s =>
    rw [render]
    exact fun c => le_toNat_of_mem_renderString
  | array hitems ih =>
    intro c hc
    rw [render, List.mem_append, List.mem_cons, List.mem_singleton] at hc
    obtain (rfl | hc) | rfl := hc
    · decide
    · obtain rfl | ⟨v, hv, hc⟩ := mem_renderItems hc
      · decide
      · exact ih v hv c hc
    · decide
  | object hsorted hmembers ih =>
    intro c hc
    rw [render, List.mem_append, List.mem_cons, List.mem_singleton] at hc
    obtain (rfl | hc) | rfl := hc
    · decide
    · obtain (rfl | rfl) | ⟨m, hm, hc | hc⟩ := mem_renderMembers hc
      · decide
      · decide
      · exact le_toNat_of_mem_renderString hc
      · exact ih m hm c hc
    · decide

end Json
end EventFilter
