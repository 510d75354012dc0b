import EventFilter.Registry.Builtin
import EventFilter.Proofs.Eval.Kinds

/-!
# Built-in functions on arguments of the declared kinds

The body of a built-in function checks how many arguments it is given and of which kinds. An
argument that fits the declaration (`Overload.Fits`) passes these checks, so what is left of the
failures are those of the arguments as such: a length below zero, a position outside of the text,
and a text that is no integer or no truth value (`Builtin.Refuses`).
Main statement: each built-in function answers arguments that fit it with a value of the kind that
it declares, or refuses them (`Builtin.conforms_of_mem_all`).
-/

namespace EventFilter

/-! ### Values that fit -/

/-- **Values fit an overload**: it takes so many of them, and each is of the kind that it declares
for it. -/
structure Overload.Fits (f : Overload) (values : List Value) : Prop where
  accepts : f.accepts values.length = true
  takes : f.Takes values

section fits

variable {f : Overload} {values vs : List Value} {ks : List Kind}

/-- The values that fit an overload without further arguments are of the kinds of its parameters. -/
theorem Overload.Fits.map_kind (h : f.Fits values) (hvariadic : f.variadic = none) :
    values.map Value.kind = f.parameters := by
  have hlength : values.length = f.parameters.length := by
    have haccepts := h.accepts
    rwa [Overload.accepts, hvariadic, Option.isSome_none, if_neg Bool.false_ne_true,
      beq_iff_eq] at haccepts
  apply List.ext_getElem?
  intro i
  rw [List.getElem?_map]
  cases hi : values[i]? with
  | none =>
    have hle : values.length ≤ i := List.getElem?_eq_none_iff.mp hi
    rw [Option.map_none, List.getElem?_eq_none (hlength ▸ hle)]
  | some v =>
    have hkind := h.takes i v hi
    rw [Overload.kindAt?, hvariadic, Option.or_none] at hkind
    rw [hkind, Option.map_some]

/-- The values behind the parameters of an overload are of the kind of its further arguments. -/
theorem Overload.Takes.kind_of_mem_drop (h : f.Takes values) {kind : Kind}
    (hvariadic : f.variadic = some kind) {v : Value}
    (hv : v ∈ values.drop f.parameters.length) : v.kind = kind := by
  obtain ⟨i, hi⟩ := List.getElem?_of_mem hv
  rw [List.getElem?_drop] at hi
  have hkind := h _ v hi
  rw [Overload.kindAt?, hvariadic, List.getElem?_eq_none (Nat.le_add_right _ i),
    Option.none_or] at hkind
  exact (Option.some.inj hkind).symm

/-- A value is a text if its kind says so. -/
theorem Value.exists_eq_string {v : Value} (h : v.kind = .string) : ∃ s, v = .string s := by
  cases v <;> cases h
  exact ⟨_, rfl⟩

/-- The first of some values is what their kinds say of it. -/
theorem Value.exists_of_map_kind {α : Type} {make : α → Value} {kind : Kind}
    (hmake : ∀ {v : Value}, v.kind = kind → ∃ a, v = make a)
    (h : vs.map Value.kind = kind :: ks) :
    ∃ a ws, vs = make a :: ws ∧ ws.map Value.kind = ks := by
  obtain ⟨v, ws, rfl, hv, hws⟩ := List.map_eq_cons_iff.mp h
  obtain ⟨a, rfl⟩ := hmake hv
  exact ⟨a, ws, rfl, hws⟩

end fits

namespace Builtin

/-! ### What the built-in functions refuse -/

/-- **What a built-in function refuses**, of values that fit it, and with which failure. -/
inductive Refuses : String → List Value → FunctionError → Prop
  /-- a number of characters below zero, at the beginning or the end of a text -/
  | length {name s n} : name = "LEFT" ∨ name = "RIGHT" → n < 0 →
      Refuses name [.string s, .integer n] (.negativeLength n)
  /-- a position at which there is no character, counted from the beginning or from the end -/
  | position {s p rest} : ¬ (1 ≤ p.toInt ∧ p.toInt ≤ s.toList.length) →
      ¬ (p.toInt ≤ -1 ∧ -(s.toList.length : Int) ≤ p.toInt) →
      Refuses "SUBSTRING" (.string s :: .integer p :: rest)
        (.positionOutOfRange p s.toList.length)
  /-- a number of characters below zero, from a position on -/
  | lengthFrom {s p n} : n < 0 →
      Refuses "SUBSTRING" [.string s, .integer p, .integer n] (.negativeLength n)
  /-- a text that is no integer -/
  | notInteger {s} : Text.readInt32? s.toList = none →
      Refuses "INT" [.string s] (.coercion ⟨.string s, .integer⟩)
  /-- a text that spells no truth value -/
  | notBoolean {s} : readBoolean? s = none → Refuses "BOOL" [.string s] (.notBoolean s)

/-- **An overload keeps to its declaration**: values that fit it are answered with a value of the
declared kind, or refused. -/
def Conforms (f : Overload) : Prop :=
  ∀ values, f.Fits values →
    (∃ v, f.body values = .ok v ∧ v.kind = f.returns) ∨
      ∃ e, f.body values = .error e ∧ Refuses f.name values e

variable {name : String} {returns : Kind} {body : List Value → Except FunctionError Value}

/-- A negative number is no number of characters. -/
theorem characterCount_cases (n : Int32) :
    (∃ count, characterCount n = .ok count) ∨
      (n < 0 ∧ characterCount n = .error (.negativeLength n)) := by
  by_cases hn : n < 0
  · exact .inr ⟨hn, if_pos hn⟩
  · exact .inl ⟨_, if_neg hn⟩

/-- There is a character at a position, or it is out of range. -/
theorem startOf_cases (p : Int32) (length : Nat) :
    (∃ start, startOf p length = .ok start) ∨
      (¬ (1 ≤ p.toInt ∧ p.toInt ≤ length) ∧ ¬ (p.toInt ≤ -1 ∧ -(length : Int) ≤ p.toInt) ∧
        startOf p length = .error (.positionOutOfRange p length)) := by
  by_cases hfront : 1 ≤ p.toInt ∧ p.toInt ≤ length
  · exact .inl ⟨_, if_pos hfront⟩
  · by_cases hback : p.toInt ≤ -1 ∧ -(length : Int) ≤ p.toInt
    · exact .inl ⟨_, (if_neg hfront).trans (if_pos hback)⟩
    · exact .inr ⟨hfront, hback, (if_neg hfront).trans (if_neg hback)⟩

/-- Texts are read as texts. -/
theorem exists_stringsFrom {vs : List Value} (h : ∀ v ∈ vs, v.kind = .string) (index : Nat) :
    ∃ parts, stringsFrom index vs = .ok parts := by
  induction vs generalizing index with
  | nil => exact ⟨[], rfl⟩
  | cons v vs ih =>
    obtain ⟨hv, hvs⟩ := List.forall_mem_cons.mp h
    obtain ⟨s, rfl⟩ := Value.exists_eq_string hv
    obtain ⟨parts, hparts⟩ := ih hvs (index + 1)
    refine ⟨s :: parts, ?_⟩
    rw [stringsFrom, hparts, Except.map]

/-! ### One by one -/

/-- A function of one text is given one. -/
theorem exists_of_fits_text {values : List Value}
    (h : (Overload.define name [.string] none returns body).Fits values) :
    ∃ s, values = [.string s] := by
  obtain ⟨s, _, rfl, hnil⟩ := Value.exists_of_map_kind Value.exists_eq_string (h.map_kind rfl)
  obtain rfl := List.map_eq_nil_iff.mp hnil
  exact ⟨s, rfl⟩

/-- A function of a text and an integer is given these. -/
theorem exists_of_fits_text_integer {values : List Value}
    (h : (Overload.define name [.string, .integer] none returns body).Fits values) :
    ∃ s n, values = [.string s, .integer n] := by
  obtain ⟨s, _, rfl, hrest⟩ := Value.exists_of_map_kind Value.exists_eq_string (h.map_kind rfl)
  obtain ⟨n, _, rfl, hnil⟩ := Value.exists_of_map_kind Value.exists_eq_integer hrest
  obtain rfl := List.map_eq_nil_iff.mp hnil
  exact ⟨s, n, rfl⟩

/-- **A function of one text** conforms if it answers every text with a value of its kind. -/
theorem conforms_of_text (answer : String → Value) (hbody : ∀ s, body [.string s] = .ok (answer s))
    (hkind : ∀ s, (answer s).kind = returns) :
    Conforms (.define name [.string] none returns body) := by
  intro values h
  obtain ⟨s, rfl⟩ := exists_of_fits_text h
  exact .inl ⟨answer s, hbody s, hkind s⟩

/-- `ABS` answers every integer. -/
theorem conforms_abs : Conforms (.define "ABS" [.integer] none .integer abs) := by
  intro values h
  obtain ⟨n, _, rfl, hnil⟩ := Value.exists_of_map_kind Value.exists_eq_integer (h.map_kind rfl)
  obtain rfl := List.map_eq_nil_iff.mp hnil
  exact .inl ⟨_, rfl, rfl⟩

/-- `CONCAT` answers all texts. -/
theorem conforms_concat : Conforms (.define "CONCAT" [] (some .string) .string concat) := by
  intro values h
  obtain ⟨parts, hparts⟩ :=
    exists_stringsFrom (fun v hv => h.takes.kind_of_mem_drop (v := v) rfl hv) 0
  refine .inl ⟨.string (String.join parts), ?_, rfl⟩
  change concat values = _
  unfold concat
  rw [show stringsFrom 0 values = .ok parts from hparts]
  rfl

/-- `CONCAT_WS` answers all texts of which there is at least one. -/
theorem conforms_concatWithSeparator :
    Conforms (.define "CONCAT_WS" [.string] (some .string) .string concatWithSeparator) := by
  intro values h
  have hlength : 1 ≤ values.length := of_decide_eq_true h.accepts
  obtain ⟨v, vs, rfl⟩ := List.exists_cons_of_length_pos hlength
  obtain ⟨separator, rfl⟩ := Value.exists_eq_string (Option.some.inj (h.takes 0 v rfl)).symm
  obtain ⟨parts, hparts⟩ :=
    exists_stringsFrom (fun v hv => h.takes.kind_of_mem_drop (v := v) rfl hv) 1
  refine .inl ⟨.string (separator.intercalate parts), ?_, rfl⟩
  change concatWithSeparator (.string separator :: vs) = _
  unfold concatWithSeparator
  rw [List.tail_cons, show stringsFrom 1 vs = .ok parts from hparts]
  rfl

/-- A function of a text and a number of characters, which may be negative. -/
theorem conforms_of_text_of_count (answer : String → Nat → String)
    (hname : Text.asciiUpper name = "LEFT" ∨ Text.asciiUpper name = "RIGHT")
    (hbody : ∀ s n, body [.string s, .integer n] =
      (characterCount n).map fun count => .string (answer s count)) :
    Conforms (.define name [.string, .integer] none .string body) := by
  intro values h
  obtain ⟨s, n, rfl⟩ := exists_of_fits_text_integer h
  rcases characterCount_cases n with ⟨count, hcount⟩ | ⟨hn, hcount⟩
  · exact .inl ⟨_, (hbody s n).trans (by rw [hcount]; rfl), rfl⟩
  · exact .inr ⟨_, (hbody s n).trans (by rw [hcount]; rfl), .length hname hn⟩

/-- `SUBSTRING` without a number of characters. -/
theorem conforms_substring :
    Conforms (.define "SUBSTRING" [.string, .integer] none .string substring) := by
  intro values h
  obtain ⟨s, p, rfl⟩ := exists_of_fits_text_integer h
  have hbody : substring [.string s, .integer p] =
      (startOf p s.toList.length).map fun start =>
        .string (String.ofList (s.toList.drop start)) := rfl
  rcases startOf_cases p s.toList.length with ⟨start, hstart⟩ | ⟨hfront, hback, hstart⟩
  · exact .inl ⟨_, hbody.trans (by rw [hstart]; rfl), rfl⟩
  · exact .inr ⟨_, hbody.trans (by rw [hstart]; rfl), .position hfront hback⟩

/-- `SUBSTRING` with a number of characters. -/
theorem conforms_substring_count :
    Conforms (.define "SUBSTRING" [.string, .integer, .integer] none .string substring) := by
  intro values h
  obtain ⟨s, _, rfl, hrest⟩ := Value.exists_of_map_kind Value.exists_eq_string (h.map_kind rfl)
  obtain ⟨p, _, rfl, hlast⟩ := Value.exists_of_map_kind Value.exists_eq_integer hrest
  obtain ⟨n, _, rfl, hnil⟩ := Value.exists_of_map_kind Value.exists_eq_integer hlast
  obtain rfl := List.map_eq_nil_iff.mp hnil
  have hbody : substring [.string s, .integer p, .integer n] =
      startOf p s.toList.length >>= fun start =>
        (characterCount n).map fun count =>
          .string (String.ofList ((s.toList.drop start).take count)) := rfl
  rcases startOf_cases p s.toList.length with ⟨start, hstart⟩ | ⟨hfront, hback, hstart⟩
  · rcases characterCount_cases n with ⟨count, hcount⟩ | ⟨hn, hcount⟩
    · exact .inl ⟨_, hbody.trans (by rw [hstart, hcount]; rfl), rfl⟩
    · exact .inr ⟨_, hbody.trans (by rw [hstart, hcount]; rfl), .lengthFrom hn⟩
  · exact .inr ⟨_, hbody.trans (by rw [hstart]; rfl), .position hfront hback⟩

/-- `INT` refuses a text that is no integer. -/
theorem conforms_toInteger : Conforms (.define "INT" [.string] none .integer toInteger) := by
  intro values h
  obtain ⟨s, rfl⟩ := exists_of_fits_text h
  have hbody : toInteger [.string s] =
      ((Value.string s).toInteger.mapError FunctionError.coercion).map Value.integer := rfl
  cases hs : Text.readInt32? s.toList with
  | some n => exact .inl ⟨.integer n, hbody.trans (by rw [Value.toInteger, hs]; rfl), rfl⟩
  | none => exact .inr ⟨_, hbody.trans (by rw [Value.toInteger, hs]; rfl), .notInteger hs⟩

/-- `BOOL` refuses a text that spells no truth value. -/
theorem conforms_toBoolean : Conforms (.define "BOOL" [.string] none .boolean toBoolean) := by
  intro values h
  obtain ⟨s, rfl⟩ := exists_of_fits_text h
  have hbody : toBoolean [.string s] =
      (readBoolean? s).elim (.error (.notBoolean s)) fun b => .ok (.boolean b) := by
    have hstring : stringAt [.string s] 0 = pure s := rfl
    simp only [toBoolean, hstring, pure_bind]
    cases readBoolean? s <;> rfl
  cases hs : readBoolean? s with
  | some b => exact .inl ⟨.boolean b, hbody.trans (by rw [hs]; rfl), rfl⟩
  | none => exact .inr ⟨_, hbody.trans (by rw [hs]; rfl), .notBoolean hs⟩

/-- **Every built-in function keeps to its declaration.** -/
theorem conforms_of_mem_all {f : Overload} (hf : f ∈ all) : Conforms f := by
  have hleft : Text.asciiUpper "LEFT" = "LEFT" := by decide
  have hright : Text.asciiUpper "RIGHT" = "RIGHT" := by decide
  have hall : ∀ f ∈ all, Conforms f := by
    simp only [all, List.forall_mem_cons]
    exact ⟨conforms_abs,
      conforms_of_text (fun s => .integer (lengthOf s)) (fun _ => rfl) fun _ => rfl,
      conforms_concat,
      conforms_concatWithSeparator,
      conforms_of_text (fun s => .string (String.ofList (Text.toLower s.toList)))
        (fun _ => rfl) fun _ => rfl,
      conforms_of_text (fun s => .string (String.ofList (Text.toUpper s.toList)))
        (fun _ => rfl) fun _ => rfl,
      conforms_of_text (fun s => .string (String.ofList (Text.trim s.toList)))
        (fun _ => rfl) fun _ => rfl,
      conforms_of_text_of_count (fun s count => String.ofList (s.toList.take count))
        (.inl hleft) fun _ _ => rfl,
      conforms_of_text_of_count
        (fun s count => String.ofList (s.toList.drop (s.toList.length - count)))
        (.inr hright) fun _ _ => rfl,
      conforms_substring,
      conforms_substring_count,
      conforms_toInteger,
      conforms_toBoolean,
      conforms_of_text .string (fun _ => rfl) fun _ => rfl,
      conforms_of_text (fun s => .boolean (Text.readInt32? s.toList).isSome)
        (fun _ => rfl) fun _ => rfl,
      conforms_of_text (fun s => .boolean (readBoolean? s).isSome) (fun _ => rfl) fun _ => rfl,
      List.forall_mem_nil _⟩
  exact hall f hf

variable {f : Overload} {values : List Value}

/-- A failure of a built-in function on values that fit it is what it refuses them with. -/
theorem refuses_of_body_eq_error (hf : f ∈ all) (hfits : f.Fits values) {e : FunctionError}
    (h : f.body values = .error e) : Refuses f.name values e := by
  rcases conforms_of_mem_all hf values hfits with ⟨v, hv, -⟩ | ⟨e', he', hrefuses⟩
  · rw [h] at hv
    cases hv
  · obtain rfl : e = e' := Except.error.inj (h.symm.trans he')
    exact hrefuses

/-- The answer of a built-in function to values that fit it is of the kind that it declares. -/
theorem kind_of_body_eq_ok (hf : f ∈ all) (hfits : f.Fits values) {v : Value}
    (h : f.body values = .ok v) : v.kind = f.returns := by
  rcases conforms_of_mem_all hf values hfits with ⟨v', hv', hkind⟩ | ⟨e, he, -⟩
  · obtain rfl : v = v' := Except.ok.inj (h.symm.trans hv')
    exact hkind
  · rw [h] at he
    cases he

/-- The answer of a built-in function to values that fit it needs no conversion. -/
theorem coerce_returns_ne_error (hf : f ∈ all) (hfits : f.Fits values) {v : Value}
    (h : f.body values = .ok v) (e : CoercionError) : v.coerce f.returns ≠ .error e := by
  intro hcoerce
  obtain ⟨w, hw⟩ := Value.exists_coerce_eq_ok (.inl (kind_of_body_eq_ok hf hfits h))
  rw [hcoerce] at hw
  cases hw

end Builtin

end EventFilter
