import EventFilter.Proofs.Phrase
import EventFilter.Proofs.Registry.Growth

/-!
# Calls in phrases

The registry plays a part in one rule of the grammar only, that of calls, and there only through
what it offers. So phrases stay phrases when the registry offers more (`Phrase.mono`), and in the
expression of a phrase every call, however deep, is one that the registry offers
(`Phrase.resolved`).
-/

namespace EventFilter

open Parse (checkedCall negated)

/-- **A call is accepted exactly if the registry offers it**, and is kept under its name in upper
case. -/
theorem Parse.checkedCall_eq_ok_iff {functions : Registry} {name : String} {args : List Expr}
    {span : Span} {e : Expr} :
    checkedCall functions name args span = .ok e ↔
      functions.Offers name args.length ∧ e = .call (Text.asciiUpper name) args span := by
  rw [Registry.offers_iff_resolve]
  unfold checkedCall
  constructor
  · intro h
    split at h
    · cases h
    · rename_i fs hlookup
      split at h
      · cases h
      · rename_i f hselect
        cases h
        exact ⟨⟨fs, f, hlookup, hselect⟩, rfl⟩
  · rintro ⟨⟨fs, f, hlookup, hselect⟩, rfl⟩
    simp only [hlookup, hselect]

/-- **What is a phrase with one registry is one with every registry that offers more**, and stands
for the same expression. -/
theorem Phrase.mono {r r' : Registry} (hr : r ≤ r') {level : Level} {ts : List Lexeme} {e : Expr}
    (h : Phrase r level ts e) : Phrase r' level ts e := by
  induction h with
  | operand _ ih => exact .operand ih
  | chained _ hop _ ihl ihr => exact .chained ihl hop ihr
  | comparison _ ih => exact .comparison ih
  | not _ ih => exact .not ih
  | sum _ ih => exact .sum ih
  | compare _ hop _ ihl ihr => exact .compare ihl hop ihr
  | like _ hp ih => exact .like ih hp
  | notLike _ hp ih => exact .notLike ih hp
  | among _ hne hus _ ih ihitems => exact .among ih hne hus ihitems
  | notAmong _ hne hus _ ih ihitems => exact .notAmong ih hne hus ihitems
  | primary _ ih => exact .primary ih
  | negativeNumber hn => exact .negativeNumber hn
  | negate _ hnumber ih => exact .negate ih hnumber
  | number hn => exact .number hn
  | string => exact .string
  | true => exact .true
  | false => exact .false
  | present => exact .present
  | attr => exact .attr
  | call hus _ hcall ihitems =>
    obtain ⟨hoffers, he⟩ := Parse.checkedCall_eq_ok_iff.mp hcall
    exact .call hus ihitems (Parse.checkedCall_eq_ok_iff.mpr ⟨hr _ _ hoffers, he⟩)
  | parenthesized _ ih => exact .parenthesized ih

/-- **Every call in an expression is one that a registry offers.** -/
inductive Expr.Resolved (functions : Registry) : Expr → Prop
  | node {e} (offered : ∀ name args span, e = .call name args span →
      functions.Offers name args.length) (operands : ∀ c ∈ e.children, Resolved functions c) :
      Resolved functions e

namespace Expr.Resolved

variable {functions : Registry} {e l r : Expr} {set : List Expr}

/-- The calls of a node with another span are the same. -/
theorem withSpan (h : Resolved functions e) (s : Span) : Resolved functions (e.withSpan s) := by
  obtain ⟨hoffered, hoperands⟩ := h
  cases e with
  | call name args span =>
    refine ⟨?_, hoperands⟩
    rintro _ _ _ ⟨⟩
    exact hoffered name args span rfl
  | literal | attr | unary | binary | present | among | like => exact ⟨nofun, hoperands⟩

/-- A constant holds no call. -/
theorem literal {v : Value} {s : Span} : Resolved functions (.literal v s) := ⟨nofun, nofun⟩

/-- An operator adds no call to those of its operand. -/
theorem unary {op : UnaryOp} {s : Span} (h : Resolved functions e) :
    Resolved functions (.unary op e s) := by
  refine ⟨nofun, ?_⟩
  intro c hc
  obtain rfl := List.mem_singleton.mp hc
  exact h

/-- A pattern adds no call to those of the value. -/
theorem like {p : Pattern} {s : Span} (h : Resolved functions e) :
    Resolved functions (.like e p s) := by
  refine ⟨nofun, ?_⟩
  intro c hc
  obtain rfl := List.mem_singleton.mp hc
  exact h

/-- An operator adds no call to those of its two operands. -/
theorem combine {op : BinaryOp} (hl : Resolved functions l) (hr : Resolved functions r) :
    Resolved functions (.combine op l r) := by
  refine ⟨nofun, ?_⟩
  intro c hc
  rcases List.mem_cons.mp hc with rfl | hc
  · exact hl
  · obtain rfl := List.mem_singleton.mp hc
    exact hr

/-- IN adds no call to those of the value and of the list. -/
theorem among {s : Span} (h : Resolved functions e) (hset : ∀ c ∈ set, Resolved functions c) :
    Resolved functions (.among e set s) := by
  refine ⟨nofun, ?_⟩
  intro c hc
  rcases List.mem_cons.mp hc with rfl | hc
  · exact h
  · exact hset c hc

end Expr.Resolved

/-- An integer literal is a constant. -/
theorem Parse.integer_eq_ok_iff {text : String} {span : Span} {e : Expr} :
    Parse.integer text span = .ok e ↔
      ∃ n, Text.readInt32? text.toList = some n ∧ e = .literal (.integer n) span := by
  unfold integer
  constructor
  · intro h
    split at h
    · rename_i n hn
      cases h
      exact ⟨n, hn, rfl⟩
    · cases h
  · rintro ⟨n, hn, rfl⟩
    simp only [hn]

/-- **The calls of a phrase are offered** by the registry that the phrase was made with. -/
theorem Phrase.resolved {functions : Registry} {level : Level} {ts : List Lexeme} {e : Expr}
    (h : Phrase functions level ts e) : e.Resolved functions := by
  have hlist {items : List (List Lexeme × Expr)}
      (hitems : ∀ i ∈ items, i.2.Resolved functions) :
      ∀ c ∈ items.map (·.2), c.Resolved functions := by
    intro c hc
    obtain ⟨i, hi, rfl⟩ := List.mem_map.mp hc
    exact hitems i hi
  induction h with
  | operand _ ih | comparison _ ih | sum _ ih | primary _ ih => exact ih
  | chained _ _ _ ihl ihr | compare _ _ _ ihl ihr => exact .combine ihl ihr
  | not _ ih | negate _ _ ih => exact .unary ih
  | like _ _ ih => exact .like ih
  | notLike _ _ ih => exact .unary (.like ih)
  | among _ _ _ _ ih ihitems => exact .among ih (hlist ihitems)
  | notAmong _ _ _ _ ih ihitems => exact .unary (.among ih (hlist ihitems))
  | negativeNumber hn | number hn =>
    obtain ⟨n, -, rfl⟩ := Parse.integer_eq_ok_iff.mp hn
    exact .literal
  | string | true | false => exact .literal
  | present | attr => exact ⟨nofun, nofun⟩
  | call _ _ hcall ihitems =>
    obtain ⟨hoffers, rfl⟩ := Parse.checkedCall_eq_ok_iff.mp hcall
    refine ⟨?_, hlist ihitems⟩
    rintro _ _ _ ⟨⟩
    exact Registry.offers_asciiUpper.mpr hoffers
  | parenthesized _ ih => exact ih.withSpan _

end EventFilter
