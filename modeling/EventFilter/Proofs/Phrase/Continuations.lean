import EventFilter.Proofs.Grammar

/-!
# Continuations

Whatever has been begun can be brought to an end: a missing expression by TRUE, a missing pattern by
the empty text, a missing name by any name, an opened parenthesis by a closing one. Here this is
said rule by rule: if the tokens of the part that was being read can be continued to that part, the
tokens of the whole so far can be continued to the whole. Calls play a part only in that the
registry has to offer them, whatever the number of their arguments will be.
Main statements: nothing can be continued to a phrase (`continuable_nil`), and the rules for each
way in which a phrase is made of others (`Continuable.chained` and those behind it).
-/

namespace EventFilter

/-! ### Spare tokens -/

namespace Spare

/-- A text with the tokens that phrases are continued with. -/
def source : Source := { id := 0, text := "TRUE '' a ( )" }

/-- What a missing expression is supplied by. -/
def truth : Lexeme := ⟨.keyword .true, source, 0, 4⟩

/-- What a missing pattern is supplied by. -/
def emptyText : Lexeme := ⟨.string "", source, 5, 7⟩

/-- What a missing name is supplied by. -/
def name : Lexeme := ⟨.identifier "a", source, 8, 9⟩

/-- What begins a list. -/
def opening : Lexeme := ⟨.symbol .leftParen, source, 10, 11⟩

/-- What ends a list. -/
def closing : Lexeme := ⟨.symbol .rightParen, source, 12, 13⟩

/-- **The tokens that phrases are continued with.** -/
def tokens : List Lexeme := [truth, emptyText, name, opening, closing]

end Spare

/-! ### Continuations -/

/-- **Tokens can be continued to a phrase** of a level. -/
def Continuable (functions : Registry) (level : Level) (before : List Lexeme) : Prop :=
  ∃ more ⊆ Spare.tokens, ∃ e, Phrase functions level (before ++ more) e

/-- Tokens can be continued to a list of phrases. -/
def ContinuableList (functions : Registry) (before : List Lexeme) : Prop :=
  ∃ more ⊆ Spare.tokens, ∃ items : List (List Lexeme × Expr), items ≠ [] ∧
    Separated (before ++ more) (items.map (·.1)) ∧ ∀ i ∈ items, Phrase functions .top i.1 i.2

/-- Tokens can be continued to a list of phrases and a closing parenthesis. -/
def ContinuableClosed (functions : Registry) (before : List Lexeme) : Prop :=
  ∃ more ⊆ Spare.tokens, ∃ us s, ∃ items : List (List Lexeme × Expr),
    before ++ more = us ++ [⟨.symbol .rightParen, s⟩] ∧ items ≠ [] ∧
    Separated us (items.map (·.1)) ∧ ∀ i ∈ items, Phrase functions .top i.1 i.2

/-- Tokens can be continued to a list of phrases in parentheses. -/
def ContinuableInParens (functions : Registry) (before : List Lexeme) : Prop :=
  ∃ more ⊆ Spare.tokens, ∃ s us s', ∃ items : List (List Lexeme × Expr),
    before ++ more = ⟨.symbol .leftParen, s⟩ :: (us ++ [⟨.symbol .rightParen, s'⟩]) ∧ items ≠ [] ∧
    Separated us (items.map (·.1)) ∧ ∀ i ∈ items, Phrase functions .top i.1 i.2

section continuations

variable {functions : Registry} {level level' : Level} {before pre us : List Lexeme} {e : Expr}
  {s : Span} {t : Lexeme} {items : List (List Lexeme × Expr)}

/-- A phrase need not be continued. -/
theorem Phrase.continuable (h : Phrase functions level before e) :
    Continuable functions level before :=
  ⟨[], List.nil_subset _, e, by rwa [List.append_nil]⟩

/-- What can be continued to a phrase can be continued to one of a looser level. -/
theorem Continuable.loosen (h : Continuable functions level before)
    (hr : level.rank ≤ level'.rank) : Continuable functions level' before := by
  obtain ⟨more, hmore, e, he⟩ := h
  exact ⟨more, hmore, e, he.loosen hr⟩

/-- **Nothing can be continued to a phrase** of any level. -/
theorem continuable_nil (functions : Registry) (level : Level) :
    Continuable functions level [] := by
  have htruth : Phrase functions .primary [Spare.truth] (.literal (.boolean true) _) := .true
  exact ⟨[Spare.truth], by simp [Spare.tokens], _, htruth.loosen (Nat.zero_le _)⟩

/-- A list in front of what can be continued to a phrase of a list, with a comma between them. -/
theorem Continuable.list (h : Continuable functions .top before) :
    ContinuableList functions before := by
  obtain ⟨more, hmore, e, he⟩ := h
  exact ⟨more, hmore, [(before ++ more, e)], List.cons_ne_nil _ _, .one _,
    List.forall_mem_singleton.mpr he⟩

/-- A phrase and a comma before what can be continued to a list. -/
theorem ContinuableList.more (hpre : Phrase functions .top pre e)
    (h : ContinuableList functions before) :
    ContinuableList functions (pre ++ ⟨.symbol .comma, s⟩ :: before) := by
  obtain ⟨more, hmore, items, hne, hus, hitems⟩ := h
  obtain ⟨i, is, rfl⟩ := List.exists_cons_of_ne_nil hne
  refine ⟨more, hmore, (pre, e) :: i :: is, List.cons_ne_nil _ _, ?_,
    List.forall_mem_cons.mpr ⟨hpre, hitems⟩⟩
  rw [List.append_assoc, List.cons_append]
  exact .more pre s hus

/-- What can be continued to a list can be continued to its end. -/
theorem ContinuableList.closed (h : ContinuableList functions before) :
    ContinuableClosed functions before := by
  obtain ⟨more, hmore, items, hne, hus, hitems⟩ := h
  have hclosing : [Spare.closing] ⊆ Spare.tokens := by simp [Spare.tokens]
  exact ⟨more ++ [Spare.closing], List.append_subset.mpr ⟨hmore, hclosing⟩, before ++ more, _,
    items, (List.append_assoc ..).symm, hne, hus, hitems⟩

/-- A list needs nothing but its end. -/
theorem continuableClosed_of_separated (hne : items ≠ []) (hus : Separated us (items.map (·.1)))
    (hitems : ∀ i ∈ items, Phrase functions .top i.1 i.2) : ContinuableClosed functions us := by
  refine ContinuableList.closed ⟨[], List.nil_subset _, items, hne, ?_, hitems⟩
  rwa [List.append_nil]

/-- A list that has been opened. -/
theorem ContinuableClosed.inParens (h : ContinuableClosed functions before) :
    ContinuableInParens functions (⟨.symbol .leftParen, s⟩ :: before) := by
  obtain ⟨more, hmore, us, s', items, heq, hne, hus, hitems⟩ := h
  exact ⟨more, hmore, s, us, s', items, congrArg (_ :: ·) heq, hne, hus, hitems⟩

/-- A list that has not been opened. -/
theorem continuableInParens_nil (functions : Registry) : ContinuableInParens functions [] := by
  have hlist := (continuable_nil functions .top).list.closed
  obtain ⟨more, hmore, us, s, items, heq, hne, hus, hitems⟩ := hlist
  rw [List.nil_append] at heq
  refine ⟨Spare.opening :: more, ?_, _, us, s, items, congrArg (_ :: ·) heq, hne, hus, hitems⟩
  exact List.cons_subset.mpr ⟨by simp [Spare.tokens], hmore⟩

/-! ### Phrases that have been begun -/

variable {left : Expr} {c : Chain} {op : BinaryOp} {name : String} {s₀ s' : Span}

/-- A chain and an operator of it lack an operand, or the rest of one. -/
theorem Continuable.chained (h : Continuable functions c.operand before)
    (hpre : Phrase functions (.chain c) pre left) (hop : c.operator? t.token = some op) :
    Continuable functions (.chain c) (pre ++ t :: before) := by
  obtain ⟨more, hmore, e, he⟩ := h
  refine ⟨more, hmore, .combine op left e, ?_⟩
  rw [List.append_assoc]
  exact .chained hpre hop he

/-- A negation lacks what it negates, or the rest of that. -/
theorem Continuable.not (h : Continuable functions .negation before) :
    Continuable functions .negation (⟨.keyword .not, s⟩ :: before) := by
  obtain ⟨more, hmore, e, he⟩ := h
  exact ⟨more, hmore, .unary .not e (s.merge e.span), .not he⟩

/-- A sum and a comparison operator lack a sum, or the rest of one. -/
theorem Continuable.compare {op : ComparisonOp} (h : Continuable functions (.chain .sum) before)
    (hpre : Phrase functions (.chain .sum) pre left)
    (hop : ComparisonOp.ofToken? t.token = some op) :
    Continuable functions .comparison (pre ++ t :: before) := by
  obtain ⟨more, hmore, e, he⟩ := h
  refine ⟨more, hmore, .combine (.comparison op) left e, ?_⟩
  rw [List.append_assoc]
  exact .compare hpre hop he

/-- The pattern without any characters. -/
def emptyPattern : Pattern := ⟨"", [], rfl⟩

/-- A sum before LIKE lacks a pattern. -/
theorem continuable_like (hpre : Phrase functions (.chain .sum) pre left) :
    Continuable functions .comparison (pre ++ [⟨.keyword .like, s⟩]) := by
  refine ⟨[Spare.emptyText], by simp [Spare.tokens],
    .like left emptyPattern (left.span.merge Spare.emptyText.span), ?_⟩
  rw [List.append_assoc]
  exact .like hpre emptyPattern.ofText_text

/-- A sum before NOT LIKE lacks a pattern. -/
theorem continuable_notLike (hpre : Phrase functions (.chain .sum) pre left) :
    Continuable functions .comparison (pre ++ [⟨.keyword .not, s₀⟩, ⟨.keyword .like, s⟩]) := by
  refine ⟨[Spare.emptyText], by simp [Spare.tokens],
    Parse.negated (.like left emptyPattern (left.span.merge Spare.emptyText.span)), ?_⟩
  rw [List.append_assoc]
  exact .notLike hpre emptyPattern.ofText_text

/-- A sum before IN lacks a list, or the rest of one. -/
theorem ContinuableInParens.among (h : ContinuableInParens functions before)
    (hpre : Phrase functions (.chain .sum) pre left) :
    Continuable functions .comparison (pre ++ ⟨.keyword .among, s⟩ :: before) := by
  obtain ⟨more, hmore, s', us, s'', items, heq, hne, hus, hitems⟩ := h
  refine ⟨more, hmore, .among left (items.map (·.2)) (left.span.merge s''), ?_⟩
  rw [List.append_assoc, List.cons_append, heq]
  exact .among hpre hne hus hitems

/-- A sum before NOT IN lacks a list, or the rest of one. -/
theorem ContinuableInParens.notAmong (h : ContinuableInParens functions before)
    (hpre : Phrase functions (.chain .sum) pre left) :
    Continuable functions .comparison
      (pre ++ ⟨.keyword .not, s₀⟩ :: ⟨.keyword .among, s⟩ :: before) := by
  obtain ⟨more, hmore, s', us, s'', items, heq, hne, hus, hitems⟩ := h
  refine ⟨more, hmore, Parse.negated (.among left (items.map (·.2)) (left.span.merge s'')), ?_⟩
  rw [List.append_assoc, List.cons_append, List.cons_append, heq]
  exact .notAmong hpre hne hus hitems

/-- A minus lacks what it negates, or the rest of that, if this does not begin with a number. -/
theorem Continuable.negate (h : Continuable functions .sign before)
    (hnumber : ∀ digits s' us, before ≠ ⟨.number digits, s'⟩ :: us) :
    Continuable functions .sign (⟨.symbol .minus, s⟩ :: before) := by
  cases before with
  | nil =>
    -- A number would take the minus for itself, TRUE does not.
    have htruth : Phrase functions .sign [Spare.truth] (.literal (.boolean true) _) :=
      .primary .true
    exact ⟨[Spare.truth], by simp [Spare.tokens], _, .negate htruth nofun⟩
  | cons t before =>
    obtain ⟨more, hmore, e, he⟩ := h
    refine ⟨more, hmore, .unary .negate e (s.merge e.span), .negate he ?_⟩
    intro digits s' us heq
    cases heq
    exact hnumber digits s' before rfl

/-- EXISTS lacks a name. -/
theorem continuable_present : Continuable functions .primary [⟨.keyword .present, s⟩] :=
  ⟨[Spare.name], by simp [Spare.tokens], .present "a" _ (s.merge _), .present⟩

/-- A call lacks arguments and their end, or the rest of these. -/
theorem ContinuableClosed.call (h : ContinuableClosed functions before)
    (hname : ∀ count, functions.Offers name count) :
    Continuable functions .primary
      (⟨.identifier name, s⟩ :: ⟨.symbol .leftParen, s'⟩ :: before) := by
  obtain ⟨more, hmore, us, s'', items, heq, -, hus, hitems⟩ := h
  refine ⟨more, hmore, .call (Text.asciiUpper name) (items.map (·.2)) (s.merge s''), ?_⟩
  rw [List.cons_append, List.cons_append, heq]
  exact .call hus hitems (Parse.checkedCall_eq_ok_iff.mpr ⟨hname _, rfl⟩)

/-- An opened parenthesis lacks an expression and its end, or the rest of these. -/
theorem Continuable.parenthesized (h : Continuable functions .top before) :
    Continuable functions .primary (⟨.symbol .leftParen, s⟩ :: before) := by
  obtain ⟨more, hmore, e, he⟩ := h
  have hclosing : [Spare.closing] ⊆ Spare.tokens := by simp [Spare.tokens]
  refine ⟨more ++ [Spare.closing], List.append_subset.mpr ⟨hmore, hclosing⟩,
    e.withSpan (s.merge Spare.closing.span), ?_⟩
  rw [List.cons_append, ← List.append_assoc]
  exact .parenthesized he

end continuations

end EventFilter
