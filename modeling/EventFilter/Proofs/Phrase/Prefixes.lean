import EventFilter.Proofs.Phrase.Continuations
import EventFilter.Proofs.Token.Spacing

/-!
# Beginnings of phrases

The parser reads from left to right and stops at the first token that cannot stand where it is. What
it has read until then is the beginning of a phrase. For each function of the parser that stops at a
token the tokens before it can be continued to a phrase of the function's own level
(`Parse.Blames`), and how they can follows from how they can in the function that it stopped in. So
the statement goes through the parser as the parser goes through the tokens, and what is pending at
the place of an error need not be said.
Main statement: the tokens before the one that a syntax error finds in place of what it expected
begin a sentence (`Source.exists_sentence_of_unexpected`).
-/

namespace EventFilter

/-- **A syntax error of the order of tokens**: something else was expected at its place. -/
def SyntaxError.OfOrder (err : SyntaxError) : Prop :=
  ∃ expected found, err.cause = .unexpected expected found

/-- If a token is a name, it can be called with any number of arguments. -/
def Lexeme.Callable (functions : Registry) (t : Lexeme) : Prop :=
  ∀ name, t.token = .identifier name → ∀ count, functions.Offers name count

/-! ### Where the parser stops -/

namespace Parse

/-- **An error blames the first token behind some tokens** with a property, or the end of the input
if there is none. -/
def Blames (ending : Span) (ts : List Lexeme) (err : SyntaxError) (P : List Lexeme → Prop) : Prop :=
  ∃ before after expected, ts = before ++ after ∧ err = unexpected ending expected after ∧ P before

section blames

variable {ending : Span} {ts : List Lexeme} {err : SyntaxError} {expected : Expected}
  {P Q : List Lexeme → Prop}

/-- An error blames the token behind some tokens. -/
theorem blames_next (pre : List Lexeme) (hP : P pre) :
    Blames ending (pre ++ ts) (unexpected ending expected ts) P :=
  ⟨pre, ts, expected, rfl, rfl, hP⟩

/-- What is known of the tokens before an error is used. -/
theorem Blames.imp (h : Blames ending ts err P)
    (himp : ∀ before after, ts = before ++ after → P before → Q before) :
    Blames ending ts err Q := by
  obtain ⟨before, after, expected, hts, herr, hP⟩ := h
  exact ⟨before, after, expected, hts, herr, himp before after hts hP⟩

/-- An error blames a token further on. -/
theorem Blames.behind (pre : List Lexeme)
    (h : Blames ending ts err fun before => P (pre ++ before)) :
    Blames ending (pre ++ ts) err P := by
  obtain ⟨before, after, expected, rfl, herr, hP⟩ := h
  exact ⟨pre ++ before, after, expected, (List.append_assoc ..).symm, herr, hP⟩

/-- An integer out of range is no matter of the order of tokens. -/
theorem not_ofOrder_of_integer {literal : String} {span : Span}
    (h : integer literal span = .error err) : ¬err.OfOrder := by
  rintro ⟨expected, found, hcause⟩
  unfold integer at h
  split at h <;> cases h
  cases hcause

/-- A call that is not offered is no matter of the order of tokens. -/
theorem not_ofOrder_of_checkedCall {functions : Registry} {name : String} {args : List Expr}
    {span : Span} (h : checkedCall functions name args span = .error err) : ¬err.OfOrder := by
  rintro ⟨expected, found, hcause⟩
  unfold checkedCall at h
  split at h
  · cases h
    cases hcause
  · split at h <;> cases h
    cases hcause

/-- If there is no closing parenthesis, the token in its place is blamed. -/
theorem eq_unexpected_of_closing (h : Parsed.plain (closing ending ts) = .error err) :
    err = unexpected ending (.symbol .rightParen) ts := by
  unfold closing at h
  split at h <;> cases h
  rfl

/-- If there is no pattern, the token in its place is blamed. -/
theorem eq_unexpected_of_likeTail {value : Expr}
    (h : Parsed.plain (likeTail ending value ts) = .error err) (herr : err.OfOrder) :
    err = unexpected ending .pattern ts := by
  obtain ⟨expected, found, hcause⟩ := herr
  unfold likeTail at h
  split at h
  · split at h <;> cases h
    cases hcause
  · cases h
    rfl

end blames

variable {functions registry : Registry} {ending : Span} {err : SyntaxError}

/-! ### What is read before an error can be continued -/

mutual

/-- **The tokens before an error can be continued** to a phrase of the level that was read. -/
theorem blames_of_read (hr : functions ≤ registry) {level : Level} {ts : List Lexeme}
    (hts : ∀ t ∈ ts, t.Callable registry) (h : read functions ending level ts = .error err)
    (herr : err.OfOrder) : Blames ending ts err (Continuable registry level) := by
  match level with
  | .chain c =>
    rw [read_chain] at h
    rcases bind_eq_error_iff.mp h with hfirst | ⟨⟨first, mid⟩, hfirst, hrest⟩
    · have hrank := c.rank_operand_lt
      exact (blames_of_read hr hts hfirst herr).imp fun _ _ _ hbefore =>
        hbefore.loosen (Nat.le_of_lt hrank)
    · have hlt := length_lt_of_read hfirst
      obtain ⟨pre, rfl, hpre⟩ := phrase_of_read hfirst
      have hmid := (List.forall_mem_append.mp hts).2
      exact (blames_of_readChain hr hmid hrest herr (.operand (hpre.mono hr))).behind pre
  | .negation =>
    rw [read_negation] at h
    split at h
    · have hus := (List.forall_mem_cons.mp hts).2
      rcases bind_eq_error_iff.mp h with hx | ⟨_, -, hx⟩
      · exact Blames.behind [_] ((blames_of_read hr hus hx herr).imp
          fun _ _ _ hbefore => hbefore.not)
      · cases hx
    · exact (blames_of_read hr hts h herr).imp fun _ _ _ hbefore => hbefore.loosen (by decide)
  | .comparison =>
    rw [read_comparison] at h
    rcases bind_eq_error_iff.mp h with hleft | ⟨⟨left, mid⟩, hleft, hrest⟩
    · exact (blames_of_read hr hts hleft herr).imp fun _ _ _ hbefore => hbefore.loosen (by decide)
    · have hlt := length_lt_of_read hleft
      obtain ⟨pre, rfl, hpre⟩ := phrase_of_read hleft
      have hmid := (List.forall_mem_append.mp hts).2
      exact (blames_of_readComparison hr hmid hrest herr (hpre.mono hr)).behind pre
  | .sign =>
    rw [read_sign] at h
    split at h
    · rcases bind_eq_error_iff.mp h with hn | ⟨_, -, hn⟩
      · exact absurd herr (not_ofOrder_of_integer hn)
      · cases hn
    · rename_i hnumber
      have hus := (List.forall_mem_cons.mp hts).2
      rcases bind_eq_error_iff.mp h with hx | ⟨_, -, hx⟩
      · refine Blames.behind [_] ((blames_of_read hr hus hx herr).imp
          fun before after heq hbefore => ?_)
        refine hbefore.negate fun digits s' us hus => ?_
        rw [hus, List.cons_append] at heq
        exact hnumber digits s' _ heq
      · cases hx
    · exact (blames_of_read hr hts h herr).imp fun _ _ _ hbefore => hbefore.loosen (by decide)
  | .primary =>
    rw [read_primary] at h
    split at h
    · rcases bind_eq_error_iff.mp h with hn | ⟨_, -, hn⟩
      · exact absurd herr (not_ofOrder_of_integer hn)
      · cases hn
    iterate 4 cases h
    · cases h
      exact blames_next [_] continuable_present
    · rename_i name s s' us
      obtain ⟨hname, hus⟩ := List.forall_mem_cons.mp hts
      have hargs := (List.forall_mem_cons.mp hus).2
      exact Blames.behind [_, _] ((blames_of_readCall hr hargs h herr).imp
        fun _ _ _ hbefore => hbefore.call (hname name rfl))
    · cases h
    · have hus := (List.forall_mem_cons.mp hts).2
      rcases bind_eq_error_iff.mp h with hx | ⟨⟨x, mid⟩, hx, hrest⟩
      · exact Blames.behind [_] ((blames_of_read hr hus hx herr).imp
          fun _ _ _ hbefore => hbefore.parenthesized)
      obtain ⟨pre, rfl, hpre⟩ := phrase_of_read hx
      rcases bind_eq_error_iff.mp hrest with hclose | ⟨_, -, hclose⟩
      · cases eq_unexpected_of_closing hclose
        exact blames_next (_ :: pre) (hpre.mono hr).continuable.parenthesized
      · cases hclose
    · cases h
      exact blames_next [] (continuable_nil registry .primary)
termination_by 10 * ts.length + level.rank
decreasing_by
  · omega
  · omega
  · subst_vars
    simp only [List.length_cons]
    omega
  · simp only [Level.rank]
    omega
  · simp only [Level.rank]
    omega
  · omega
  · subst_vars
    simp only [List.length_cons]
    omega
  · simp only [Level.rank]
    omega
  · subst_vars
    simp only [List.length_cons]
    omega
  · subst_vars
    simp only [List.length_cons, Level.top, Level.rank]
    omega

/-- The tokens behind a chain before an error. -/
theorem blames_of_readChain (hr : functions ≤ registry) {c : Chain} {left : Expr}
    {pre ts : List Lexeme} (hts : ∀ t ∈ ts, t.Callable registry)
    (h : readChain functions ending c left ts = .error err) (herr : err.OfOrder)
    (hleft : Phrase registry (.chain c) pre left) :
    Blames ending ts err fun before => Continuable registry (.chain c) (pre ++ before) := by
  rw [readChain_eq] at h
  split at h
  · cases h
  · rename_i t us
    have hus := (List.forall_mem_cons.mp hts).2
    split at h
    · cases h
    · rename_i op hop
      rcases bind_eq_error_iff.mp h with hright | ⟨⟨right, mid⟩, hright, hrest⟩
      · have hrank := c.operand.rank_le
        exact Blames.behind [_] ((blames_of_read hr hus hright herr).imp
          fun _ _ _ hbefore => hbefore.chained hleft hop)
      · have hlt := length_lt_of_read hright
        obtain ⟨vs, rfl, hvs⟩ := phrase_of_read hright
        have hmid := (List.forall_mem_append.mp hus).2
        have hmore := blames_of_readChain hr hmid hrest herr (.chained hleft hop (hvs.mono hr))
        refine Blames.behind (t :: vs) (hmore.imp fun _ _ _ hbefore => ?_)
        rwa [List.append_assoc] at hbefore
termination_by 10 * ts.length
decreasing_by
  all_goals
    subst_vars
    simp only [List.length_cons]
    omega

/-- The tokens behind a sum before an error. -/
theorem blames_of_readComparison (hr : functions ≤ registry) {left : Expr}
    {pre ts : List Lexeme} (hts : ∀ t ∈ ts, t.Callable registry)
    (h : readComparison functions ending left ts = .error err) (herr : err.OfOrder)
    (hleft : Phrase registry (.chain .sum) pre left) :
    Blames ending ts err fun before => Continuable registry .comparison (pre ++ before) := by
  rw [readComparison_eq] at h
  split at h
  · rcases bind_eq_error_iff.mp h with hlike | ⟨_, -, hlike⟩
    · cases eq_unexpected_of_likeTail hlike herr
      exact blames_next [_, _] (continuable_notLike hleft)
    · cases hlike
  · have hus := (List.forall_mem_cons.mp (List.forall_mem_cons.mp hts).2).2
    rcases bind_eq_error_iff.mp h with hamong | ⟨_, -, hamong⟩
    · exact Blames.behind [_, _] ((blames_of_readAmong hr hus hamong herr).imp
        fun _ _ _ hbefore => hbefore.notAmong hleft)
    · cases hamong
  · cases eq_unexpected_of_likeTail h herr
    exact blames_next [_] (continuable_like hleft)
  · have hus := (List.forall_mem_cons.mp hts).2
    exact Blames.behind [_] ((blames_of_readAmong hr hus h herr).imp
      fun _ _ _ hbefore => hbefore.among hleft)
  · cases h
  · rename_i t us _ _ _ _
    have hus := (List.forall_mem_cons.mp hts).2
    split at h
    · cases h
    · rename_i op hop
      rcases bind_eq_error_iff.mp h with hright | ⟨_, -, hright⟩
      · exact Blames.behind [_] ((blames_of_read hr hus hright herr).imp
          fun _ _ _ hbefore => hbefore.compare hleft hop)
      · cases hright
termination_by 10 * ts.length
decreasing_by
  all_goals
    subst_vars
    simp only [List.length_cons, Level.rank]
    omega

/-- The tokens after IN before an error. -/
theorem blames_of_readAmong (hr : functions ≤ registry) {value : Expr} {ts : List Lexeme}
    (hts : ∀ t ∈ ts, t.Callable registry)
    (h : readAmong functions ending value ts = .error err) (herr : err.OfOrder) :
    Blames ending ts err (ContinuableInParens registry) := by
  rw [readAmong_eq] at h
  split at h
  · have hus := (List.forall_mem_cons.mp hts).2
    rcases bind_eq_error_iff.mp h with hset | ⟨⟨set, mid⟩, hset, hrest⟩
    · exact Blames.behind [_] ((blames_of_readList hr hus hset herr).imp
        fun _ _ _ hbefore => hbefore.closed.inParens)
    obtain ⟨us, items, rfl, hne, hus, hitems, rfl⟩ := items_of_readList hset
    rcases bind_eq_error_iff.mp hrest with hclose | ⟨_, -, hclose⟩
    · cases eq_unexpected_of_closing hclose
      have hclosed := continuableClosed_of_separated hne hus fun i hi => (hitems i hi).mono hr
      exact blames_next (_ :: us) hclosed.inParens
    · cases hclose
  · cases h
    exact blames_next [] (continuableInParens_nil registry)
termination_by 10 * ts.length

/-- The tokens of the arguments of a call before an error. -/
theorem blames_of_readCall (hr : functions ≤ registry) {name : String} {nameSpan : Span}
    {ts : List Lexeme} (hts : ∀ t ∈ ts, t.Callable registry)
    (h : readCall functions ending name nameSpan ts = .error err) (herr : err.OfOrder) :
    Blames ending ts err (ContinuableClosed registry) := by
  rw [readCall_eq] at h
  split at h
  · rcases bind_eq_error_iff.mp h with hcall | ⟨_, -, hcall⟩
    · exact absurd herr (not_ofOrder_of_checkedCall hcall)
    · cases hcall
  · rcases bind_eq_error_iff.mp h with hargs | ⟨⟨args, mid⟩, hargs, hrest⟩
    · exact (blames_of_readList hr hts hargs herr).imp fun _ _ _ hbefore => hbefore.closed
    obtain ⟨us, items, rfl, hne, hus, hitems, rfl⟩ := items_of_readList hargs
    rcases bind_eq_error_iff.mp hrest with hclose | ⟨_, -, hcheck⟩
    · cases eq_unexpected_of_closing hclose
      have hclosed := continuableClosed_of_separated hne hus fun i hi => (hitems i hi).mono hr
      exact blames_next us hclosed
    rcases bind_eq_error_iff.mp hcheck with hcall | ⟨_, -, hcall⟩
    · exact absurd herr (not_ofOrder_of_checkedCall hcall)
    · cases hcall
termination_by 10 * ts.length + 9

/-- The tokens of a list before an error. -/
theorem blames_of_readList (hr : functions ≤ registry) {ts : List Lexeme}
    (hts : ∀ t ∈ ts, t.Callable registry)
    (h : readList functions ending ts = .error err) (herr : err.OfOrder) :
    Blames ending ts err (ContinuableList registry) := by
  rw [readList_eq] at h
  rcases bind_eq_error_iff.mp h with hfirst | ⟨⟨first, mid⟩, hfirst, hrest⟩
  · exact (blames_of_read hr hts hfirst herr).imp fun _ _ _ hbefore => hbefore.list
  have hlt := length_lt_of_read hfirst
  obtain ⟨pre, rfl, hpre⟩ := phrase_of_read hfirst
  have hmid := (List.forall_mem_append.mp hts).2
  rcases bind_eq_error_iff.mp hrest with hmore | ⟨_, -, hmore⟩
  · simp only [readListTail_eq] at hmore
    split at hmore
    · have hus := (List.forall_mem_cons.mp hmid).2
      exact .behind pre (Blames.behind [_] ((blames_of_readList hr hus hmore herr).imp
        fun _ _ _ hbefore => hbefore.more (hpre.mono hr)))
    · cases hmore
  · cases hmore
termination_by 10 * ts.length + 8
decreasing_by
  · simp only [Level.top, Level.rank]
    omega
  · subst_vars
    simp_all only [List.length_cons]
    omega

end

end Parse

/-! ### Registries that offer every call of some names -/

namespace Registry

variable {r : Registry} {name : String} {count : Nat}

/-- A function of any number of texts. -/
def anyTexts (name : String) : Overload :=
  .define name [] (some .string) .boolean fun _ => .ok (.boolean true)

/-- A registry with a function of any number of texts under each of some names. -/
def withNames (r : Registry) (names : List String) : Registry :=
  (names.map anyTexts).foldl register r

/-- Each of the names can be called with any number of arguments. -/
theorem offers_withNames {names : List String} (h : name ∈ names) :
    (r.withNames names).Offers name count := by
  have hoffers : (r.withNames names).Offers (anyTexts name).name count :=
    offers_foldl_register (List.mem_map_of_mem h) (decide_eq_true (Nat.zero_le count))
  exact offers_asciiUpper.mp hoffers

end Registry

/-- The name that a token is, if it is one. -/
def Lexeme.name? (t : Lexeme) : Option String :=
  match t.token with
  | .identifier name => some name
  | _ => none

/-- The names among some tokens can be called in a registry made for them. -/
theorem Lexeme.callable_withNames (functions : Registry) {ts : List Lexeme} :
    ∀ t ∈ ts, t.Callable (functions.withNames (ts.filterMap name?)) := by
  intro t ht name htoken count
  have hname : t.name? = some name := by rw [name?, htoken]
  exact Registry.offers_withNames (List.mem_filterMap.mpr ⟨t, ht, hname⟩)

/-! ### Sources that do not parse -/

/-- The tokens that phrases are continued with are those of a text. -/
theorem Spare.tokens_source : source.tokens = .ok tokens := by decide +kernel

/-- The tokens before one that is blamed begin a sentence, which can be written down. -/
theorem Continuable.exists_sentence {registry : Registry} {source : Source}
    {before after : List Lexeme} (h : Continuable registry .top before)
    (hts : source.tokens = .ok (before ++ after)) :
    ∃ (more : List Token) (tree : Tree),
      Derives registry .top (before.map (·.token) ++ more) tree ∧
      ∃ (sentence : Source) (ts' : List Lexeme) (e : Expr), sentence.tokens = .ok ts' ∧
        ts'.map (·.token) = before.map (·.token) ++ more ∧
        sentence.parse registry = .ok e ∧ e.tree = tree := by
  obtain ⟨more, hmore, e, he⟩ := h
  have hbefore := (List.forall_mem_append.mp (Source.readsAs_of_mem_tokens hts)).1
  have hlegible := (List.forall_mem_append.mp (Source.legible_of_tokens hts)).1
  have hreads : ∀ t ∈ before ++ more, Token.ReadsAs t.span.text.toList t.token :=
    List.forall_mem_append.mpr ⟨hbefore,
      fun t ht => Source.readsAs_of_mem_tokens Spare.tokens_source t (hmore ht)⟩
  have hderives := he.derives (List.forall_mem_append.mpr ⟨hlegible,
    fun t ht => Source.legible_of_tokens Spare.tokens_source t (hmore ht)⟩)
  obtain ⟨sentence, ts', hts', htokens⟩ := Source.exists_tokens_of_readsAs hreads
  obtain ⟨e', he', htree⟩ := Source.exists_parse_iff.mpr ⟨ts', hts', htokens ▸ hderives⟩
  rw [List.map_append] at hderives htokens
  exact ⟨more.map (·.token), e.tree, hderives, sentence, ts', e', hts', htokens, he', htree⟩

/-- **No token is blamed too late.** If a source has tokens but does not parse for their order, the
error stands at one of its tokens, or behind them all, and names what is found there; and the tokens
before that place can be continued to a sentence of the grammar, which some source consists of and
which parses with some registry. -/
theorem Source.exists_sentence_of_unexpected {functions : Registry} {source : Source}
    {ts : List Lexeme} {err : SyntaxError} (hts : source.tokens = .ok ts)
    (h : source.parse functions = .error err) (herr : err.OfOrder) :
    ∃ before after, ts = before ++ after ∧
      ((after = [] ∧ err.span = source.ending ∧
          ∃ expected : Expected,
            err.message = s!"expected {expected.describe}, found {endOfInput}") ∨
        ∃ t rest, after = t :: rest ∧ err.span = t.span ∧
          ∃ expected : Expected,
            err.message = s!"expected {expected.describe}, found {t.token.describe}") ∧
      ∃ (registry : Registry) (more : List Token) (tree : Tree),
        Derives registry .top (before.map (·.token) ++ more) tree ∧
        ∃ (sentence : Source) (ts' : List Lexeme) (e : Expr), sentence.tokens = .ok ts' ∧
          ts'.map (·.token) = before.map (·.token) ++ more ∧
          sentence.parse registry = .ok e ∧ e.tree = tree := by
  let registry := functions.withNames (ts.filterMap Lexeme.name?)
  have hr : functions ≤ registry := Registry.le_foldl_register _ _
  have hblames : Parse.Blames source.ending ts err (Continuable registry .top) := by
    rcases (parse_eq_error_iff_read hts).mp h with hread | ⟨e, t, rest, hread, rfl⟩
    · exact Parse.blames_of_read hr (Lexeme.callable_withNames functions) hread herr
    · obtain ⟨pre, rfl, hpre⟩ := Parse.phrase_of_read hread
      exact Parse.blames_next pre (hpre.mono hr).continuable
  obtain ⟨before, after, expected, rfl, rfl, hbefore⟩ := hblames
  refine ⟨before, after, rfl, ?_, registry, hbefore.exists_sentence hts⟩
  cases after with
  | nil => exact .inl ⟨rfl, rfl, expected, rfl⟩
  | cons t rest => exact .inr ⟨t, rest, rfl, rfl, expected, rfl⟩

/-- A list after IN that ends where a number is missing, among the arguments of a function that is
not known. -/
theorem Source.exists_sentence_of_unexpected_openList :
    let source : Source := ⟨0, "F(é, -2 IN (1, - ), 1)"⟩
    ∃ ts err, source.tokens = .ok ts ∧ source.parse ⟨[]⟩ = .error err ∧ err.OfOrder ∧
      err.message = "expected expression, found ')'" ∧ err.span.start = 18 ∧
      ∃ (registry : Registry) (sentence : Source) (e : Expr),
        sentence.parse registry = .ok e := by
  intro source
  have hrun : (match source.parse ⟨[]⟩ with
      | .error err => some err
      | .ok _ => none) =
        some ⟨.unexpected .expression (some (.symbol .rightParen)), source, 18, 19⟩ := by
    decide +kernel
  have hlexed : source.tokens.toOption.isSome = true := by decide +kernel
  cases hts : source.tokens with
  | error _ =>
    rw [hts] at hlexed
    cases hlexed
  | ok ts =>
    cases herr : source.parse ⟨[]⟩ with
    | ok _ =>
      rw [herr] at hrun
      cases hrun
    | error err =>
      rw [herr] at hrun
      cases hrun
      have horder : SyntaxError.OfOrder
          ⟨.unexpected .expression (some (.symbol .rightParen)), source, 18, 19⟩ := ⟨_, _, rfl⟩
      obtain ⟨_, _, -, -, registry, _, _, -, sentence, _, e, -, -, he, -⟩ :=
        Source.exists_sentence_of_unexpected hts herr horder
      exact ⟨ts, _, rfl, rfl, horder, by decide +kernel, rfl, registry, sentence, e, he⟩

end EventFilter
