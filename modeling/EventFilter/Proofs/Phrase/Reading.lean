import EventFilter.Expr.Parse

/-!
# The parser without its bounds

Every function of the parser returns what it read together with the tokens it leaves and the proof
that these are fewer. The proof is there for the sake of recursion only. Here each function is given
once more as a function to the expression and the tokens left (`Parse.read` and its companions), and
one equation for each says what it does. These equations hold for successes and errors alike, and
nothing after this module looks at how the parser recurses.
Main statement: a source parses to an expression if its tokens are read as that expression and none
is left (`Source.parse_eq_ok_iff_read`).
-/

namespace EventFilter

namespace Parsed

variable {ε τ α : Type} {n : Nat}

/-- What was read and what is left, without the bound. -/
def plain (x : Except ε (Parsed τ α n)) : Except ε (α × List τ) := x.map fun p => (p.value, p.rest)

@[simp] theorem plain_ok (p : Parsed τ α n) :
    plain (.ok p : Except ε (Parsed τ α n)) = .ok (p.value, p.rest) := rfl

@[simp] theorem plain_error (e : ε) : plain (.error e : Except ε (Parsed τ α n)) = .error e := rfl

/-- What is left is shorter than the bound. -/
theorem length_lt_of_plain {x : Except ε (Parsed τ α n)} {a : α} {rest : List τ}
    (h : plain x = .ok (a, rest)) : rest.length < n := by
  cases x with
  | error e => cases h
  | ok p =>
    cases h
    exact p.shorter

end Parsed

namespace Parse

open Parsed (plain)

variable (functions : Registry) (ending : Span)

/-! ### The functions of the parser -/

/-- **Reading a phrase of a level** off the front of a list of tokens. -/
def read (level : Level) (ts : List Lexeme) : Except SyntaxError (Expr × List Lexeme) :=
  plain (phrase functions ending level ts)

/-- Reading on in a chain. -/
def readChain (c : Chain) (left : Expr) (ts : List Lexeme) :
    Except SyntaxError (Expr × List Lexeme) :=
  plain (chainTail functions ending c left ts)

/-- Reading what may follow a sum. -/
def readComparison (left : Expr) (ts : List Lexeme) : Except SyntaxError (Expr × List Lexeme) :=
  plain (comparisonTail functions ending left ts)

/-- Reading the list after IN. -/
def readAmong (value : Expr) (ts : List Lexeme) : Except SyntaxError (Expr × List Lexeme) :=
  plain (amongTail functions ending value ts)

/-- Reading the arguments of a call. -/
def readCall (name : String) (nameSpan : Span) (ts : List Lexeme) :
    Except SyntaxError (Expr × List Lexeme) :=
  plain (callTail functions ending name nameSpan ts)

/-- Reading expressions with commas between them. -/
def readList (ts : List Lexeme) : Except SyntaxError (List Expr × List Lexeme) :=
  plain (phrases functions ending ts)

/-- Reading further expressions, each behind a comma. -/
def readListTail (ts : List Lexeme) : Except SyntaxError (List Expr × List Lexeme) :=
  plain (phrasesTail functions ending ts)

variable {functions : Registry} {ending : Span}

/-- A phrase takes at least one token. -/
theorem length_lt_of_read {level : Level} {ts rest : List Lexeme} {e : Expr}
    (h : read functions ending level ts = .ok (e, rest)) : rest.length < ts.length :=
  Parsed.length_lt_of_plain h

/-- A closing parenthesis is read if it is the next token. -/
theorem plain_closing_eq_ok_iff {ts rest : List Lexeme} {s : Span} :
    plain (closing ending ts) = .ok (s, rest) ↔ ts = ⟨.symbol .rightParen, s⟩ :: rest := by
  unfold closing
  constructor
  · intro h
    split at h
    · cases h
      rfl
    · cases h
  · rintro rfl
    rfl

/-- A pattern is read if the next token is a string literal that is a valid pattern. -/
theorem plain_likeTail_eq_ok_iff {value e : Expr} {ts rest : List Lexeme} :
    plain (likeTail ending value ts) = .ok (e, rest) ↔ ∃ text span p,
      ts = ⟨.string text, span⟩ :: rest ∧ Pattern.ofText text = .ok p ∧
        e = .like value p (value.span.merge span) := by
  unfold likeTail
  constructor
  · intro h
    split at h
    · split at h
      · cases h
        exact ⟨_, _, _, rfl, ‹_›, rfl⟩
      · cases h
    · cases h
  · rintro ⟨text, span, p, rfl, hp, rfl⟩
    simp only [hp, Parsed.plain_ok]

/-! ### What they do -/

/-- A chain begins with one operand. -/
theorem read_chain (c : Chain) (ts : List Lexeme) :
    read functions ending (.chain c) ts =
      read functions ending c.operand ts >>= fun first =>
        readChain functions ending c first.1 first.2 := by
  unfold read readChain
  rw [phrase.eq_def]
  simp only
  cases phrase functions ending c.operand ts with
  | error e => rfl
  | ok first =>
    simp only [bind, Except.bind, Parsed.plain_ok]
    cases chainTail functions ending c first.value first.rest <;> rfl

/-- A negation is read for each NOT. -/
theorem read_negation (ts : List Lexeme) :
    read functions ending .negation ts =
      match ts with
      | ⟨.keyword .not, span⟩ :: ts =>
        read functions ending .negation ts >>= fun x =>
          .ok (.unary .not x.1 (span.merge x.1.span), x.2)
      | ts => read functions ending .comparison ts := by
  unfold read
  rw [phrase.eq_def]
  simp only
  split
  · rename_i rest
    simp only [bind, Except.bind]
    cases phrase functions ending .negation rest <;> rfl
  · simp only [*]

/-- A comparison begins with a sum. -/
theorem read_comparison (ts : List Lexeme) :
    read functions ending .comparison ts =
      read functions ending (.chain .sum) ts >>= fun left =>
        readComparison functions ending left.1 left.2 := by
  unfold read readComparison
  rw [phrase.eq_def]
  simp only
  cases phrase functions ending (.chain .sum) ts with
  | error e => rfl
  | ok left =>
    simp only [bind, Except.bind, Parsed.plain_ok]
    cases comparisonTail functions ending left.value left.rest <;> rfl

/-- A minus before a number belongs to the number, and any other one negates a phrase. -/
theorem read_sign (ts : List Lexeme) :
    read functions ending .sign ts =
      match ts with
      | ⟨.symbol .minus, span⟩ :: ⟨.number digits, span'⟩ :: rest =>
        integer ("-" ++ digits) (span.merge span') >>= fun e => .ok (e, rest)
      | ⟨.symbol .minus, span⟩ :: ts =>
        read functions ending .sign ts >>= fun x =>
          .ok (.unary .negate x.1 (span.merge x.1.span), x.2)
      | ts => read functions ending .primary ts := by
  unfold read
  rw [phrase.eq_def]
  simp only
  split
  · simp only [bind, Except.bind]
    cases integer _ _ <;> rfl
  · rename_i rest _
    simp only [*, bind, Except.bind]
    cases phrase functions ending .sign rest <;> rfl
  · simp only [*]

/-- The first token of a primary phrase decides what is read. -/
theorem read_primary (ts : List Lexeme) :
    read functions ending .primary ts =
      match ts with
      | ⟨.number digits, span⟩ :: rest => integer digits span >>= fun e => .ok (e, rest)
      | ⟨.string text, span⟩ :: rest => .ok (.literal (.string text) span, rest)
      | ⟨.keyword .true, span⟩ :: rest => .ok (.literal (.boolean true) span, rest)
      | ⟨.keyword .false, span⟩ :: rest => .ok (.literal (.boolean false) span, rest)
      | ⟨.keyword .present, span⟩ :: ⟨.identifier name, span'⟩ :: rest =>
        .ok (.present name span' (span.merge span'), rest)
      | ⟨.keyword .present, _⟩ :: rest => .error (unexpected ending .identifier rest)
      | ⟨.identifier name, span⟩ :: ⟨.symbol .leftParen, _⟩ :: rest =>
        readCall functions ending name span rest
      | ⟨.identifier name, span⟩ :: rest => .ok (.attr name span, rest)
      | ⟨.symbol .leftParen, span⟩ :: rest =>
        read functions ending .top rest >>= fun x =>
          plain (closing ending x.2) >>= fun close =>
            .ok (x.1.withSpan (span.merge close.1), close.2)
      | ts => .error (unexpected ending .expression ts) := by
  unfold read readCall
  rw [phrase.eq_def]
  simp only
  split
  · simp only [bind, Except.bind]
    cases integer _ _ <;> rfl
  · rfl
  · rfl
  · rfl
  · rfl
  · simp only [*, Parsed.plain_error]
  · rename_i rest
    simp only [bind, Except.bind]
    cases callTail functions ending _ _ rest <;> rfl
  · simp only [*, Parsed.plain_ok]
  · rename_i rest
    simp only [bind, Except.bind]
    cases phrase functions ending .top rest with
    | error e => rfl
    | ok x =>
      simp only [Parsed.plain_ok]
      cases closing ending x.rest <;> rfl
  · simp only [*, Parsed.plain_error]

/-- A chain goes on with each operator of its level. -/
theorem readChain_eq (c : Chain) (left : Expr) (ts : List Lexeme) :
    readChain functions ending c left ts =
      match ts with
      | [] => .ok (left, [])
      | t :: ts =>
        match c.operator? t.token with
        | none => .ok (left, t :: ts)
        | some op =>
          read functions ending c.operand ts >>= fun right =>
            readChain functions ending c (.combine op left right.1) right.2 := by
  unfold readChain read
  rw [chainTail.eq_def]
  split
  · rfl
  · rename_i t ts
    simp only [bind, Except.bind]
    cases c.operator? t.token with
    | none => rfl
    | some op =>
      simp only
      cases phrase functions ending c.operand ts with
      | error e => rfl
      | ok right =>
        simp only [Parsed.plain_ok]
        cases chainTail functions ending c (.combine op left right.value) right.rest <;> rfl

/-- A sum may be followed by a test or by a comparison with another one. -/
theorem readComparison_eq (left : Expr) (ts : List Lexeme) :
    readComparison functions ending left ts =
      match ts with
      | ⟨.keyword .not, _⟩ :: ⟨.keyword .like, _⟩ :: ts =>
        plain (likeTail ending left ts) >>= fun e => .ok (negated e.1, e.2)
      | ⟨.keyword .not, _⟩ :: ⟨.keyword .among, _⟩ :: ts =>
        readAmong functions ending left ts >>= fun e => .ok (negated e.1, e.2)
      | ⟨.keyword .like, _⟩ :: ts => plain (likeTail ending left ts)
      | ⟨.keyword .among, _⟩ :: ts => readAmong functions ending left ts
      | [] => .ok (left, [])
      | t :: ts =>
        match ComparisonOp.ofToken? t.token with
        | none => .ok (left, t :: ts)
        | some op =>
          read functions ending (.chain .sum) ts >>= fun right =>
            .ok (.combine (.comparison op) left right.1, right.2) := by
  unfold readComparison read readAmong
  rw [comparisonTail.eq_def]
  split
  · simp only [bind, Except.bind]
    cases likeTail ending left _ <;> rfl
  · simp only [bind, Except.bind]
    cases amongTail functions ending left _ <;> rfl
  · simp only [bind, Except.bind]
    cases likeTail ending left _ <;> rfl
  · simp only [bind, Except.bind]
    cases amongTail functions ending left _ <;> rfl
  · rfl
  · rename_i t ts _ _ _ _
    simp only [*, bind, Except.bind]
    cases ComparisonOp.ofToken? t.token with
    | none => rfl
    | some op =>
      simp only
      cases phrase functions ending (.chain .sum) ts <;> rfl

/-- The list after IN stands in parentheses. -/
theorem readAmong_eq (value : Expr) (ts : List Lexeme) :
    readAmong functions ending value ts =
      match ts with
      | ⟨.symbol .leftParen, _⟩ :: ts =>
        readList functions ending ts >>= fun set =>
          plain (closing ending set.2) >>= fun close =>
            .ok (.among value set.1 (value.span.merge close.1), close.2)
      | ts => .error (unexpected ending (.symbol .leftParen) ts) := by
  unfold readAmong readList
  rw [amongTail.eq_def]
  split
  · rename_i rest
    simp only [bind, Except.bind]
    cases phrases functions ending rest with
    | error e => rfl
    | ok set =>
      simp only [Parsed.plain_ok]
      cases closing ending set.rest <;> rfl
  · simp only [*, Parsed.plain_error]

/-- A call is checked when its closing parenthesis has been read. -/
theorem readCall_eq (name : String) (nameSpan : Span) (ts : List Lexeme) :
    readCall functions ending name nameSpan ts =
      match ts with
      | ⟨.symbol .rightParen, span⟩ :: rest =>
        checkedCall functions name [] (nameSpan.merge span) >>= fun e => .ok (e, rest)
      | ts =>
        readList functions ending ts >>= fun args =>
          plain (closing ending args.2) >>= fun close =>
            checkedCall functions name args.1 (nameSpan.merge close.1) >>= fun e =>
              .ok (e, close.2) := by
  unfold readCall readList
  rw [callTail.eq_def]
  split
  · simp only [bind, Except.bind]
    cases checkedCall functions name [] _ <;> rfl
  · simp only [*, bind, Except.bind]
    cases phrases functions ending ts with
    | error e => rfl
    | ok args =>
      simp only [Parsed.plain_ok]
      cases closing ending args.rest with
      | error e => rfl
      | ok close =>
        simp only [Parsed.plain_ok]
        cases checkedCall functions name args.value _ <;> rfl

/-- A list has a first expression. -/
theorem readList_eq (ts : List Lexeme) :
    readList functions ending ts =
      read functions ending .top ts >>= fun first =>
        readListTail functions ending first.2 >>= fun more =>
          .ok (first.1 :: more.1, more.2) := by
  unfold readList read readListTail
  rw [phrases.eq_def]
  cases phrase functions ending .top ts with
  | error e => rfl
  | ok first =>
    simp only [bind, Except.bind, Parsed.plain_ok]
    cases phrasesTail functions ending first.rest <;> rfl

/-- A list goes on with each comma. -/
theorem readListTail_eq (ts : List Lexeme) :
    readListTail functions ending ts =
      match ts with
      | ⟨.symbol .comma, _⟩ :: ts => readList functions ending ts
      | ts => .ok ([], ts) := by
  unfold readListTail readList
  rw [phrasesTail.eq_def]
  split
  · rename_i rest
    simp only [bind, Except.bind]
    cases phrases functions ending rest <;> rfl
  · simp only [*, Parsed.plain_ok]

end Parse

/-- **A source parses** to the expression that all of its tokens are read as. -/
theorem Source.parse_eq_ok_iff_read {functions : Registry} {source : Source} {e : Expr} :
    source.parse functions = .ok e ↔
      ∃ ts, source.tokens = .ok ts ∧
        Parse.read functions source.ending .top ts = .ok (e, []) := by
  unfold Source.parse Parse.read
  simp only [bind_eq_ok_iff]
  constructor
  · rintro ⟨ts, hts, whole, hw, h⟩
    refine ⟨ts, hts, ?_⟩
    rw [hw, Parsed.plain_ok]
    split at h
    · rename_i hrest
      cases h
      rw [hrest]
    · cases h
  · rintro ⟨ts, hts, h⟩
    cases hw : Parse.phrase functions source.ending .top ts with
    | error err => rw [hw] at h; cases h
    | ok whole =>
      rw [hw, Parsed.plain_ok] at h
      simp only [Except.ok.injEq, Prod.mk.injEq] at h
      refine ⟨ts, hts, whole, hw, ?_⟩
      rw [h.2, ← h.1]
      rfl

/-- **Parsing fails** where the parser stops, or at the first token behind an expression. -/
theorem Source.parse_eq_error_iff_read {functions : Registry} {source : Source}
    {ts : List Lexeme} {err : SyntaxError} (hts : source.tokens = .ok ts) :
    source.parse functions = .error err ↔
      Parse.read functions source.ending .top ts = .error err ∨
      ∃ e t rest, Parse.read functions source.ending .top ts = .ok (e, t :: rest) ∧
        err = Parse.unexpected source.ending .endOfInput (t :: rest) := by
  unfold Source.parse Parse.read
  rw [hts]
  cases hw : Parse.phrase functions source.ending .top ts with
  | error e => simp [bind, Except.bind, hw]
  | ok whole =>
    simp only [bind, Except.bind, hw, Parsed.plain_ok, reduceCtorEq, Except.ok.injEq,
      Prod.mk.injEq, false_or]
    cases hrest : whole.rest with
    | nil => simp [pure, Except.pure]
    | cons t rest =>
      constructor
      · rintro ⟨⟩
        exact ⟨_, t, rest, ⟨rfl, rfl⟩, rfl⟩
      · rintro ⟨e, t', rest', ⟨-, heq⟩, rfl⟩
        cases heq
        rfl

end EventFilter
