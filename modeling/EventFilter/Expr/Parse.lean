import EventFilter.Expr.Build
import EventFilter.Parsed
import EventFilter.Registry
import EventFilter.Token.Scan

/-!
# From tokens to expressions

The grammar of the filter language has a level for each strength with which operators bind
(`Level`). At four of them operators of equal strength are chained from the left (`Chain`), and one
function serves all four. Every function of the parser hands back the tokens that it leaves together
with the proof that they are fewer (`Parsed`), so that reading ends because the tokens do, or the
level gets tighter.

Parentheses leave no node of their own: they widen the span of the node inside. A minus directly
before a number belongs to the number, so that the smallest integer can be written. A call is
checked against the registry as soon as its closing parenthesis has been read. An error blames the
first token that cannot stand where it is, or the empty place behind the last token.
-/

namespace EventFilter

/-- The levels at which operators are chained from the left. -/
inductive Chain
  | disjunction
  | conjunction
  | sum
  | product
  deriving DecidableEq, Inhabited

/-- **The levels of the grammar**, from the loosest phrases to the tightest. -/
inductive Level
  | chain (c : Chain)
  | negation
  | comparison
  | sign
  | primary
  deriving DecidableEq, Inhabited

/-- The loosest level: any expression. -/
def Level.top : Level := .chain .disjunction

/-- The level of the operands of a chain. -/
def Chain.operand : Chain → Level
  | .disjunction => .chain .conjunction
  | .conjunction => .negation
  | .sum => .chain .product
  | .product => .sign

/-- How many levels are tighter. -/
def Level.rank : Level → Nat
  | .chain .disjunction => 7
  | .chain .conjunction => 6
  | .negation => 5
  | .comparison => 4
  | .chain .sum => 3
  | .chain .product => 2
  | .sign => 1
  | .primary => 0

/-- The operands of a chain are tighter than the chain. -/
theorem Chain.rank_operand_lt (c : Chain) : c.operand.rank < (Level.chain c).rank := by
  cases c <;> decide

/-- There are seven levels below the loosest. -/
theorem Level.rank_le (level : Level) : level.rank ≤ 7 := by
  rcases level with c | _ | _ | _ | _
  · cases c <;> decide
  all_goals decide

/-- The operator that a token is in a chain. -/
def Chain.operator? : Chain → Token → Option BinaryOp
  | .disjunction, .keyword .or => some (.logical .or)
  | .disjunction, .keyword .xor => some (.logical .xor)
  | .conjunction, .keyword .and => some (.logical .and)
  | .sum, .symbol .plus => some (.arithmetic .add)
  | .sum, .symbol .minus => some (.arithmetic .sub)
  | .product, .symbol .star => some (.arithmetic .mul)
  | .product, .symbol .slash => some (.arithmetic .div)
  | .product, .symbol .percent => some (.arithmetic .mod)
  | _, _ => none

/-- The comparison operator that a token is. -/
def ComparisonOp.ofToken? : Token → Option ComparisonOp
  | .symbol .equal => some .eq
  | .symbol .notEqual => some .ne
  | .symbol .less => some .lt
  | .symbol .lessEqual => some .le
  | .symbol .greater => some .gt
  | .symbol .greaterEqual => some .ge
  | _ => none

namespace Parse

/-- The error that the next token, or the end of the input, cannot stand where it is. -/
def unexpected (ending : Span) (expected : Expected) : List Lexeme → SyntaxError
  | [] => ⟨.unexpected expected none, ending⟩
  | t :: _ => ⟨.unexpected expected (some t.token), t.span⟩

/-- A closing parenthesis, of which only the span matters. -/
def closing (ending : Span) (ts : List Lexeme) : Except SyntaxError (Parsed Lexeme Span ts.length) :=
  match ts with
  | ⟨.symbol .rightParen, span⟩ :: rest => .ok ⟨span, rest, Nat.lt_succ_self _⟩
  | ts => .error (unexpected ending (.symbol .rightParen) ts)

/-- The constant that an integer literal denotes. -/
def integer (literal : String) (span : Span) : Except SyntaxError Expr :=
  match Text.readInt32? literal.toList with
  | some n => .ok (.literal (.integer n) span)
  | none => .error ⟨.integerOutOfRange literal, span⟩

/-- The pattern after LIKE. -/
def likeTail (ending : Span) (value : Expr) (ts : List Lexeme) :
    Except SyntaxError (Parsed Lexeme Expr ts.length) :=
  match ts with
  | ⟨.string text, span⟩ :: rest =>
    match Pattern.ofText text with
    | .ok pattern => .ok ⟨.like value pattern (value.span.merge span), rest, Nat.lt_succ_self _⟩
    | .error e => .error ⟨.invalidPattern e, span⟩
  | ts => .error (unexpected ending .pattern ts)

/-- The call of a function, if there is an overload for its number of arguments. -/
def checkedCall (functions : Registry) (name : String) (args : List Expr) (span : Span) :
    Except SyntaxError Expr :=
  match functions.lookup name with
  | none => .error ⟨.unknownFunction name, span⟩
  | some fs =>
    match Registry.select fs args.length with
    | none => .error ⟨.noOverload name args.length, span⟩
    | some _ => .ok (.call (Text.asciiUpper name) args span)

/-- What the infix form with NOT denotes. -/
def negated (e : Expr) : Expr := .unary .not e e.span

mutual

/-- **A phrase of a level.** -/
def phrase (functions : Registry) (ending : Span) (level : Level) (ts : List Lexeme) :
    Except SyntaxError (Parsed Lexeme Expr ts.length) :=
  match level with
  | .chain c => do
    let first ← phrase functions ending c.operand ts
    let whole ← chainTail functions ending c first.value first.rest
    return whole.widen first.shorter
  | .negation =>
    match ts with
    | ⟨.keyword .not, span⟩ :: rest => do
      let x ← phrase functions ending .negation rest
      return ⟨.unary .not x.value (span.merge x.value.span), x.rest,
        Nat.lt_succ_of_lt x.shorter⟩
    | ts => phrase functions ending .comparison ts
  | .comparison => do
    let left ← phrase functions ending (.chain .sum) ts
    let whole ← comparisonTail functions ending left.value left.rest
    return whole.widen left.shorter
  | .sign =>
    match ts with
    | ⟨.symbol .minus, span⟩ :: ⟨.number digits, span'⟩ :: rest => do
      let e ← integer ("-" ++ digits) (span.merge span')
      return ⟨e, rest, by simp only [List.length_cons]; omega⟩
    | ⟨.symbol .minus, span⟩ :: rest => do
      let x ← phrase functions ending .sign rest
      return ⟨.unary .negate x.value (span.merge x.value.span), x.rest,
        Nat.lt_succ_of_lt x.shorter⟩
    | ts => phrase functions ending .primary ts
  | .primary =>
    match ts with
    | ⟨.number digits, span⟩ :: rest => do
      let e ← integer digits span
      return ⟨e, rest, Nat.lt_succ_self _⟩
    | ⟨.string text, span⟩ :: rest => .ok ⟨.literal (.string text) span, rest, Nat.lt_succ_self _⟩
    | ⟨.keyword .true, span⟩ :: rest => .ok ⟨.literal (.boolean true) span, rest, Nat.lt_succ_self _⟩
    | ⟨.keyword .false, span⟩ :: rest => .ok ⟨.literal (.boolean false) span, rest, Nat.lt_succ_self _⟩
    | ⟨.keyword .present, span⟩ :: ⟨.identifier name, span'⟩ :: rest =>
      .ok ⟨.present name span' (span.merge span'), rest, by simp only [List.length_cons]; omega⟩
    | ⟨.keyword .present, _⟩ :: rest => .error (unexpected ending .identifier rest)
    | ⟨.identifier name, span⟩ :: ⟨.symbol .leftParen, _⟩ :: rest => do
      let call ← callTail functions ending name span rest
      return call.widen (by simp only [List.length_cons]; omega)
    | ⟨.identifier name, span⟩ :: rest => .ok ⟨.attr name span, rest, Nat.lt_succ_self _⟩
    | ⟨.symbol .leftParen, span⟩ :: rest => do
      let x ← phrase functions ending .top rest
      let close ← closing ending x.rest
      return ⟨x.value.withSpan (span.merge close.value), close.rest,
        Nat.lt_succ_of_lt (Nat.lt_trans close.shorter x.shorter)⟩
    | ts => .error (unexpected ending .expression ts)
termination_by 10 * ts.length + level.rank
decreasing_by
  · exact Nat.add_lt_add_left c.rank_operand_lt _
  · have := first.shorter
    omega
  · simp only [List.length_cons]
    omega
  · simp only [Level.rank]
    omega
  · simp only [Level.rank]
    omega
  · have := left.shorter
    simp only [Level.rank]
    omega
  · simp only [List.length_cons]
    omega
  · simp only [Level.rank]
    omega
  · simp only [List.length_cons]
    omega
  · simp only [List.length_cons, Level.top, Level.rank]
    omega

/-- The rest of a chain behind its first operands. -/
def chainTail (functions : Registry) (ending : Span) (c : Chain) (left : Expr)
    (ts : List Lexeme) : Except SyntaxError (Parsed Lexeme Expr (ts.length + 1)) :=
  match ts with
  | [] => .ok ⟨left, [], Nat.lt_succ_self _⟩
  | t :: rest =>
    match c.operator? t.token with
    | none => .ok ⟨left, t :: rest, Nat.lt_succ_self _⟩
    | some op => do
      let right ← phrase functions ending c.operand rest
      let whole ← chainTail functions ending c (.combine op left right.value) right.rest
      return whole.widen (by have := right.shorter; simp only [List.length_cons]; omega)
termination_by 10 * ts.length
decreasing_by
  · have := c.operand.rank_le
    simp only [List.length_cons]
    omega
  · have := right.shorter
    simp only [List.length_cons]
    omega

/-- What may follow a sum: a comparison, LIKE, IN, their negations, or nothing. -/
def comparisonTail (functions : Registry) (ending : Span) (left : Expr) (ts : List Lexeme) :
    Except SyntaxError (Parsed Lexeme Expr (ts.length + 1)) :=
  match ts with
  | ⟨.keyword .not, _⟩ :: ⟨.keyword .like, _⟩ :: rest => do
    let e ← likeTail ending left rest
    return ⟨negated e.value, e.rest, by have := e.shorter; simp only [List.length_cons]; omega⟩
  | ⟨.keyword .not, _⟩ :: ⟨.keyword .among, _⟩ :: rest => do
    let e ← amongTail functions ending left rest
    return ⟨negated e.value, e.rest, by have := e.shorter; simp only [List.length_cons]; omega⟩
  | ⟨.keyword .like, _⟩ :: rest => do
    let e ← likeTail ending left rest
    return e.widen (by simp only [List.length_cons]; omega)
  | ⟨.keyword .among, _⟩ :: rest => do
    let e ← amongTail functions ending left rest
    return e.widen (by simp only [List.length_cons]; omega)
  | [] => .ok ⟨left, [], Nat.lt_succ_self _⟩
  | t :: rest =>
    match ComparisonOp.ofToken? t.token with
    | none => .ok ⟨left, t :: rest, Nat.lt_succ_self _⟩
    | some op => do
      let right ← phrase functions ending (.chain .sum) rest
      return ⟨.combine (.comparison op) left right.value, right.rest,
        by have := right.shorter; simp only [List.length_cons]; omega⟩
termination_by 10 * ts.length
decreasing_by
  all_goals
    simp only [List.length_cons, Level.rank]
    omega

/-- The list after IN. -/
def amongTail (functions : Registry) (ending : Span) (value : Expr) (ts : List Lexeme) :
    Except SyntaxError (Parsed Lexeme Expr ts.length) :=
  match ts with
  | ⟨.symbol .leftParen, _⟩ :: rest => do
    let set ← phrases functions ending rest
    let close ← closing ending set.rest
    return ⟨.among value set.value (value.span.merge close.value), close.rest,
      Nat.lt_succ_of_lt (Nat.lt_trans close.shorter set.shorter)⟩
  | ts => .error (unexpected ending (.symbol .leftParen) ts)
termination_by 10 * ts.length
decreasing_by
  simp only [List.length_cons]
  omega

/-- The arguments of a call behind its opening parenthesis. -/
def callTail (functions : Registry) (ending : Span) (name : String) (nameSpan : Span)
    (ts : List Lexeme) : Except SyntaxError (Parsed Lexeme Expr ts.length) :=
  match ts with
  | ⟨.symbol .rightParen, span⟩ :: rest => do
    let e ← checkedCall functions name [] (nameSpan.merge span)
    return ⟨e, rest, Nat.lt_succ_self _⟩
  | ts => do
    let args ← phrases functions ending ts
    let close ← closing ending args.rest
    let e ← checkedCall functions name args.value (nameSpan.merge close.value)
    return ⟨e, close.rest, Nat.lt_trans close.shorter args.shorter⟩
termination_by 10 * ts.length + 9
decreasing_by
  omega

/-- One or more expressions with commas between them. -/
def phrases (functions : Registry) (ending : Span) (ts : List Lexeme) :
    Except SyntaxError (Parsed Lexeme (List Expr) ts.length) := do
  let first ← phrase functions ending .top ts
  let more ← phrasesTail functions ending first.rest
  return ⟨first.value :: more.value, more.rest,
    Nat.lt_of_lt_of_le more.shorter first.shorter⟩
termination_by 10 * ts.length + 8
decreasing_by
  · simp only [Level.top, Level.rank]
    omega
  · have := first.shorter
    omega

/-- The expressions that follow the first one of a list, each behind a comma. -/
def phrasesTail (functions : Registry) (ending : Span) (ts : List Lexeme) :
    Except SyntaxError (Parsed Lexeme (List Expr) (ts.length + 1)) :=
  match ts with
  | ⟨.symbol .comma, _⟩ :: rest => do
    let more ← phrases functions ending rest
    return more.widen (by simp only [List.length_cons]; omega)
  | ts => .ok ⟨[], ts, Nat.lt_succ_self _⟩
termination_by 10 * ts.length
decreasing_by
  simp only [List.length_cons]
  omega

end

end Parse

/-- **The expression that a source is.** -/
def Source.parse (functions : Registry) (source : Source) : Except SyntaxError Expr := do
  let ts ← source.tokens
  let whole ← Parse.phrase functions source.ending .top ts
  match whole.rest with
  | [] => return whole.value
  | rest => throw (Parse.unexpected source.ending .endOfInput rest)

end EventFilter
