import EventFilter.Expr.Parse

/-!
# The parser as a descent with a cursor

The parser once more, as procedures that call one another and share a cursor into the tokens of a
source. The last token is a mark for the end of the input, from which the cursor does not move on
(`Descent.advance`). Nothing in these procedures says why they end: each is the least solution of
its equation, and `none` stands for a run without end. Nor does anything keep the cursor in bounds:
a token that is taken by its position may be missing (`Descent.Fault.outOfBounds`).
All that the cursor and the procedures do is written down in a log (`Descent.Moment`), so that the
course of a parse can be spoken about.
-/

namespace EventFilter

namespace Descent

/-- A token or, behind all tokens, the end of the input, with its place. -/
structure Mark where
  token : Option Token
  span : Span
  deriving DecidableEq

/-- The procedures of the parser. -/
inductive Procedure
  | expression
  | phrase (level : Level)
  | pattern
  | set
  | call
  | list
  deriving DecidableEq

/-- A procedure that has been called, and the position at which it begins. -/
structure Activation where
  procedure : Procedure
  start : Nat
  deriving DecidableEq

/-- The procedures that have not returned, the innermost first. -/
abbrev Around : Type := List Activation

/-- **What happens in the course of a parse.** -/
inductive Moment
  /-- a procedure is called inside others -/
  | entered (activation : Activation) (around : Around)
  /-- the cursor comes to a position -/
  | moved (position : Nat)
  /-- the loop of a procedure has gone around once -/
  | turned (procedure : Procedure) (start stop : Nat)

/-- The position of the cursor at a moment. -/
def Moment.position : Moment → Nat
  | entered activation _ => activation.start
  | moved position => position
  | turned _ _ stop => stop

/-- Whether a primary phrase begins at a moment. -/
def Moment.isPrimary : Moment → Bool
  | entered activation _ => activation.procedure = .phrase .primary
  | _ => false

/-- Why a parse stops without an expression. -/
inductive Fault
  | refused (e : SyntaxError)
  | outOfBounds (position : Nat)

/-- The position of the cursor, and what has happened so far. -/
structure State where
  position : Nat
  log : List Moment

/-- The state in which a parse begins. -/
def State.initial : State := ⟨0, []⟩

/-- Tokens with the end of the input behind them. -/
def marksOf (ts : List Lexeme) (ending : Span) : List Mark :=
  ts.map (fun t => ⟨some t.token, t.span⟩) ++ [⟨none, ending⟩]

end Descent

/-- **A procedure with a cursor**, which may stop at a fault, or run without end. -/
abbrev Descent (α : Type) : Type := ExceptT Descent.Fault (StateT Descent.State Option) α

/-- The tokens of a source with the end of the input behind them. -/
def Source.marks (source : Source) : Except SyntaxError (List Descent.Mark) :=
  source.tokens.map fun ts => Descent.marksOf ts source.ending

namespace Descent

variable (functions : Registry) (marks : List Mark)

/-! ### The cursor -/

/-- Where the cursor is. -/
def position : Descent Nat := fun s => some (.ok s.position, s)

/-- The token at the cursor. -/
def current : Descent (Option Token) := fun s => some (.ok (marks[s.position]?.bind (·.token)), s)

/-- The token behind the one at the cursor. -/
def upcoming : Descent (Option Token) :=
  fun s => some (.ok (marks[s.position + 1]?.bind (·.token)), s)

/-- The place of the token at the cursor, or else of the last one. -/
def currentSpan : Descent Span :=
  fun s => some (.ok (((marks[s.position]?.or marks.getLast?).map (·.span)).getD .detached), s)

/-- **Moving the cursor on**, unless it is at the last token. -/
def advance : Descent Unit := fun s =>
  some (.ok (), if s.position + 1 < marks.length then
    ⟨s.position + 1, s.log ++ [.moved (s.position + 1)]⟩ else s)

/-- Stopping at the token at the cursor. -/
def refuse {α : Type} (expected : Expected) : Descent α := do
  throw (.refused ⟨.unexpected expected (← current marks), ← currentSpan marks⟩)

/-- **Taking a symbol**, by its position. -/
def expect (symbol : Symbol) : Descent Mark := do
  if (← current marks) = some (.symbol symbol) then
    let i ← position
    match marks[i]? with
    | some mark =>
      advance marks
      return mark
    | none => throw (.outOfBounds i)
  else refuse marks (.symbol symbol)

/-- Taking a name. -/
def expectIdentifier : Descent (String × Span) := do
  let span ← currentSpan marks
  match ← current marks with
  | some (.identifier name) =>
    advance marks
    return (name, span)
  | _ => refuse marks .identifier

/-- Taking a NOT that belongs to a LIKE or an IN behind it. -/
def takeNot : Descent Bool := do
  let first ← current marks
  let second ← upcoming marks
  if first = some (.keyword .not) ∧
      (second = some (.keyword .like) ∨ second = some (.keyword .among)) then
    advance marks
    return true
  else return false

/-- The negation of a test, if it has a NOT. -/
def negateIf (isNegated : Bool) (e : Expr) : Expr := if isNegated then Parse.negated e else e

/-- What was read may be refused. -/
def ofOutcome {α : Type} : Except SyntaxError α → Descent α
  | .ok a => pure a
  | .error e => throw (.refused e)

/-! ### The log -/

/-- Beginning a procedure inside others: it becomes the innermost one. -/
def enter (procedure : Procedure) (around : Around) : Descent Around := fun s =>
  let activation : Activation := ⟨procedure, s.position⟩
  some (.ok (activation :: around), { s with log := s.log ++ [.entered activation around] })

/-- Going around in the loop of a procedure. -/
def turn (procedure : Procedure) (start : Nat) : Descent Unit := fun s =>
  some (.ok (), { s with log := s.log ++ [.turned procedure start s.position] })

/-! ### The procedures -/

/-- The pattern after LIKE. -/
def Around.pattern (around : Around) (value : Expr) : Descent Expr := do
  let _ ← enter .pattern around
  let span ← currentSpan marks
  match ← current marks with
  | some (.string text) =>
    advance marks
    match Pattern.ofText text with
    | .ok p => return .like value p (value.span.merge span)
    | .error e => throw (.refused ⟨.invalidPattern e, span⟩)
  | _ => refuse marks .pattern

mutual

/-- Any expression. -/
def Around.expression (around : Around) : Descent Expr := do
  let inside ← enter .expression around
  inside |>.phrase .top
partial_fixpoint

/-- **A phrase of a level.** -/
def Around.phrase (around : Around) (level : Level) : Descent Expr := do
  let inside ← enter (.phrase level) around
  match level with
  | .chain c =>
    let left ← inside |>.phrase c.operand
    inside |>.chainLoop c left
  | .negation => inside |>.negation
  | .comparison =>
    let left ← inside |>.phrase (.chain .sum)
    let isNegated ← takeNot marks
    inside |>.comparisonRest left isNegated
  | .sign => inside |>.sign
  | .primary => inside |>.primary
partial_fixpoint

/-- The loop of a chain behind its first operand. -/
def Around.chainLoop (inside : Around) (c : Chain) (left : Expr) : Descent Expr := do
  match (← current marks).bind c.operator? with
  | some op =>
    let start ← position
    advance marks
    let right ← inside |>.phrase c.operand
    turn (.phrase (.chain c)) start
    inside |>.chainLoop c (.combine op left right)
  | none => return left
partial_fixpoint

/-- A comparison behind any number of NOTs. -/
def Around.negation (inside : Around) : Descent Expr := do
  if (← current marks) = some (.keyword .not) then
    let span ← currentSpan marks
    advance marks
    let operand ← inside |>.phrase .negation
    return .unary .not operand (span.merge operand.span)
  else inside |>.phrase .comparison
partial_fixpoint

/-- What may follow the first sum of a comparison, behind the NOT that belongs to it. -/
def Around.comparisonRest (inside : Around) (left : Expr) (isNegated : Bool) : Descent Expr := do
  if (← current marks) = some (.keyword .like) then
    advance marks
    let e ← inside.pattern marks left
    return negateIf isNegated e
  else if (← current marks) = some (.keyword .among) then
    advance marks
    let e ← inside |>.set left
    return negateIf isNegated e
  else
    match (← current marks).bind ComparisonOp.ofToken? with
    | some op =>
      advance marks
      let right ← inside |>.phrase (.chain .sum)
      return .combine (.comparison op) left right
    | none => return left
partial_fixpoint

/-- A primary phrase behind any number of minus signs. -/
def Around.sign (inside : Around) : Descent Expr := do
  if (← current marks) = some (.symbol .minus) then
    let span ← currentSpan marks
    advance marks
    match ← current marks with
    | some (.number digits) =>
      let whole := span.merge (← currentSpan marks)
      advance marks
      ofOutcome (Parse.integer ("-" ++ digits) whole)
    | _ =>
      let operand ← inside |>.phrase .sign
      return .unary .negate operand (span.merge operand.span)
  else inside |>.phrase .primary
partial_fixpoint

/-- A constant, a name, a call or an expression in parentheses. -/
def Around.primary (inside : Around) : Descent Expr := do
  let span ← currentSpan marks
  match ← current marks with
  | some (.number digits) =>
    advance marks
    ofOutcome (Parse.integer digits span)
  | some (.string text) =>
    advance marks
    return .literal (.string text) span
  | some (.keyword .true) =>
    advance marks
    return .literal (.boolean true) span
  | some (.keyword .false) =>
    advance marks
    return .literal (.boolean false) span
  | some (.keyword .present) =>
    advance marks
    let (name, nameSpan) ← expectIdentifier marks
    return .present name nameSpan (span.merge nameSpan)
  | some (.identifier name) =>
    advance marks
    if (← current marks) = some (.symbol .leftParen) then inside |>.call name span
    else return .attr name span
  | some (.symbol .leftParen) =>
    advance marks
    let e ← inside |>.expression
    let close ← expect marks .rightParen
    return e.withSpan (span.merge close.span)
  | _ => refuse marks .expression
partial_fixpoint

/-- The list after IN. -/
def Around.set (around : Around) (value : Expr) : Descent Expr := do
  let inside ← enter .set around
  let _ ← expect marks .leftParen
  let items ← inside |>.list
  let close ← expect marks .rightParen
  return .among value items (value.span.merge close.span)
partial_fixpoint

/-- The arguments of a call, which is checked behind them. -/
def Around.call (around : Around) (name : String) (nameSpan : Span) : Descent Expr := do
  let inside ← enter .call around
  let _ ← expect marks .leftParen
  let args ← inside |>.arguments
  let close ← expect marks .rightParen
  ofOutcome (Parse.checkedCall functions name args (nameSpan.merge close.span))
partial_fixpoint

/-- No expression before a closing parenthesis, or a list of them. -/
def Around.arguments (inside : Around) : Descent (List Expr) := do
  if (← current marks) = some (.symbol .rightParen) then return []
  else inside |>.list
partial_fixpoint

/-- Expressions with commas between them. -/
def Around.list (around : Around) : Descent (List Expr) := do
  let inside ← enter .list around
  inside |>.listLoop []
partial_fixpoint

/-- The loop of a list behind some of its expressions. -/
def Around.listLoop (inside : Around) (items : List Expr) : Descent (List Expr) := do
  let start ← position
  let e ← inside |>.expression
  if (← current marks) = some (.symbol .comma) then
    advance marks
    turn .list start
    inside |>.listLoop (items ++ [e])
  else
    turn .list start
    return items ++ [e]
partial_fixpoint

end

/-- **The expression that all tokens are.** -/
def parse : Descent Expr := do
  let e ← Around.expression functions marks []
  if (← current marks) = none then return e
  else refuse marks .endOfInput

end Descent

end EventFilter
