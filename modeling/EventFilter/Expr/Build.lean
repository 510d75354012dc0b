import EventFilter.Expr

/-!
# Building expressions

Constructors that give a node the smallest span that covers its operands. Nodes without operands
begin detached. `Expr.withSpan` replaces the span afterwards.
-/

namespace EventFilter.Expr

/-- A constant. -/
def ofValue (value : Value) : Expr := literal value .detached

/-- The value of an attribute. -/
def ofAttribute (name : String) : Expr := attr name .detached

/-- An operator before its operand, with the span of the operand. -/
def apply (op : UnaryOp) (operand : Expr) : Expr := unary op operand operand.span

/-- An operator between its operands, with the span that covers both. -/
def combine (op : BinaryOp) (left right : Expr) : Expr :=
  binary op left right (left.span.merge right.span)

/-- Whether an attribute is there, with the span of its name. -/
def isPresent (name : String) (nameSpan : Span) : Expr := present name nameSpan nameSpan

/-- Whether a value is among those of a list, with the span from the value to the last of them. -/
def isAmong (value : Expr) (set : List Expr) : Expr :=
  among value set (value.span.merge ((set.getLast?.map span).getD value.span))

/-- Whether a text matches a pattern, with the span of the text. -/
def isLike (value : Expr) (pattern : Pattern) : Expr := like value pattern value.span

/-- The call of a function, with the span from the first argument to the last. -/
def ofCall (name : String) (args : List Expr) : Expr :=
  call name args <|
    match args.head?, args.getLast? with
    | some first, some last => first.span.merge last.span
    | _, _ => .detached

end EventFilter.Expr
