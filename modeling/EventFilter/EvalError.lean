import EventFilter.Operator
import EventFilter.Overload
import EventFilter.Span

/-!
# Evaluation errors

Why an expression has no value, and which node is to blame. A value of the wrong kind is reported
with the role it plays (`Role`): as an operand, an argument, the result of a function or the result
of a whole filter.
-/

namespace EventFilter

/-- The role of a value that is converted. Arguments are counted from one. -/
inductive Role
  | operand (op : UnaryOp)
  | left (op : BinaryOp)
  | right (op : BinaryOp)
  | compared (op : ComparisonOp)
  | argument (number : Nat) (function : String)
  | result (function : String)
  | filterResult
  deriving DecidableEq, Inhabited

/-- How a role is named in a message. -/
def Role.describe : Role → String
  | .operand op => s!"operand of {op.symbol}"
  | .left op => s!"left operand of {op.symbol}"
  | .right op => s!"right operand of {op.symbol}"
  | .compared op => s!"operand of {op.symbol}"
  | .argument number function => s!"argument {number} of {function}"
  | .result function => s!"result of {function}"
  | .filterResult => "filter result"

/-- Why an expression has no value. -/
inductive EvalError.Cause
  | missingAttribute (name : String)
  | coercion (role : Role) (e : CoercionError)
  | orderedBooleans (op : ComparisonOp)
  | divisionByZero
  | unknownFunction (name : String)
  | noOverload (name : String) (count : Nat)
  | unexpectedArgument (number : Nat) (function : String)
  | failed (function : String) (e : FunctionError)
  deriving DecidableEq

/-- **An evaluation error**: its cause, and the span of the node that is to blame. -/
structure EvalError where
  cause : EvalError.Cause
  span : Span
  deriving DecidableEq

/-- The sort of a cause. -/
def EvalError.Cause.kind : EvalError.Cause → ErrorKind
  | .missingAttribute _ => .missingAttribute
  | .coercion _ _ | .orderedBooleans _ => .typeMismatch
  | .divisionByZero => .divisionByZero
  | .unknownFunction _ => .unknownFunction
  | .noOverload _ _ | .unexpectedArgument _ _ => .invalidArgument
  | .failed _ e => e.kind

/-- What a cause is reported with. -/
def EvalError.Cause.message : EvalError.Cause → String
  | .missingAttribute name => s!"attribute '{name}' is not present"
  | .coercion role e => s!"{role.describe}: {e.message}"
  | .orderedBooleans op => s!"operator {op.symbol} is not defined for Boolean operands"
  | .divisionByZero => "division by zero"
  | .unknownFunction name => s!"unknown function {name}"
  | .noOverload name count => s!"function {name} does not accept {count} argument(s)"
  | .unexpectedArgument number function => s!"unexpected argument {number} for {function}"
  | .failed function e => s!"{function}: {e.message}"

/-- The sort of an evaluation error. -/
def EvalError.kind (e : EvalError) : ErrorKind := e.cause.kind

/-- What an evaluation error says. -/
def EvalError.message (e : EvalError) : String := e.cause.message

/-- An evaluation error with its sort, its place and the text there. -/
def EvalError.render (e : EvalError) : String :=
  e.kind.name ++ " at " ++ e.span.render ++ " `" ++ e.span.text ++ "`: " ++ e.message

end EventFilter
