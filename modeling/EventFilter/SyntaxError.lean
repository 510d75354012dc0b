import EventFilter.Pattern
import EventFilter.Span
import EventFilter.Token

/-!
# Syntax errors

Why a text is not a filter, and where. The causes fall into those of the characters, those of the
order of tokens, and those of a phrase that is well formed but denotes nothing: a number out of
range, a bad pattern, a call that no registered function accepts.
-/

namespace EventFilter

/-- What could have stood at the place of an error. -/
inductive Expected
  | endOfInput
  | expression
  | identifier
  | pattern
  | symbol (s : Symbol)
  deriving DecidableEq, Inhabited

/-- How what was expected is named in a message. -/
def Expected.describe : Expected → String
  | .endOfInput => EventFilter.endOfInput
  | .expression => "expression"
  | .identifier => "identifier"
  | .pattern => "string pattern after LIKE"
  | .symbol s => (Token.symbol s).describe

/-- Why a text is not a filter. -/
inductive SyntaxError.Cause
  | unexpectedCharacter (c : Char)
  | unterminatedString
  | unexpected (expected : Expected) (found : Option Token)
  | integerOutOfRange (literal : String)
  | invalidPattern (e : PatternError)
  | unknownFunction (name : String)
  | noOverload (name : String) (count : Nat)
  deriving DecidableEq, Inhabited

/-- **A syntax error**: its cause, and the stretch of the source that is blamed. -/
structure SyntaxError where
  cause : SyntaxError.Cause
  span : Span
  deriving DecidableEq, Inhabited

/-- What a cause is reported with. -/
def SyntaxError.Cause.message : SyntaxError.Cause → String
  | .unexpectedCharacter c => s!"unexpected character '{c}'"
  | .unterminatedString => "unterminated string literal"
  | .unexpected expected found =>
    s!"expected {expected.describe}, found {Token.describeFound found}"
  | .integerOutOfRange literal => s!"integer literal {literal} is out of range"
  | .invalidPattern e => e.message
  | .unknownFunction name => s!"unknown function {name}"
  | .noOverload name count =>
    s!"function {Text.asciiUpper name} does not accept {count} argument(s)"

/-- What a syntax error is reported with. -/
def SyntaxError.message (e : SyntaxError) : String := e.cause.message

/-- A syntax error with its place. -/
def SyntaxError.render (e : SyntaxError) : String := s!"{e.message} at {e.span.render}"

end EventFilter
