import EventFilter.Text.Case
import EventFilter.Value

/-!
# Functions

A function of the language is a family of overloads under one name. An overload declares the kinds
of its parameters, the kind of any further arguments it takes, and the kind of its result; its body
is a map from argument values to a value or a failure. Arguments are converted to the declared kinds
before the body sees them, so that most failures of a body can only be seen by calling it directly.
Names are kept in upper case (`Overload.asciiUpper_name`), for they are compared without regard to
the case of ASCII letters.
-/

namespace EventFilter

/-- The sorts of failures of an evaluation. -/
inductive ErrorKind
  | typeMismatch
  | missingAttribute
  | divisionByZero
  | invalidArgument
  | unknownFunction
  deriving DecidableEq, Inhabited

/-- The name of a sort of failures. -/
def ErrorKind.name : ErrorKind → String
  | .typeMismatch => "TYPE_MISMATCH"
  | .missingAttribute => "MISSING_ATTRIBUTE"
  | .divisionByZero => "DIVISION_BY_ZERO"
  | .invalidArgument => "INVALID_ARGUMENT"
  | .unknownFunction => "UNKNOWN_FUNCTION"

/-- All sorts of failures. -/
def ErrorKind.all : List ErrorKind :=
  [.typeMismatch, .missingAttribute, .divisionByZero, .invalidArgument, .unknownFunction]

/-- The sort of failures with a given name. -/
def ErrorKind.ofName? (name : String) : Option ErrorKind :=
  ErrorKind.all.find? (·.name == name)

/-- **A failure of a function.** Arguments are counted from one. -/
inductive FunctionError
  | coercion (e : CoercionError)
  | missingArgument (number : Nat)
  | notString (number : Nat) (kind : Kind)
  | negativeLength (length : Int32)
  | positionOutOfRange (position : Int32) (length : Nat)
  | notBoolean (text : String)
  | custom (kind : ErrorKind) (message : String)
  deriving DecidableEq

/-- The sort of a failure. -/
def FunctionError.kind : FunctionError → ErrorKind
  | .coercion _ | .notString _ _ | .notBoolean _ => .typeMismatch
  | .missingArgument _ | .negativeLength _ | .positionOutOfRange _ _ => .invalidArgument
  | .custom kind _ => kind

/-- What a failure of a function says. -/
def FunctionError.message : FunctionError → String
  | .coercion e => e.message
  | .missingArgument number => s!"missing argument {number}"
  | .notString number kind => s!"argument {number} must be a String, got {kind.name}"
  | .negativeLength length =>
    s!"length must not be negative, got {(Value.integer length).text}"
  | .positionOutOfRange position length =>
    s!"position {(Value.integer position).text} is out of range for a string of length {length}"
  | .notBoolean text => s!"cannot convert '{text}' to Boolean"
  | .custom _ message => message

/-- A failure of a function with its sort. -/
def FunctionError.render (e : FunctionError) : String := s!"{e.kind.name}: {e.message}"

/-- **An overload of a function**: `parameters` are the kinds of its first arguments, `variadic` is
the kind of any number of further ones. -/
structure Overload where
  name : String
  parameters : List Kind
  variadic : Option Kind
  returns : Kind
  body : List Value → Except FunctionError Value
  asciiUpper_name : Text.asciiUpper name = name

namespace Overload

/-- An overload under a name in any case. -/
def define (name : String) (parameters : List Kind) (variadic : Option Kind) (returns : Kind)
    (body : List Value → Except FunctionError Value) : Overload :=
  { name := Text.asciiUpper name, parameters, variadic, returns, body,
    asciiUpper_name := Text.asciiUpper_asciiUpper name }

/-- Whether an overload takes a given number of arguments. -/
def accepts (f : Overload) (count : Nat) : Bool :=
  if f.variadic.isSome then f.parameters.length ≤ count else count == f.parameters.length

/-- The declared kind of the argument at an index. -/
def kindAt? (f : Overload) (index : Nat) : Option Kind := f.parameters[index]?.or f.variadic

/-- What two overloads of one name differ in: the number of parameters, and whether more arguments
are taken. -/
def shape (f : Overload) : Nat × Bool := (f.parameters.length, f.variadic.isSome)

/-- An overload as it is declared. -/
def signature (f : Overload) : String :=
  let further := (f.variadic.map (·.name ++ "...")).toList
  f.name ++ "(" ++ ", ".intercalate (f.parameters.map Kind.name ++ further) ++ ") -> " ++
    f.returns.name

/-- Every argument of an accepted call has a declared kind. -/
theorem kindAt?_isSome {f : Overload} {count index : Nat} (h : f.accepts count = true)
    (hi : index < count) : (f.kindAt? index).isSome = true := by
  unfold accepts at h
  cases hv : f.variadic with
  | some k => cases hp : f.parameters[index]? <;> simp [kindAt?, hv, hp]
  | none =>
    simp only [hv, Option.isSome_none, Bool.false_eq_true, if_false, beq_iff_eq] at h
    have : index < f.parameters.length := h ▸ hi
    simp [kindAt?, this]

end Overload

end EventFilter
