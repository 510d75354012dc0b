import EventFilter.Registry
import EventFilter.Text.Blank

/-!
# The built-in functions

The functions that every filter can call unless other ones are given. Positions and lengths count
characters. A body checks the arguments it is called with, even though a call within an expression
can only hand it arguments of the declared kinds.
-/

namespace EventFilter.Builtin

/-- The argument at an index as a text. -/
def stringAt (args : List Value) (index : Nat) : Except FunctionError String :=
  match args[index]? with
  | some (.string s) => .ok s
  | some v => .error (.notString (index + 1) v.kind)
  | none => .error (.missingArgument (index + 1))

/-- The argument at an index as an integer. -/
def integerAt (args : List Value) (index : Nat) : Except FunctionError Int32 :=
  match args[index]? with
  | some v => v.toInteger.mapError .coercion
  | none => .error (.missingArgument (index + 1))

/-- All arguments as texts, the first of them being the one at `index`. -/
def stringsFrom (index : Nat) : List Value → Except FunctionError (List String)
  | [] => .ok []
  | .string s :: vs => (stringsFrom (index + 1) vs).map (s :: ·)
  | v :: _ => .error (.notString (index + 1) v.kind)

/-- An integer as a number of characters. -/
def characterCount (length : Int32) : Except FunctionError Nat :=
  if length < 0 then .error (.negativeLength length) else .ok length.toInt.toNat

/-- The number of characters of a text, as far as an integer can hold it. -/
def lengthOf (s : String) : Int32 := Int32.ofNat (min s.toList.length 2147483647)

/-- The truth value that a text spells, in whatever case. -/
def readBoolean? (s : String) : Option Bool :=
  if Text.asciiUpper s == "TRUE" then some true
  else if Text.asciiUpper s == "FALSE" then some false
  else none

/-- Where the character at a position begins, counted from zero. Positions count from one, negative
ones from the end, and there has to be a character at the position. -/
def startOf (position : Int32) (length : Nat) : Except FunctionError Nat :=
  let p := position.toInt
  if 1 ≤ p ∧ p ≤ length then .ok (p - 1).toNat
  else if p ≤ -1 ∧ -(length : Int) ≤ p then .ok (length + p).toNat
  else .error (.positionOutOfRange position length)

/-- `ABS`: the absolute value, but the smallest integer stays as it is. -/
def abs (args : List Value) : Except FunctionError Value := do
  let n ← integerAt args 0
  return .integer (if n < 0 then -n else n)

/-- `LENGTH`: the number of characters. -/
def length (args : List Value) : Except FunctionError Value := do
  let s ← stringAt args 0
  return .integer (lengthOf s)

/-- `CONCAT`: the arguments one after the other. -/
def concat (args : List Value) : Except FunctionError Value := do
  let parts ← stringsFrom 0 args
  return .string (String.join parts)

/-- `CONCAT_WS`: the arguments after the first one, with the first one between them. -/
def concatWithSeparator (args : List Value) : Except FunctionError Value := do
  let separator ← stringAt args 0
  let parts ← stringsFrom 1 args.tail
  return .string (separator.intercalate parts)

/-- `LOWER`: the text in lower case. -/
def lower (args : List Value) : Except FunctionError Value := do
  let s ← stringAt args 0
  return .string (String.ofList (Text.toLower s.toList))

/-- `UPPER`: the text in upper case. -/
def upper (args : List Value) : Except FunctionError Value := do
  let s ← stringAt args 0
  return .string (String.ofList (Text.toUpper s.toList))

/-- `TRIM`: the text without the blank characters at its ends. -/
def trim (args : List Value) : Except FunctionError Value := do
  let s ← stringAt args 0
  return .string (String.ofList (Text.trim s.toList))

/-- `LEFT`: the first characters of a text. -/
def left (args : List Value) : Except FunctionError Value := do
  let s ← stringAt args 0
  let count ← characterCount (← integerAt args 1)
  return .string (String.ofList (s.toList.take count))

/-- `RIGHT`: the last characters of a text. -/
def right (args : List Value) : Except FunctionError Value := do
  let s ← stringAt args 0
  let count ← characterCount (← integerAt args 1)
  return .string (String.ofList (s.toList.drop (s.toList.length - count)))

/-- `SUBSTRING`: the characters from a position on, all of them or a given number. -/
def substring (args : List Value) : Except FunctionError Value := do
  let s ← stringAt args 0
  let position ← integerAt args 1
  let start ← startOf position s.toList.length
  let rest := s.toList.drop start
  if args.length > 2 then
    let count ← characterCount (← integerAt args 2)
    return .string (String.ofList (rest.take count))
  else
    return .string (String.ofList rest)

/-- `INT`: the integer that a text denotes. -/
def toInteger (args : List Value) : Except FunctionError Value := do
  return .integer (← integerAt args 0)

/-- `BOOL`: the truth value that a text spells. -/
def toBoolean (args : List Value) : Except FunctionError Value := do
  let s ← stringAt args 0
  match readBoolean? s with
  | some b => return .boolean b
  | none => throw (.notBoolean s)

/-- `STRING`: the text itself. -/
def toString (args : List Value) : Except FunctionError Value := do
  return .string (← stringAt args 0)

/-- `IS_INT`: whether a text denotes an integer. -/
def isInteger (args : List Value) : Except FunctionError Value := do
  let s ← stringAt args 0
  return .boolean (Text.readInt32? s.toList).isSome

/-- `IS_BOOL`: whether a text spells a truth value. -/
def isBoolean (args : List Value) : Except FunctionError Value := do
  let s ← stringAt args 0
  return .boolean (readBoolean? s).isSome

/-- **The built-in functions.** -/
def all : List Overload := [
  .define "ABS" [.integer] none .integer abs,
  .define "LENGTH" [.string] none .integer length,
  .define "CONCAT" [] (some .string) .string concat,
  .define "CONCAT_WS" [.string] (some .string) .string concatWithSeparator,
  .define "LOWER" [.string] none .string lower,
  .define "UPPER" [.string] none .string upper,
  .define "TRIM" [.string] none .string trim,
  .define "LEFT" [.string, .integer] none .string left,
  .define "RIGHT" [.string, .integer] none .string right,
  .define "SUBSTRING" [.string, .integer] none .string substring,
  .define "SUBSTRING" [.string, .integer, .integer] none .string substring,
  .define "INT" [.string] none .integer toInteger,
  .define "BOOL" [.string] none .boolean toBoolean,
  .define "STRING" [.string] none .string toString,
  .define "IS_INT" [.string] none .boolean isInteger,
  .define "IS_BOOL" [.string] none .boolean isBoolean]

end EventFilter.Builtin

namespace EventFilter

/-- The registry of the built-in functions. -/
def Registry.builtins : Registry := .ofList Builtin.all

end EventFilter
