import EventFilter.Json.Reader
import EventFilter.Value

/-!
# Reading values

A value of the language is read from a JSON text by trying the kinds of values one after the other.
An integer comes out of a JSON text as a word of 64 bits, with a sign only if it is below zero, and
is narrowed to 32 bits if it is in range. Floating point numbers are no values, even if they are
whole.
-/

namespace EventFilter

/-! ### Words -/

/-- **A word of 64 bits** that holds an integer: with a sign if it is below zero, without one
otherwise. -/
inductive Json.Word
  | unsigned (n : UInt64)
  | signed (n : Int64)

namespace Json.Word

/-- The word that holds an integer, if 64 bits are enough. -/
def ofInt? (n : Int) : Option Word :=
  if n < 0 then
    if -9223372036854775808 ≤ n then some (.signed (Int64.ofInt n)) else none
  else if n < UInt64.size then some (.unsigned (UInt64.ofNat n.toNat))
  else none

/-- A word as an integer of 32 bits, if it is in range. -/
def toInt32? : Word → Option Int32
  | .unsigned n => if n ≤ 2147483647 then some n.toUInt32.toInt32 else none
  | .signed n => if -2147483648 ≤ n ∧ n ≤ 2147483647 then some n.toInt32 else none

end Json.Word

/-! ### Values -/

namespace Value

/-- A JSON value as a truth value. -/
def asBoolean? : Json → Option Value
  | .boolean b => some (.boolean b)
  | _ => none

/-- A JSON value as an integer. -/
def asInteger? : Json → Option Value
  | .integer n => ((Json.Word.ofInt? n).bind Json.Word.toInt32?).map .integer
  | _ => none

/-- A JSON value as a text. -/
def asString? : Json → Option Value
  | .string s => some (.string s)
  | _ => none

/-- **The value that a JSON value is**, as the first of the kinds that takes it. -/
def decode? (j : Json) : Option Value := [asBoolean?, asInteger?, asString?].findSome? (· j)

/-- **The value of a JSON text.** -/
def ofText? (text : String) : Option Value := (Json.ofText? text).bind decode?

end Value

end EventFilter
