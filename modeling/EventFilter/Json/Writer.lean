import EventFilter.Binary64.Shortest
import EventFilter.Json
import EventFilter.Text.Decimal

/-!
# Writing JSON

The compact text of a JSON value, without any white space. In strings the quotation mark, the
backslash and the control characters below the space are escaped and nothing else is. Floating point
numbers are written with the fewest digits that read back, always with a decimal point or an
exponent, so that no integer is written like one.
-/

namespace EventFilter.Json

/-- The digits of a number below sixteen. -/
def hexDigit (n : Nat) : Char := Nat.digitChar (n % 16)

/-- A character as it stands in a string. -/
def escapeChar (c : Char) : List Char :=
  match c with
  | '"' => ['\\', '"']
  | '\\' => ['\\', '\\']
  | '\x08' => ['\\', 'b']
  | '\x0c' => ['\\', 'f']
  | '\n' => ['\\', 'n']
  | '\r' => ['\\', 'r']
  | '\t' => ['\\', 't']
  | c =>
    if c.toNat < 0x20 then ['\\', 'u', '0', '0', hexDigit (c.toNat / 16), hexDigit c.toNat]
    else [c]

/-- **The text of a string**, quotation marks included. -/
def renderString (s : String) : List Char := '"' :: s.toList.flatMap escapeChar ++ ['"']

/-- The smallest power of ten that is written without an exponent. -/
def plainFrom : Int := -5

/-- The smallest power of ten from there on that is written with an exponent. -/
def plainBelow : Int := 16

/-- A decimal without an exponent: at least one digit on each side of the point. -/
def renderPlain (digits : List Char) (top : Int) : List Char :=
  if top < 0 then
    ['0', '.'] ++ List.replicate (-top - 1).toNat '0' ++ digits
  else
    let whole := top.toNat + 1
    if digits.length ≤ whole then
      digits ++ List.replicate (whole - digits.length) '0' ++ ['.', '0']
    else
      digits.take whole ++ '.' :: digits.drop whole

/-- A decimal with an exponent and its sign: one digit before the point, which is left out if
nothing follows it. -/
def renderExponent (digits : List Char) (top : Int) : List Char :=
  let mantissa :=
    match digits with
    | [] => []
    | [d] => [d]
    | d :: ds => d :: '.' :: ds
  let sign := if top < 0 then '-' else '+'
  mantissa ++ 'e' :: sign :: Nat.toDigits 10 top.natAbs

/-- **The text of a floating point number.** -/
def renderFloat (negative : Bool) (x : Binary64) : List Char :=
  let sign := if negative then ['-'] else []
  if x.mantissa = 0 then sign ++ ['0', '.', '0']
  else
    let d := x.shortest
    let digits := Nat.toDigits 10 d.digits
    let top : Int := d.exponent + (digits.length - 1)
    sign ++
      if plainFrom ≤ top ∧ top < plainBelow then renderPlain digits top
      else renderExponent digits top

mutual

/-- **The text of a JSON value.** -/
def render : Json → List Char
  | null => ['n', 'u', 'l', 'l']
  | boolean true => ['t', 'r', 'u', 'e']
  | boolean false => ['f', 'a', 'l', 's', 'e']
  | integer n => Text.writeInt n
  | float negative x => renderFloat negative x
  | string s => renderString s
  | array items => '[' :: renderItems items ++ [']']
  | object members => '\x7b' :: renderMembers members ++ ['\x7d']

/-- The items of an array with commas between them. -/
def renderItems : List Json → List Char
  | [] => []
  | [v] => render v
  | v :: w :: vs => render v ++ ',' :: renderItems (w :: vs)

/-- The members of an object with commas between them. -/
def renderMembers : List (String × Json) → List Char
  | [] => []
  | [(k, v)] => renderString k ++ ':' :: render v
  | (k, v) :: m :: ms => renderString k ++ ':' :: render v ++ ',' :: renderMembers (m :: ms)

end

/-- The text of a JSON value. -/
def text (j : Json) : String := String.ofList j.render

end EventFilter.Json
