import EventFilter.Text.Printable

/-!
# Quoted texts

A text between double quotes in which every character can be told apart: quotes, backslashes and
the usual controls have an escape of two characters, and whatever is not printable is written as
its code point in hexadecimal.
-/

namespace EventFilter.Text

/-- A character as it stands in a quoted text. -/
def quoteChar (c : Char) : List Char :=
  match c with
  | '\x00' => ['\\', '0']
  | '\t' => ['\\', 't']
  | '\r' => ['\\', 'r']
  | '\n' => ['\\', 'n']
  | '"' => ['\\', '"']
  | '\\' => ['\\', '\\']
  | c =>
    if isPrintable c && !isExtendingMark c then [c]
    else ['\\', 'u', '\x7b'] ++ Nat.toDigits 16 c.toNat ++ ['\x7d']

/-- **A text between double quotes**, with escapes. -/
def quote (cs : List Char) : List Char := '"' :: cs.flatMap quoteChar ++ ['"']

end EventFilter.Text
