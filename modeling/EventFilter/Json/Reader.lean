import EventFilter.Json
import EventFilter.Parsed
import EventFilter.Text.Decimal

/-!
# Reading JSON

A strict reader of JSON texts. White space is the space, the tab, the line feed and the carriage
return; a surrogate escape has to come in a pair; arrays and objects may be nested `maxDepth` deep;
and a number may not be larger than floating point numbers go. A text that breaks a rule is not
read at all.

The digits of a number that is not an integer are taken into a significand of 64 bits until one
does not fit. What is left of them then counts as zeros before the decimal point and not at all
behind it.
-/

namespace EventFilter.Json

/-- How deep arrays and objects may be nested. -/
def maxDepth : Nat := 127

/-- The white space between the parts of a JSON text. -/
def isSpace (c : Char) : Bool := c == ' ' || c == '\t' || c == '\n' || c == '\r'

/-- A text without leading white space. -/
def skip (cs : List Char) : List Char := cs.dropWhile isSpace

/-- The next character that is not white space. -/
def next? (cs : List Char) : Option (Parsed Char Char cs.length) :=
  match h : skip cs with
  | [] => none
  | c :: rest => some ⟨c, rest, by
      have hlen := (List.dropWhile_suffix (l := cs) isSpace).length_le
      rw [skip] at h
      rw [h] at hlen
      exact hlen⟩

/-- The value of a hexadecimal digit. -/
def hexValue? (c : Char) : Option Nat :=
  if c.isDigit then some (c.toNat - 0x30)
  else if 'a' ≤ c ∧ c ≤ 'f' then some (c.toNat - 0x57)
  else if 'A' ≤ c ∧ c ≤ 'F' then some (c.toNat - 0x37)
  else none

/-- Four hexadecimal digits. -/
def hexUnit? (cs : List Char) : Option (Parsed Char Nat cs.length) :=
  match cs with
  | a :: b :: c :: d :: rest => do
    let p ← hexValue? a
    let q ← hexValue? b
    let r ← hexValue? c
    let s ← hexValue? d
    return ⟨((p * 16 + q) * 16 + r) * 16 + s, rest, by simp only [List.length_cons]; omega⟩
  | _ => none

/-- The escapes of one character. -/
def plainEscapes : List (Char × Char) := [
  ('"', '"'), ('\\', '\\'), ('/', '/'), ('b', '\x08'), ('f', '\x0c'), ('n', '\n'), ('r', '\r'),
  ('t', '\t')]

/-- **The character that an escape denotes**, read behind its backslash. -/
def escape? (cs : List Char) : Option (Parsed Char Char cs.length) :=
  match cs with
  | [] => none
  | c :: rest =>
    match plainEscapes.lookup c with
    | some d => some ⟨d, rest, Nat.lt_succ_self _⟩
    | none =>
      if c = 'u' then do
        let high ← hexUnit? rest
        if 0xD800 ≤ high.value ∧ high.value < 0xDC00 then
          match hrest : high.rest with
          | '\\' :: 'u' :: rest' => do
            let low ← hexUnit? rest'
            if 0xDC00 ≤ low.value ∧ low.value < 0xE000 then
              return ⟨Char.ofNat (0x10000 + (high.value - 0xD800) * 0x400 + (low.value - 0xDC00)),
                low.rest, by
                  have h₁ := low.shorter
                  have h₂ := high.shorter
                  rw [hrest] at h₂
                  simp only [List.length_cons] at h₂ ⊢
                  omega⟩
            else none
          | _ => none
        else if 0xDC00 ≤ high.value ∧ high.value < 0xE000 then none
        else return ⟨Char.ofNat high.value, high.rest, Nat.lt_succ_of_lt high.shorter⟩
      else none

/-- **The rest of a string** behind its opening quotation mark. -/
def stringTail? (cs : List Char) : Option (Parsed Char (List Char) cs.length) :=
  match cs with
  | [] => none
  | c :: rest =>
    if c = '"' then some ⟨[], rest, Nat.lt_succ_self _⟩
    else if c = '\\' then do
      let d ← escape? rest
      let tail ← stringTail? d.rest
      return ⟨d.value :: tail.value, tail.rest,
        Nat.lt_succ_of_lt (Nat.lt_trans tail.shorter d.shorter)⟩
    else if c.toNat < 0x20 then none
    else do
      let tail ← stringTail? rest
      return ⟨c :: tail.value, tail.rest, Nat.lt_succ_of_lt tail.shorter⟩
termination_by cs.length
decreasing_by
  · have := d.shorter
    simp only [List.length_cons]
    omega
  · simp

/-- The digits that a significand of 64 bits can take after those it has, and how many they are. -/
def takeDigits (significand : Nat) : List Char → Nat × Nat
  | [] => (significand, 0)
  | d :: ds =>
    let next := significand * 10 + (d.toNat - 0x30)
    if next < UInt64.size then
      let (s, kept) := takeDigits next ds
      (s, kept + 1)
    else (significand, 0)

/-- The number with given digits before and behind the decimal point and a given exponent. -/
def floatOf? (negative : Bool) (whole fraction : List Char) (exponent : Int) : Option Json :=
  let (s, kept) := takeDigits 0 whole
  let (s', kept') := takeDigits s fraction
  let dropped : Int := whole.length - kept
  (Binary64.ofDecimal? s' (dropped - kept' + exponent)).map (float negative)

/-- The integer with given digits, as far as 64 bits can hold it. -/
def integerOf? (negative : Bool) (whole : List Char) : Option Json :=
  let n := Text.digitsValue whole
  if negative then
    if n ≠ 0 ∧ 2 * n ≤ UInt64.size then some (integer (-n)) else floatOf? negative whole [] 0
  else
    if n < UInt64.size then some (integer n) else floatOf? negative whole [] 0

/-- The parts of a number: its digits before the decimal point, those behind it and the exponent,
if they are there. -/
structure NumberText where
  whole : List Char
  fraction : Option (List Char)
  exponent : Option Int

/-- The number that a text denotes. -/
def NumberText.value? (negative : Bool) (t : NumberText) : Option Json :=
  match t.fraction, t.exponent with
  | none, none => integerOf? negative t.whole
  | fraction, exponent => floatOf? negative t.whole (fraction.getD []) (exponent.getD 0)

/-- One or more digits. -/
def digits? (cs : List Char) : Option (Parsed Char (List Char) cs.length) :=
  match cs with
  | [] => none
  | c :: rest =>
    if c.isDigit then
      some ⟨c :: rest.takeWhile Char.isDigit, rest.dropWhile Char.isDigit,
        Nat.lt_succ_of_le (List.dropWhile_suffix Char.isDigit).length_le⟩
    else none

/-- The part of a number behind its decimal point, if there is one. -/
def fraction? (cs : List Char) : Option (Parsed Char (Option (List Char)) (cs.length + 1)) :=
  match cs with
  | '.' :: rest => do
    let ds ← digits? rest
    return (ds.map some).widen (by simp only [List.length_cons]; omega)
  | cs => some ⟨none, cs, Nat.lt_succ_self _⟩

/-- The sign of an exponent, if there is one. -/
def exponentSign (cs : List Char) : Parsed Char Bool (cs.length + 1) :=
  match cs with
  | '-' :: rest => ⟨true, rest, Nat.lt_succ_of_lt (Nat.lt_succ_self _)⟩
  | '+' :: rest => ⟨false, rest, Nat.lt_succ_of_lt (Nat.lt_succ_self _)⟩
  | cs => ⟨false, cs, Nat.lt_succ_self _⟩

/-- The exponent of a number, if there is one. -/
def exponent? (cs : List Char) : Option (Parsed Char (Option Int) (cs.length + 1)) :=
  match cs with
  | [] => some ⟨none, [], Nat.lt_succ_self _⟩
  | c :: rest =>
    if c = 'e' ∨ c = 'E' then do
      let sign := exponentSign rest
      let ds ← digits? sign.rest
      let n : Int := Text.digitsValue ds.value
      return ⟨some (if sign.value then -n else n), ds.rest, by
        have h₁ := sign.shorter
        have h₂ := ds.shorter
        simp only [List.length_cons]
        omega⟩
    else some ⟨none, c :: rest, Nat.lt_succ_self _⟩

/-- **A number behind its sign.** -/
def number? (negative : Bool) (cs : List Char) : Option (Parsed Char Json cs.length) := do
  let whole ← digits? cs
  if whole.value.head? = some '0' ∧ whole.value ≠ ['0'] then none
  else do
    let fraction ← fraction? whole.rest
    let exponent ← exponent? fraction.rest
    let value ← NumberText.value? negative ⟨whole.value, fraction.value, exponent.value⟩
    return ⟨value, exponent.rest, by
      have h₁ := whole.shorter
      have h₂ := fraction.shorter
      have h₃ := exponent.shorter
      omega⟩

/-- A word that stands for a value. -/
def word? (word : List Char) (value : Json) (cs : List Char) :
    Option (Parsed Char Json (cs.length + 1)) :=
  if word.isPrefixOf cs then
    some ⟨value, cs.drop word.length, by simp only [List.length_drop]; omega⟩
  else none

mutual

/-- **A value**, with arrays and objects nested at most `depth` deep. -/
def value? (depth : Nat) (cs : List Char) : Option (Parsed Char Json cs.length) := do
  let c ← next? cs
  if c.value = 'n' then (word? ['u', 'l', 'l'] null c.rest).map (·.widen c.shorter)
  else if c.value = 't' then (word? ['r', 'u', 'e'] (boolean true) c.rest).map (·.widen c.shorter)
  else if c.value = 'f' then
    (word? ['a', 'l', 's', 'e'] (boolean false) c.rest).map (·.widen c.shorter)
  else if c.value = '"' then do
    let s ← stringTail? c.rest
    return (s.map fun s => string (String.ofList s)).widen (Nat.le_of_lt c.shorter)
  else if c.value = '-' then do
    let n ← number? true c.rest
    return n.widen (Nat.le_of_lt c.shorter)
  else if c.value.isDigit then do
    let n ← number? false (c.value :: c.rest)
    return n.widen c.shorter
  else if c.value = '[' then
    match depth with
    | 0 => none
    | depth + 1 => do
      let d ← next? c.rest
      if d.value = ']' then return ⟨array [], d.rest, Nat.lt_trans d.shorter c.shorter⟩
      else do
        let items ← items? depth c.rest
        return (items.map array).widen (Nat.le_of_lt c.shorter)
  else if c.value = '\x7b' then
    match depth with
    | 0 => none
    | depth + 1 => do
      let d ← next? c.rest
      if d.value = '\x7d' then return ⟨object [], d.rest, Nat.lt_trans d.shorter c.shorter⟩
      else do
        let members ← members? depth c.rest
        return (members.map ofMembers).widen (Nat.le_of_lt c.shorter)
  else none
termination_by 3 * cs.length
decreasing_by
  all_goals
    have := c.shorter
    omega

/-- The items of an array that is not empty, and its closing bracket. -/
def items? (depth : Nat) (cs : List Char) : Option (Parsed Char (List Json) cs.length) := do
  let first ← value? depth cs
  let c ← next? first.rest
  if c.value = ',' then do
    let more ← items? depth c.rest
    return ⟨first.value :: more.value, more.rest,
      Nat.lt_trans more.shorter (Nat.lt_trans c.shorter first.shorter)⟩
  else if c.value = ']' then
    return ⟨[first.value], c.rest, Nat.lt_trans c.shorter first.shorter⟩
  else none
termination_by 3 * cs.length + 1
decreasing_by
  · omega
  · have h₁ := first.shorter
    have h₂ := c.shorter
    omega

/-- The members of an object that is not empty, and its closing brace. -/
def members? (depth : Nat) (cs : List Char) :
    Option (Parsed Char (List (String × Json)) cs.length) := do
  let first ← member? depth cs
  let c ← next? first.rest
  if c.value = ',' then do
    let more ← members? depth c.rest
    return ⟨first.value :: more.value, more.rest,
      Nat.lt_trans more.shorter (Nat.lt_trans c.shorter first.shorter)⟩
  else if c.value = '\x7d' then
    return ⟨[first.value], c.rest, Nat.lt_trans c.shorter first.shorter⟩
  else none
termination_by 3 * cs.length + 2
decreasing_by
  · omega
  · have h₁ := first.shorter
    have h₂ := c.shorter
    omega

/-- A member of an object: its key, a colon and its value. -/
def member? (depth : Nat) (cs : List Char) : Option (Parsed Char (String × Json) cs.length) := do
  let quote ← next? cs
  if quote.value = '"' then do
    let key ← stringTail? quote.rest
    let colon ← next? key.rest
    if colon.value = ':' then do
      let v ← value? depth colon.rest
      return ⟨(String.ofList key.value, v.value), v.rest,
        Nat.lt_trans v.shorter (Nat.lt_trans colon.shorter
          (Nat.lt_trans key.shorter quote.shorter))⟩
    else none
  else none
termination_by 3 * cs.length + 1
decreasing_by
  have h₁ := quote.shorter
  have h₂ := key.shorter
  have h₃ := colon.shorter
  omega

end

/-- **The value of a JSON text**, `none` if it is not one. -/
def read? (cs : List Char) : Option Json := do
  let v ← value? maxDepth cs
  match skip v.rest with
  | [] => some v.value
  | _ => none

/-- The value of a JSON text. -/
def ofText? (text : String) : Option Json := read? text.toList

end EventFilter.Json
