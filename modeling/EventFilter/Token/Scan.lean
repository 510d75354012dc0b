import EventFilter.Outcomes
import EventFilter.SyntaxError
import EventFilter.Text.Alphabetic
import EventFilter.Text.Blank

/-!
# From characters to tokens

`scan` reads one token at the first character of a text, and `lexemes` reads them all, skipping
blank characters between them. A character that begins no token, and a string literal that does not
end, are errors that take up a stretch of the text as a token does, and reading goes on behind
them. Main statements: whatever is read and what is left make up the text (`scan_append`), and
something is always read (`scan_text_ne_nil`), so that reading ends.

A string literal stands between two apostrophes or two quotation marks. Inside it, the quote is
written twice or behind a backslash. A pair of backslashes stays a pair, and any other backslash
stays as it is, so that the escapes of a pattern reach it untouched.
-/

namespace EventFilter

/-- A token, or an error, with the stretch of the source it was read from. -/
structure Lexeme where
  token : Token
  span : Span
  deriving DecidableEq, Inhabited

namespace Token

/-- The outcome of reading one token: what was read, the characters it took, and those left. -/
structure Scanned where
  outcome : Except SyntaxError.Cause Token
  text : List Char
  rest : List Char

/-- The outcome of reading a string literal up to its closing quote: the text it denotes, the
characters it took, and those left. -/
structure StringBody where
  value : List Char
  text : List Char
  rest : List Char

/-- A string body with one more character or pair of characters in front. -/
def StringBody.cons (value text : List Char) (body : StringBody) : StringBody :=
  { body with value := value ++ body.value, text := text ++ body.text }

/-- **The rest of a string literal** behind its opening quote, `none` if it does not end. -/
def stringBody (quote : Char) : List Char → Option StringBody
  | [] => none
  | c :: cs =>
    if c = quote then
      match cs with
      | [] => some ⟨[], [c], []⟩
      | d :: ds =>
        if d = quote then (stringBody quote ds).map (.cons [quote] [c, d])
        else some ⟨[], [c], d :: ds⟩
    else if c = '\\' then
      match cs with
      | [] => none
      | d :: ds =>
        if d = '\\' then (stringBody quote ds).map (.cons [c, d] [c, d])
        else if d = quote then (stringBody quote ds).map (.cons [quote] [c, d])
        else (stringBody quote (d :: ds)).map (.cons [c] [c])
    else (stringBody quote cs).map (.cons [c] [c])

/-- The characters that open a string literal. -/
def isQuote (c : Char) : Bool := c == '\'' || c == '"'

/-- The characters that an attribute or function name can begin with. -/
def isNameStart (c : Char) : Bool := Text.isAlphabetic c || c == '_'

/-- The characters that a name can go on with. -/
def isNamePart (c : Char) : Bool := Text.isAlphanumeric c || c == '_'

/-- The token that a word is. -/
def ofWord (word : List Char) : Token :=
  match Keyword.ofText? (String.ofList word) with
  | some k => .keyword k
  | none => .identifier (String.ofList word)

/-- **The token at the first character of a text.** -/
def scan (c : Char) (cs : List Char) : Scanned :=
  match Symbol.spellings.find? (·.1.isPrefixOf (c :: cs)) with
  | some (text, s) => ⟨.ok (.symbol s), text, (c :: cs).drop text.length⟩
  | none =>
    if isQuote c then
      match stringBody c cs with
      | some body => ⟨.ok (.string (String.ofList body.value)), c :: body.text, body.rest⟩
      | none => ⟨.error .unterminatedString, c :: cs, []⟩
    else if isNameStart c then
      let word := c :: cs.takeWhile isNamePart
      ⟨.ok (ofWord word), word, cs.dropWhile isNamePart⟩
    else if c.isDigit then
      let digits := c :: cs.takeWhile Char.isDigit
      ⟨.ok (.number (String.ofList digits)), digits, cs.dropWhile Char.isDigit⟩
    else ⟨.error (.unexpectedCharacter c), [c], cs⟩

/-- What a string literal takes and what it leaves make up the text. -/
theorem stringBody_append {quote : Char} {cs : List Char} {body : StringBody}
    (h : stringBody quote cs = some body) : body.text ++ body.rest = cs := by
  fun_induction stringBody quote cs generalizing body with
  | case1 => cases h
  | case2 => cases h; rfl
  | case3 ds ih =>
    obtain ⟨b, hb, rfl⟩ := Option.map_eq_some_iff.mp h
    simp [StringBody.cons, ih hb]
  | case4 => cases h; rfl
  | case5 => cases h
  | case6 ds _ ih =>
    obtain ⟨b, hb, rfl⟩ := Option.map_eq_some_iff.mp h
    simp [StringBody.cons, ih hb]
  | case7 ds _ _ ih =>
    obtain ⟨b, hb, rfl⟩ := Option.map_eq_some_iff.mp h
    simp [StringBody.cons, ih hb]
  | case8 _ d ds _ _ ih =>
    obtain ⟨b, hb, rfl⟩ := Option.map_eq_some_iff.mp h
    simp [StringBody.cons, ih hb]
  | case9 c cs _ _ ih =>
    obtain ⟨b, hb, rfl⟩ := Option.map_eq_some_iff.mp h
    simp [StringBody.cons, ih hb]

/-- **What is read and what is left make up the text.** -/
theorem scan_append (c : Char) (cs : List Char) :
    (scan c cs).text ++ (scan c cs).rest = c :: cs := by
  unfold scan
  split
  · rename_i text s h
    have hp := List.find?_some h
    have hp := List.isPrefixOf_iff_prefix.mp hp
    obtain ⟨rest, hr⟩ := hp
    simp only at hr ⊢
    rw [← hr]
    simp
  · split
    · split
      · rename_i body h
        simp [stringBody_append h]
      · simp
    · split
      · simp
      · split <;> simp

/-- Something is always read. -/
theorem scan_text_ne_nil (c : Char) (cs : List Char) : (scan c cs).text ≠ [] := by
  unfold scan
  split
  · rename_i text s h
    have hm := List.mem_of_find?_eq_some h
    revert hm
    simp only [Symbol.spellings]
    intro hm htext
    subst htext
    simp at hm
  · split
    · split <;> simp
    · split
      · simp
      · split <;> simp

/-- Less is left than there was. -/
theorem length_rest_scan_lt (c : Char) (cs : List Char) :
    (scan c cs).rest.length < (c :: cs).length := by
  have h := congrArg List.length (scan_append c cs)
  have hpos := List.length_pos_iff.mpr (scan_text_ne_nil c cs)
  simp only [List.length_append] at h
  omega

end Token

namespace Source

/-- The tokens and errors of what is left of a source behind the offset `offset`. -/
def lexemesFrom (source : Source) (offset : Nat) (cs : List Char) :
    List (Except SyntaxError Lexeme) :=
  match _hcs : cs.dropWhile Text.isBlank with
  | [] => []
  | c :: cs' =>
    let start := offset + Text.byteLength (cs.takeWhile Text.isBlank)
    let scanned := Token.scan c cs'
    let stop := start + Text.byteLength scanned.text
    let span : Span := { source, start, stop }
    let lexeme : Except SyntaxError Lexeme :=
      match scanned.outcome with
      | .ok token => .ok { token, span }
      | .error cause => .error { cause, span }
    lexeme :: lexemesFrom source stop scanned.rest
termination_by cs.length
decreasing_by
  have h₁ := Token.length_rest_scan_lt c cs'
  have h₂ := (List.dropWhile_suffix (l := cs) Text.isBlank).length_le
  rw [_hcs] at h₂
  exact Nat.lt_of_lt_of_le h₁ h₂

/-- **The tokens and errors of a source**, in order. -/
def lexemes (source : Source) : List (Except SyntaxError Lexeme) :=
  source.lexemesFrom 0 source.chars

/-- The empty span behind the last character of a source. -/
def ending (source : Source) : Span := { source, start := source.length, stop := source.length }

/-- The tokens of a source, or its first error. -/
def tokens (source : Source) : Except SyntaxError (List Lexeme) := collect source.lexemes

end Source

end EventFilter
