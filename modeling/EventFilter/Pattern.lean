/-!
# LIKE patterns

In a pattern `%` stands for any run of characters, `_` for any one character, and `\` takes its
special meaning from the `%`, `_` or `\` behind it; every other character stands for itself. A
pattern is compared with whole texts. Matching walks over the pattern once, from its end, and keeps
for every place of the text whether the rest of the pattern matches what is left of the text there,
so its cost is the product of the two lengths whatever the pattern. Main statement: a pattern is
determined by its text (`Pattern.eq_of_text_eq`).
-/

namespace EventFilter

/-- One item of a pattern. -/
inductive PatternItem
  | anyRun
  | anyChar
  | char (c : Char)
  deriving DecidableEq, Inhabited

/-- What is wrong with the text of a pattern. -/
inductive PatternError
  | danglingEscape
  | invalidEscape (c : Char)
  deriving DecidableEq, Inhabited

/-- What a bad pattern is reported with. -/
def PatternError.message : PatternError → String
  | .danglingEscape => "LIKE pattern ends with a dangling escape"
  | .invalidEscape c => "invalid escape sequence '\\" ++ c.toString ++ "' in LIKE pattern"

namespace PatternItem

/-- The characters that a backslash can be put before. -/
def isSpecial (c : Char) : Bool := c == '%' || c == '_' || c == '\\'

/-- **The items of a pattern**, read from left to right up to the first bad escape. -/
def read : List Char → Except PatternError (List PatternItem)
  | [] => .ok []
  | '%' :: cs => (read cs).map (.anyRun :: ·)
  | '_' :: cs => (read cs).map (.anyChar :: ·)
  | ['\\'] => .error .danglingEscape
  | '\\' :: c :: cs =>
    if isSpecial c then (read cs).map (.char c :: ·) else .error (.invalidEscape c)
  | c :: cs => (read cs).map (.char c :: ·)

/-- For every place of a list, whether it holds at that place or later. -/
def laterOr (rest : List Bool) : List Bool :=
  rest.foldr (fun b later => (b || later.headD false) :: later) []

/-- For every place of the text `cs`, whether an item followed by more items matches what is left
of the text there, given the same for the items that follow. -/
def extend (item : PatternItem) (cs : List Char) (rest : List Bool) : List Bool :=
  match item with
  | .anyRun => laterOr rest
  | .anyChar => rest.tail ++ [false]
  | .char c => cs.zipWith (fun d later => d == c && later) rest.tail ++ [false]

/-- For every place of the text `cs`, its end included, whether the items match what is left of the
text there. -/
def matchesFrom (items : List PatternItem) (cs : List Char) : List Bool :=
  items.foldr (fun item rest => item.extend cs rest) (cs.map (fun _ => false) ++ [true])

end PatternItem

/-- **A pattern**: its text, and the items that the text reads as. -/
structure Pattern where
  text : String
  items : List PatternItem
  read_text : PatternItem.read text.toList = .ok items
  deriving DecidableEq

namespace Pattern

/-- The pattern with a given text. -/
def ofText (text : String) : Except PatternError Pattern :=
  match h : PatternItem.read text.toList with
  | .ok items => .ok { text, items, read_text := h }
  | .error e => .error e

/-- **Whether a pattern matches a whole text.** -/
def accepts (p : Pattern) (text : String) : Bool :=
  (PatternItem.matchesFrom p.items text.toList).headD false

/-- A pattern is determined by its text. -/
theorem eq_of_text_eq {p q : Pattern} (h : p.text = q.text) : p = q := by
  obtain ⟨text, items, hp⟩ := p
  obtain ⟨text', items', hq⟩ := q
  cases h
  have : items = items' := Except.ok.inj (hp.symm.trans hq)
  cases this
  rfl

/-- Patterns are the same if their texts are. -/
instance : BEq Pattern := ⟨fun p q => p.text == q.text⟩

/-- The text of a pattern is the one it is made from. -/
theorem text_of_ofText {text : String} {p : Pattern} (h : ofText text = .ok p) : p.text = text := by
  unfold ofText at h
  split at h
  · cases h; rfl
  · cases h

/-- The text of a pattern is a valid pattern. -/
theorem ofText_text (p : Pattern) : ofText p.text = .ok p := by
  unfold ofText
  split
  · exact congrArg Except.ok (eq_of_text_eq rfl)
  · rename_i e herr
    rw [p.read_text] at herr
    cases herr

/-- **A text makes the pattern that has it.** -/
theorem ofText_eq_ok_iff {text : String} {p : Pattern} : ofText text = .ok p ↔ p.text = text := by
  constructor
  · exact text_of_ofText
  · rintro rfl
    exact p.ofText_text

end Pattern

end EventFilter
