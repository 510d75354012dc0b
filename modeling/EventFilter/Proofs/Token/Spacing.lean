import Mathlib.Data.List.Find
import EventFilter.Proofs.Token.Edges

/-!
# Spacing

Every token is read by itself as soon as something that cannot go on it stands behind: a blank, a
parenthesis or a comma goes on no token whatever (`Token.Closes`). So texts that are read without an
error can be put one behind the other at such a place (`Token.lex_append`), and the blanks around
tokens can be exchanged for any others.
Main statement: the texts of the tokens of a source, with any blanks around them, are read as these
tokens, and so is each of them alone (`Source.tokens_of_spacing`).
-/

namespace EventFilter

namespace Token

variable {quote c : Char} {cs text rest more : List Char} {token : Token} {tokens : List Token}

/-! ### Characters that end tokens -/

/-- **A character that goes on no token.** -/
structure Closes (c : Char) : Prop where
  isNamePart : isNamePart c = false
  isDigit : c.isDigit = false
  isQuote : isQuote c = false
  ne_equal : c ≠ '='
  ne_greater : c ≠ '>'

/-- A blank goes on no token. -/
theorem closes_of_isBlank (h : Text.isBlank c = true) : Closes c where
  isNamePart := isNamePart_of_isBlank h
  isDigit := by
    by_contra hc
    rw [(of_isDigit (Bool.not_eq_false _ ▸ hc)).1] at h
    cases h
  isQuote := by
    by_contra hc
    rw [Bool.not_eq_false, Token.isQuote, Bool.or_eq_true, beq_iff_eq, beq_iff_eq] at hc
    rcases hc with rfl | rfl <;> cases h
  ne_equal := by
    rintro rfl
    cases h
  ne_greater := by
    rintro rfl
    cases h

/-- A delimiter goes on no token. -/
theorem closes_of_mem_delimiters (h : c ∈ delimiters) : Closes c := by
  obtain ⟨hname, hdigit, hquote⟩ := of_mem_delimiters h
  refine ⟨hname, hdigit, hquote, ?_, ?_⟩
  · rintro rfl
    exact absurd h (by decide)
  · rintro rfl
    exact absurd h (by decide)

/-- **A text that goes on no token before it.** -/
def Closed (rest : List Char) : Prop := ∀ c ∈ rest.head?, Closes c

/-- What does not stop before the end of a text goes on behind it. -/
theorem takeWhile_and_dropWhile_append {p : Char → Bool} (hmore : ∀ d ∈ more.head?, p d = false)
    (cs : List Char) : (cs ++ more).takeWhile p = cs.takeWhile p ∧
      (cs ++ more).dropWhile p = cs.dropWhile p ++ more := by
  induction cs with
  | nil => exact span_append rfl hmore
  | cons c cs ih =>
    cases hc : p c with
    | true => simp [hc, ih.1, ih.2]
    | false => simp [hc]

/-- A character that goes on no symbol does not complete one. -/
theorem isPrefixOf_append_of_closed {tail : List Char} (htail : tail ∈ [[], ['='], ['>']])
    (hmore : Closed more) : tail.isPrefixOf (cs ++ more) = tail.isPrefixOf cs := by
  have hnot : ∀ d ∈ more.head?, ('=' == d) = false ∧ ('>' == d) = false := fun d hd =>
    ⟨beq_false_of_ne (hmore d hd).ne_equal.symm, beq_false_of_ne (hmore d hd).ne_greater.symm⟩
  simp only [List.mem_cons, List.not_mem_nil, or_false] at htail
  cases cs with
  | nil =>
    cases more with
    | nil => rfl
    | cons d ds =>
      obtain ⟨hequal, hgreater⟩ := hnot d rfl
      rcases htail with rfl | rfl | rfl
      · rfl
      · simp [List.isPrefixOf, hequal]
      · simp [List.isPrefixOf, hgreater]
  | cons d ds => rcases htail with rfl | rfl | rfl <;> simp [List.isPrefixOf]

/-- A symbol is the same before a text that goes on no token. -/
theorem find?_spellings_append (hmore : Closed more) :
    Symbol.spellings.find? (·.1.isPrefixOf (c :: (cs ++ more))) =
      Symbol.spellings.find? (·.1.isPrefixOf (c :: cs)) := by
  -- Behind the first character of a symbol there is at most one, which goes on the symbol.
  have hshape : ∀ p ∈ Symbol.spellings, p.1 ≠ [] ∧ p.1.tail ∈ [[], ['='], ['>']] := by
    decide +kernel
  apply List.find?_congr
  intro p hp
  obtain ⟨hne, htail⟩ := hshape p hp
  obtain ⟨d, ds, hds⟩ := List.exists_cons_of_ne_nil hne
  rw [hds, List.tail_cons] at htail
  rw [hds, List.isPrefixOf_cons_cons, List.isPrefixOf_cons_cons,
    isPrefixOf_append_of_closed htail hmore]

/-- A string literal that ends is the same before a text that does not begin with its quote. -/
theorem stringBody_append_of_closed {body : StringBody} (h : stringBody quote cs = some body)
    (hmore : ∀ d ∈ more.head?, d ≠ quote) :
    stringBody quote (cs ++ more) = some { body with rest := body.rest ++ more } := by
  have hrest : ∀ d ∈ (body.rest ++ more).head?, d ≠ quote := by
    intro d hd
    cases hbody : body.rest with
    | nil =>
      rw [hbody] at hd
      exact hmore d hd
    | cons d' ds =>
      rw [hbody] at hd
      exact head?_rest_of_stringBody h d (hbody ▸ hd)
  rw [← stringBody_append h, List.append_assoc, stringBody_text_append h hrest]

/-- **A token is the same before a text that goes on no token.** -/
theorem scan_append_of_closed (h : scan c cs = ⟨.ok token, text, rest⟩) (hmore : Closed more) :
    scan c (cs ++ more) = ⟨.ok token, text, rest ++ more⟩ := by
  unfold scan at h ⊢
  rw [find?_spellings_append hmore]
  split at h
  · rename_i spelled s hfind
    obtain ⟨htoken, rfl, rfl⟩ := Scanned.mk.inj h
    have hbegins := List.find?_some hfind
    have hprefix : spelled <+: c :: cs := List.isPrefixOf_iff_prefix.mp hbegins
    rw [← List.cons_append, List.drop_append_of_le_length hprefix.length_le, htoken]
  split at h
  · rename_i hquote
    split at h
    · rename_i body hbody
      obtain ⟨htoken, htext, hrest⟩ := Scanned.mk.inj h
      have hend : ∀ d ∈ more.head?, d ≠ c := by
        rintro d hd rfl
        rw [(hmore d hd).isQuote] at hquote
        cases hquote
      simp only [hquote, if_true, stringBody_append_of_closed hbody hend, htoken, htext, hrest]
    · cases (Scanned.mk.inj h).1
  rename_i hquote
  split at h
  · rename_i hstart
    obtain ⟨htoken, rfl, rfl⟩ := Scanned.mk.inj h
    obtain ⟨htake, hdrop⟩ := takeWhile_and_dropWhile_append (fun d hd => (hmore d hd).isNamePart) cs
    simp only [hquote, hstart, Bool.false_eq_true, if_false, if_true, htake, hdrop, htoken]
  rename_i hstart
  split at h
  · rename_i hdigit
    obtain ⟨htoken, rfl, rfl⟩ := Scanned.mk.inj h
    obtain ⟨htake, hdrop⟩ := takeWhile_and_dropWhile_append (fun d hd => (hmore d hd).isDigit) cs
    simp only [hquote, hstart, hdigit, Bool.false_eq_true, if_false, if_true, htake, hdrop,
      htoken]
  · cases (Scanned.mk.inj h).1

/-! ### Texts behind one another -/

/-- **Texts behind one another**: the tokens of a text that is read without an error are the same
before a text that goes on none of them, and then its tokens follow. -/
theorem lex_append (h : lex cs = tokens.map .ok) (hmore : Closed more) :
    lex (cs ++ more) = lex cs ++ lex more := by
  induction cs using lexInduction generalizing tokens with
  | blanks cs hblanks => rw [lex_blanks hblanks, lex_blanks_append hblanks, List.nil_append]
  | first blanks c cs hblanks hc ih =>
    rw [lex_blanks_append hblanks, lex_cons hc] at h
    obtain ⟨token, tokens, rfl, htoken, htokens⟩ := List.map_eq_cons_iff.mp h.symm
    have hscan : scan c cs = ⟨.ok token, (scan c cs).text, (scan c cs).rest⟩ := by
      rw [htoken]
    rw [List.append_assoc, lex_blanks_append hblanks, lex_blanks_append hblanks, List.cons_append,
      lex_cons hc, lex_cons hc, scan_append_of_closed hscan hmore, List.cons_append,
      ← ih htokens.symm, htoken]

/-- A delimiter goes on no text that is read without an error. -/
theorem lex_append_delimiter (h : lex cs = tokens.map .ok) (hc : c ∈ delimiters)
    (rest : List Char) : lex (cs ++ c :: rest) = tokens.map .ok ++ lex (c :: rest) := by
  rw [← h]
  apply lex_append h
  rintro _ ⟨⟩
  exact closes_of_mem_delimiters hc

/-- Blanks behind a text that is read without an error add nothing. -/
theorem lex_append_blanks {blanks : List Char} (h : lex cs = tokens.map .ok)
    (hblanks : blanks.all Text.isBlank = true) : lex (cs ++ blanks) = tokens.map .ok := by
  rw [lex_append h, lex_blanks hblanks, List.append_nil, h]
  intro c hc
  exact closes_of_isBlank (List.all_eq_true.mp hblanks c (List.mem_of_head? hc))

/-! ### Single tokens -/

/-- **A text that is read as one token** from its first character to its last. -/
def ReadsAs (text : List Char) (token : Token) : Prop :=
  ∃ c cs, text = c :: cs ∧ Text.isBlank c = false ∧ scan c cs = ⟨.ok token, c :: cs, []⟩

end Token

namespace Source

variable {source : Source} {offset : Nat} {front cs : List Char} {ts : List Lexeme}

/-- The tokens of a part of a source are read from their texts. -/
theorem Tiles.readsAs_of_append (h : source.Tiles offset cs ts)
    (hoffset : offset = Text.byteLength front) (hchars : source.chars = front ++ cs) :
    ∀ t ∈ ts, Token.ReadsAs t.span.text.toList t.token := by
  induction h generalizing front with
  | nil => exact nofun
  | @token offset blanks c cs rest ts token hblanks hc hscan _ ih =>
    subst hoffset
    rw [← List.append_assoc] at hchars
    have htext := Span.text_eq_of_append hchars
    rw [Text.byteLength_append] at htext
    have hoffset : Text.byteLength front + Text.byteLength blanks + Text.byteLength (c :: cs) =
        Text.byteLength (front ++ blanks ++ (c :: cs)) := by
      rw [Text.byteLength_append, Text.byteLength_append]
    have hrest : source.chars = front ++ blanks ++ (c :: cs) ++ rest := by
      rw [hchars, List.append_assoc (front ++ blanks)]
    refine List.forall_mem_cons.mpr ⟨⟨c, cs, ?_, hc, Token.scan_alone hscan⟩, ih hoffset hrest⟩
    rw [htext, String.toList_ofList]

/-- **Each token is read from its text.** -/
theorem readsAs_of_mem_tokens (h : source.tokens = .ok ts) :
    ∀ t ∈ ts, Token.ReadsAs t.span.text.toList t.token := by
  have hchars : source.chars = [] ++ source.chars := rfl
  exact (tokens_eq_ok_iff_tiles.mp h).readsAs_of_append Text.byteLength_nil.symm hchars

end Source

/-! ### Spacings -/

/-- **A spacing of tokens**: blanks before each of them, which may only be missing before the first,
and blanks behind the last. -/
structure Spacing (ts : List Lexeme) where
  words : List (List Char × Lexeme)
  last : List Char
  map_snd_words : words.map (·.2) = ts
  blank_words : ∀ w ∈ words, w.1.all Text.isBlank = true
  blank_last : last.all Text.isBlank = true
  apart : ∀ w ∈ words.tail, w.1 ≠ []

/-- The text of some words, each behind its blanks, and then of the blanks at the end. -/
def spacedText (words : List (List Char × Lexeme)) (last : List Char) : List Char :=
  words.flatMap (fun w => w.1 ++ w.2.span.text.toList) ++ last

namespace Source

variable {source : Source} {front last : List Char} {ts : List Lexeme}
  {words : List (List Char × Lexeme)}

/-- Blanks, if there are any, and whatever follows go on no token. -/
theorem closed_append_of_isBlank {blanks rest : List Char} (h : blanks.all Text.isBlank = true)
    (hrest : blanks = [] → rest = []) : Token.Closed (blanks ++ rest) := by
  cases blanks with
  | nil => rw [hrest rfl]; exact nofun
  | cons c blanks =>
    rw [List.all_cons, Bool.and_eq_true] at h
    rintro _ ⟨⟩
    exact Token.closes_of_isBlank h.1

/-- The words behind a token, with their blanks, do not go on that token. -/
theorem closed_spacedText (hwords : ∀ w ∈ words, w.1.all Text.isBlank = true)
    (happart : ∀ w ∈ words, w.1 ≠ []) (hlast : last.all Text.isBlank = true) :
    Token.Closed (spacedText words last) := by
  cases words with
  | nil =>
    have hclosed : Token.Closed (last ++ []) := closed_append_of_isBlank hlast fun _ => rfl
    rwa [List.append_nil] at hclosed
  | cons w words =>
    rw [spacedText, List.flatMap_cons, List.append_assoc, List.append_assoc]
    exact closed_append_of_isBlank (hwords w List.mem_cons_self)
      fun h => absurd h (happart w List.mem_cons_self)

/-- **Words with blanks between them are a tiling** with the tokens that the words are read as. -/
theorem exists_tiles_spacedText (hwords : ∀ w ∈ words, w.1.all Text.isBlank = true)
    (hread : ∀ w ∈ words, Token.ReadsAs w.2.span.text.toList w.2.token)
    (happart : ∀ w ∈ words.tail, w.1 ≠ []) (hlast : last.all Text.isBlank = true)
    (hchars : source.chars = front ++ spacedText words last) :
    ∃ ts, source.Tiles (Text.byteLength front) (spacedText words last) ts ∧
      ts.map (fun t => (t.token, t.span.text)) =
        words.map (fun w => (w.2.token, w.2.span.text)) := by
  induction words generalizing front with
  | nil => exact ⟨[], .nil hlast, rfl⟩
  | cons w words ih =>
    obtain ⟨c, cs, htext, hc, hscan⟩ := hread w List.mem_cons_self
    have hblank := hwords w List.mem_cons_self
    have hrest := closed_spacedText (List.forall_mem_cons.mp hwords).2 happart hlast
    have hsplit : spacedText (w :: words) last = w.1 ++ (c :: cs ++ spacedText words last) := by
      rw [spacedText, List.flatMap_cons, htext, spacedText]
      simp
    rw [hsplit] at hchars ⊢
    rw [← List.append_assoc] at hchars
    have hspan := Span.text_eq_of_append hchars
    have hfront : source.chars = front ++ w.1 ++ (c :: cs) ++ spacedText words last := by
      rw [hchars, List.append_assoc (front ++ w.1)]
    obtain ⟨ts, htiles, hts⟩ := ih (List.forall_mem_cons.mp hwords).2
      (List.forall_mem_cons.mp hread).2 (fun w hw => happart w (List.mem_of_mem_tail hw)) hfront
    rw [Text.byteLength_append, Text.byteLength_append] at htiles
    rw [Text.byteLength_append] at hspan
    refine ⟨_, .token hblank hc (Token.scan_append_of_closed hscan hrest) htiles, ?_⟩
    rw [List.map_cons, List.map_cons, hts, hspan, ← htext, String.ofList_toList]

/-- Tokens that are read from their texts are the tokens of a source. -/
theorem exists_tokens_of_readsAs (h : ∀ t ∈ ts, Token.ReadsAs t.span.text.toList t.token) :
    ∃ (source : Source) (ts' : List Lexeme), source.tokens = .ok ts' ∧
      ts'.map (·.token) = ts.map (·.token) := by
  let words : List (List Char × Lexeme) := ts.map fun t => ([' '], t)
  have hwords : ∀ w ∈ words, ∃ t ∈ ts, ([' '], t) = w := fun w hw => List.mem_map.mp hw
  have hblank : ∀ w ∈ words, w.1.all Text.isBlank = true := by
    intro w hw
    obtain ⟨t, -, rfl⟩ := hwords w hw
    rfl
  have hread : ∀ w ∈ words, Token.ReadsAs w.2.span.text.toList w.2.token := by
    intro w hw
    obtain ⟨t, ht, rfl⟩ := hwords w hw
    exact h t ht
  have happart : ∀ w ∈ words.tail, w.1 ≠ [] := by
    intro w hw
    obtain ⟨t, -, rfl⟩ := hwords w (List.mem_of_mem_tail hw)
    exact List.cons_ne_nil _ _
  let source : Source := ⟨0, String.ofList (spacedText words [])⟩
  have hchars : source.chars = [] ++ spacedText words [] := String.toList_ofList
  obtain ⟨ts', htiles, hts'⟩ := exists_tiles_spacedText hblank hread happart rfl hchars
  refine ⟨source, ts', tokens_eq_ok_iff_tiles.mpr ?_, ?_⟩
  · rw [hchars]
    exact htiles
  · have htokens := congrArg (List.map Prod.fst) hts'
    rwa [List.map_map, List.map_map, List.map_map] at htokens

/-- **Spacing does not matter**: the texts of the tokens of a source, with any other blanks around
them, are read as the same tokens, and so is each of them alone. -/
theorem tokens_of_spacing (h : source.tokens = .ok ts) (spacing : Spacing ts) (id : Nat) :
    (∃ ts',
      (Source.mk id (String.ofList (spacedText spacing.words spacing.last))).tokens = .ok ts' ∧
      ts'.map (fun t => (t.token, t.span.text)) = ts.map fun t => (t.token, t.span.text)) ∧
    ∀ t ∈ ts, let alone : Source := ⟨id, t.span.text⟩
      alone.tokens = .ok [⟨t.token, alone, 0, alone.length⟩] := by
  obtain ⟨words, last, rfl, hwords, hlast, happart⟩ := spacing
  have hread := readsAs_of_mem_tokens h
  refine ⟨?_, ?_⟩
  · have hread' : ∀ w ∈ words, Token.ReadsAs w.2.span.text.toList w.2.token :=
      fun w hw => hread w.2 (List.mem_map_of_mem hw)
    have hchars : (Source.mk id (String.ofList (spacedText words last))).chars =
        [] ++ spacedText words last := String.toList_ofList
    obtain ⟨ts', htiles, hts⟩ := exists_tiles_spacedText hwords hread' happart hlast hchars
    refine ⟨ts', tokens_eq_ok_iff_tiles.mpr ?_, ?_⟩
    · rw [hchars]
      exact htiles
    · rw [hts, List.map_map]
      rfl
  · intro t ht alone
    obtain ⟨c, cs, htext, hc, hscan⟩ := hread t ht
    have hchars : alone.chars = [] ++ (c :: cs ++ []) := by
      rw [List.append_nil]
      exact htext
    have hlength : alone.length = 0 + Text.byteLength [] + Text.byteLength (c :: cs) := by
      rw [Source.length, hchars]
      simp
    have hscan : Token.scan c (cs ++ []) = ⟨.ok t.token, c :: cs, []⟩ := by
      rw [List.append_nil, hscan]
    rw [tokens_eq_ok_iff_tiles, hchars, hlength]
    exact .token rfl hc hscan (.nil rfl)

/-- Tokens without blanks between them, and then with some. -/
theorem tokens_of_spacing_wide :
    let source : Source := ⟨0, "é<>'x'"⟩
    let wide : Source := ⟨1, "é\u2003<> 'x'\n"⟩
    ∃ ts, source.tokens = .ok ts ∧ ∃ ts', wide.tokens = .ok ts' ∧
      ts'.map (fun t => (t.token, t.span.text)) = ts.map fun t => (t.token, t.span.text) := by
  intro source wide
  let name : Lexeme := ⟨.identifier "é", source, 0, 2⟩
  let unequal : Lexeme := ⟨.symbol .notEqual, source, 2, 4⟩
  let literal : Lexeme := ⟨.string "x", source, 4, 7⟩
  have htokens : source.tokens = .ok [name, unequal, literal] := by decide +kernel
  let spacing : Spacing [name, unequal, literal] := {
    words := [([], name), (['\u2003'], unequal), ([' '], literal)]
    last := ['\n']
    map_snd_words := rfl
    blank_words := by decide +kernel
    blank_last := by decide +kernel
    apart := by decide }
  have htext : String.ofList (spacedText spacing.words spacing.last) = wide.text := by
    decide +kernel
  have hspaced := (tokens_of_spacing htokens spacing 1).1
  rw [htext] at hspaced
  exact ⟨_, htokens, hspaced⟩

end Source

end EventFilter
