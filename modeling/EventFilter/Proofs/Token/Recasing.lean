import EventFilter.Proofs.Token.Case

/-!
# Letters in another case

In a keyword, and in a name before an opening parenthesis, the case of letters does not matter
(`Source.IgnoresCaseAt`); everywhere else it does. A source that differs from another one in the
case of letters at such places only (`Source.Recased`) is cut into tokens at the same places, and
the tokens are the same but for the names before parentheses (`Respelled`).
Main statement: of two sources that are the same but for the case of letters, both have tokens if
one has, and they differ at such places only if their tokens differ in such names only
(`Source.exists_tokens_of_map_toUpper_eq`).
-/

namespace EventFilter

/-- A span at the same offsets of another source. -/
def Span.moveTo (source : Source) (s : Span) : Span := { s with source }

/-! ### Tokens in another case -/

/-- **Tokens that differ in the case of names before parentheses** and in nothing else. -/
inductive Respelled : List Lexeme → List Lexeme → Prop
  | nil : Respelled [] []
  | same (t : Lexeme) {ts us} : Respelled ts us → Respelled (t :: ts) (t :: us)
  | call {name name' s s' ts us} : Text.asciiUpper name' = Text.asciiUpper name →
      Respelled ts us →
      Respelled (⟨.identifier name, s⟩ :: ⟨.symbol .leftParen, s'⟩ :: ts)
        (⟨.identifier name', s⟩ :: ⟨.symbol .leftParen, s'⟩ :: us)

namespace Respelled

variable {t : Lexeme} {ts us vs : List Lexeme}

/-- Tokens differ from each other. -/
theorem symm (h : Respelled ts us) : Respelled us ts := by
  induction h with
  | nil => exact .nil
  | same t _ ih => exact .same t ih
  | call hname _ ih => exact .call hname.symm ih

/-- Tokens differ in the same way wherever they stand. -/
theorem mapSpan (f : Span → Span) (h : Respelled ts us) :
    Respelled (ts.map (·.mapSpan f)) (us.map (·.mapSpan f)) := by
  induction h with
  | nil => exact .nil
  | same t _ ih => exact .same _ ih
  | call hname _ ih => exact .call hname ih

/-- Where there are tokens, there are some in another case. -/
theorem ne_nil (h : Respelled ts us) (hts : ts ≠ []) : us ≠ [] := by
  cases h with
  | nil => exact hts
  | same | call => exact List.cons_ne_nil _ _

/-- A token that is no name is the same. -/
theorem exists_of_cons (h : Respelled (t :: ts) us) (ht : ∀ name, t.token ≠ .identifier name) :
    ∃ vs, us = t :: vs ∧ Respelled ts vs := by
  cases h with
  | same _ h => exact ⟨_, rfl, h⟩
  | call => exact absurd rfl (ht _)

/-- A token alone is the same. -/
theorem eq_singleton (h : Respelled [t] us) : us = [t] := by
  cases h with
  | same _ h =>
    cases h
    rfl

/-- A name before a parenthesis may be in another case. -/
theorem exists_of_call {name : String} {s s' : Span}
    (h : Respelled (⟨.identifier name, s⟩ :: ⟨.symbol .leftParen, s'⟩ :: ts) us) :
    ∃ name' vs, us = ⟨.identifier name', s⟩ :: ⟨.symbol .leftParen, s'⟩ :: vs ∧
      Text.asciiUpper name' = Text.asciiUpper name ∧ Respelled ts vs := by
  cases h with
  | same _ h =>
    obtain ⟨vs, rfl, hvs⟩ := h.exists_of_cons nofun
    exact ⟨name, vs, rfl, rfl, hvs⟩
  | call hname h => exact ⟨_, _, rfl, hname, h⟩

/-- A token is the same, or is a name before a parenthesis. -/
theorem of_cons_cons {u : Lexeme} (h : Respelled (t :: ts) (u :: us)) : Respelled ts us ∧
    (u = t ∨ ∃ name s vs, t.token = .identifier name ∧ ts = ⟨.symbol .leftParen, s⟩ :: vs) := by
  cases h with
  | same _ h => exact ⟨h, .inl rfl⟩
  | call _ h => exact ⟨.same _ h, .inr ⟨_, _, _, rfl, rfl⟩⟩

/-- **Tokens can be cut** before any token but an opening parenthesis. -/
theorem exists_of_append (h : Respelled (ts ++ us) vs)
    (hus : ∀ t ∈ us.head?, t.token ≠ .symbol .leftParen) :
    ∃ ts' us', vs = ts' ++ us' ∧ Respelled ts ts' ∧ Respelled us us' := by
  generalize hws : ts ++ us = ws at h
  induction h generalizing ts with
  | nil =>
    obtain ⟨rfl, rfl⟩ := List.append_eq_nil_iff.mp hws
    exact ⟨[], [], rfl, .nil, .nil⟩
  | @same t ws vs h ih =>
    cases ts with
    | nil =>
      obtain rfl : us = t :: ws := hws
      exact ⟨[], t :: vs, rfl, .nil, .same t h⟩
    | cons t' ts =>
      obtain ⟨rfl, htail⟩ := List.cons.inj hws
      obtain ⟨ts', us', rfl, hts, hus'⟩ := ih htail
      exact ⟨t' :: ts', us', rfl, .same t' hts, hus'⟩
  | @call name name' s s' ws vs hname h ih =>
    match ts with
    | [] =>
      obtain rfl : us = _ :: _ :: ws := hws
      exact ⟨[], _, rfl, .nil, .call hname h⟩
    | [t] =>
      obtain ⟨-, rfl⟩ := List.cons.inj hws
      exact absurd rfl (hus _ rfl)
    | t :: t' :: ts =>
      obtain ⟨rfl, rfl, htail⟩ : t = _ ∧ t' = _ ∧ ts ++ us = ws := by simpa using hws
      obtain ⟨ts', us', rfl, hts, hus'⟩ := ih htail
      exact ⟨_ :: _ :: ts', us', rfl, .call hname hts, hus'⟩

/-- Tokens can be cut at a token that is no name and no opening parenthesis. -/
theorem exists_of_append_cons (h : Respelled (ts ++ t :: us) vs)
    (hname : ∀ name, t.token ≠ .identifier name) (hparen : t.token ≠ .symbol .leftParen) :
    ∃ ts' us', vs = ts' ++ t :: us' ∧ Respelled ts ts' ∧ Respelled us us' := by
  have hhead : ∀ u ∈ (t :: us).head?, u.token ≠ .symbol .leftParen := by
    rintro _ ⟨⟩
    exact hparen
  obtain ⟨ts', more, rfl, hts, hmore⟩ := h.exists_of_append hhead
  obtain ⟨us', rfl, hus⟩ := hmore.exists_of_cons hname
  exact ⟨ts', us', rfl, hts, hus⟩

end Respelled

/-! ### Places where case does not matter -/

/-- Whether case does not matter in a token, given what is read behind it. -/
def Token.ignoresCase : Token → List (Except SyntaxError Lexeme) → Bool
  | .keyword _, _ => true
  | .identifier _, .ok ⟨.symbol .leftParen, _⟩ :: _ => true
  | _, _ => false

namespace Source

/-- **A place where case does not matter**: inside a keyword, or inside a name before an opening
parenthesis. -/
def IgnoresCaseAt (source : Source) (offset : Nat) : Prop :=
  ∃ before t behind, source.lexemes = before ++ .ok t :: behind ∧
    t.token.ignoresCase behind = true ∧ t.span.start ≤ offset ∧ offset < t.span.stop

/-- **A text with letters in another case**, from an offset of a source on, where case does not
matter in the source. -/
inductive RecasedFrom (source : Source) : Nat → List Char → List Char → Prop
  | nil {offset} : RecasedFrom source offset [] []
  | same {offset cs cs'} (c : Char) : RecasedFrom source (offset + c.utf8Size) cs cs' →
      RecasedFrom source offset (c :: cs) (c :: cs')
  | letter {offset c c' cs cs'} : source.IgnoresCaseAt offset → c'.toUpper = c.toUpper →
      RecasedFrom source (offset + c.utf8Size) cs cs' →
      RecasedFrom source offset (c :: cs) (c' :: cs')

/-- **A source with letters in another case**, where case does not matter. -/
def Recased (source source' : Source) : Prop := source.RecasedFrom 0 source.chars source'.chars

namespace RecasedFrom

variable {source : Source} {offset : Nat} {cs cs' as bs as' bs' : List Char}

/-- What letters are in another case, they are the same in upper case. -/
theorem map_toUpper_eq (h : source.RecasedFrom offset cs cs') :
    cs'.map Char.toUpper = cs.map Char.toUpper := by
  induction h with
  | nil => rfl
  | same c _ ih => rw [List.map_cons, List.map_cons, ih]
  | letter _ hc _ ih => rw [List.map_cons, List.map_cons, hc, ih]

/-- A text can be left as it is. -/
theorem refl (source : Source) (offset : Nat) (cs : List Char) :
    source.RecasedFrom offset cs cs := by
  induction cs generalizing offset with
  | nil => exact .nil
  | cons c cs ih => exact .same c (ih _)

/-- Two texts behind one another. -/
theorem append (h : source.RecasedFrom offset as as')
    (h' : source.RecasedFrom (offset + Text.byteLength as) bs bs') :
    source.RecasedFrom offset (as ++ bs) (as' ++ bs') := by
  induction h with
  | nil => exact h'
  | same c _ ih => exact .same c (ih (by rwa [Text.byteLength_cons, ← Nat.add_assoc] at h'))
  | letter hat hc _ ih =>
    exact .letter hat hc (ih (by rwa [Text.byteLength_cons, ← Nat.add_assoc] at h'))

/-- The parts of a text. -/
theorem of_append (h : source.RecasedFrom offset (as ++ bs) (as' ++ bs'))
    (hlength : as'.length = as.length) : source.RecasedFrom offset as as' ∧
      source.RecasedFrom (offset + Text.byteLength as) bs bs' := by
  induction as generalizing offset as' with
  | nil =>
    obtain rfl := List.eq_nil_of_length_eq_zero hlength
    exact ⟨.nil, h⟩
  | cons c as ih =>
    obtain ⟨c', as', rfl⟩ := List.exists_cons_of_length_eq_add_one hlength
    rw [Text.byteLength_cons, ← Nat.add_assoc]
    cases h with
    | same _ h =>
      obtain ⟨has, hbs⟩ := ih h (Nat.succ.inj hlength)
      exact ⟨.same c has, hbs⟩
    | letter hat hc h =>
      obtain ⟨has, hbs⟩ := ih h (Nat.succ.inj hlength)
      exact ⟨.letter hat hc has, hbs⟩

/-- Where case matters everywhere, the text is the same. -/
theorem eq (h : source.RecasedFrom offset cs cs')
    (hcase : ∀ o, offset ≤ o → o < offset + Text.byteLength cs → ¬ source.IgnoresCaseAt o) :
    cs' = cs := by
  induction h with
  | nil => rfl
  | same c _ ih =>
    rw [Text.byteLength_cons] at hcase
    rw [ih fun o hlow hhigh => hcase o (by omega) (by omega)]
  | @letter offset c c' cs cs' hat _ _ _ =>
    rw [Text.byteLength_cons] at hcase
    have hpos := c.utf8Size_pos
    exact absurd hat (hcase offset (Nat.le_refl _) (by omega))

/-- Where case matters nowhere, the letters can have any. -/
theorem of_ignoresCaseAt (h : cs'.map Char.toUpper = cs.map Char.toUpper)
    (hcase : ∀ o, offset ≤ o → o < offset + Text.byteLength cs → source.IgnoresCaseAt o) :
    source.RecasedFrom offset cs cs' := by
  induction cs generalizing offset cs' with
  | nil =>
    obtain rfl := List.map_eq_nil_iff.mp h
    exact .nil
  | cons c cs ih =>
    rw [List.map_cons] at h
    obtain ⟨c', cs', rfl, hc, htail⟩ := List.map_eq_cons_iff.mp h
    rw [Text.byteLength_cons] at hcase
    have hpos := c.utf8Size_pos
    refine .letter (hcase offset (Nat.le_refl _) (by omega)) hc ?_
    exact ih htail fun o hlow hhigh => hcase o (by omega) (by omega)

end RecasedFrom

/-! ### Texts that are cut at the same places -/

/-- **Two texts are cut at the same places**: they are the same up to the case of letters, and so
are the tokens that they are tiled with, each of which stands where the other does. -/
inductive Parallel (source source' : Source) :
    Nat → List Char → List Char → List Lexeme → List Lexeme → Prop
  | nil {offset blanks blanks'} : blanks.all Text.isBlank = true →
      blanks'.map Char.toUpper = blanks.map Char.toUpper →
      Parallel source source' offset blanks blanks' [] []
  | token {offset blanks blanks' c c' cs cs' rest rest' ts ts'} {token token' : Token} :
      blanks.all Text.isBlank = true → blanks'.map Char.toUpper = blanks.map Char.toUpper →
      Text.isBlank c = false → (c' :: cs').map Char.toUpper = (c :: cs).map Char.toUpper →
      Token.scan c (cs ++ rest) = ⟨.ok token, c :: cs, rest⟩ →
      Token.scan c' (cs' ++ rest') = ⟨.ok token', c' :: cs', rest'⟩ →
      token'.raise = token.raise →
      Parallel source source' (offset + Text.byteLength blanks + Text.byteLength (c :: cs))
        rest rest' ts ts' →
      Parallel source source' offset (blanks ++ (c :: cs ++ rest)) (blanks' ++ (c' :: cs' ++ rest'))
        (⟨token, source, offset + Text.byteLength blanks,
            offset + Text.byteLength blanks + Text.byteLength (c :: cs)⟩ :: ts)
        (⟨token', source', offset + Text.byteLength blanks,
            offset + Text.byteLength blanks + Text.byteLength (c :: cs)⟩ :: ts')

variable {source source' : Source} {offset : Nat} {cs cs' : List Char} {ts ts' : List Lexeme}

/-- **A tiled text and any other that is the same but for the case of letters** are cut at the same
places. -/
theorem Tiles.exists_parallel (h : source.Tiles offset cs ts) (source' : Source)
    (halike : cs'.map Char.toUpper = cs.map Char.toUpper) :
    ∃ ts', source.Parallel source' offset cs cs' ts ts' := by
  induction h generalizing cs' with
  | nil hblanks => exact ⟨[], .nil hblanks halike⟩
  | token hblanks hc hscan _ ih =>
    rw [List.map_append, List.map_append] at halike
    obtain ⟨blanks', more, rfl, hblanks', hmore⟩ := List.map_eq_append_iff.mp halike
    obtain ⟨text', rest', rfl, htext, hrest⟩ := List.map_eq_append_iff.mp hmore
    obtain ⟨c', cs', rfl, -, -⟩ := List.map_eq_cons_iff.mp htext
    obtain ⟨ts', hparallel⟩ := ih hrest
    obtain ⟨token', hscan', htoken⟩ := Token.exists_scan_of_map_toUpper_eq hscan htext hrest
    exact ⟨_, .token hblanks hblanks' hc htext hscan hscan' htoken hparallel⟩

/-- Texts are as long in either case. -/
theorem byteLength_eq_of_map_toUpper_eq (h : cs'.map Char.toUpper = cs.map Char.toUpper) :
    Text.byteLength cs' = Text.byteLength cs := by
  have hupper (cs : List Char) : Text.byteLength (cs.map Char.toUpper) = Text.byteLength cs := by
    induction cs with
    | nil => rfl
    | cons c cs ih => rw [List.map_cons, Text.byteLength_cons, Text.byteLength_cons, ih,
        Text.utf8Size_toUpper]
  rw [← hupper, h, hupper]

/-- Blanks are the same in either case. -/
theorem eq_of_map_toUpper_eq_of_isBlank {blanks blanks' : List Char}
    (hblanks : blanks.all Text.isBlank = true)
    (h : blanks'.map Char.toUpper = blanks.map Char.toUpper) : blanks' = blanks := by
  refine Text.eq_of_map_toUpper_eq_of_forall h fun c hc => ?_
  have hpart := Token.isNamePart_of_isBlank (List.all_eq_true.mp hblanks c hc)
  rw [Token.isNamePart, Text.isAlphanumeric, Text.isAlphabetic] at hpart
  simp only [Bool.or_eq_false_iff] at hpart
  exact hpart.1.1.1

/-- The other text is tiled as well. -/
theorem Parallel.tiles (h : source.Parallel source' offset cs cs' ts ts') :
    source'.Tiles offset cs' ts' := by
  induction h with
  | nil hblanks hblanks' => exact .nil (eq_of_map_toUpper_eq_of_isBlank hblanks hblanks' ▸ hblanks)
  | token hblanks hblanks' hc htext _ hscan' _ _ ih =>
    obtain rfl := eq_of_map_toUpper_eq_of_isBlank hblanks hblanks'
    rw [← byteLength_eq_of_map_toUpper_eq htext] at ih ⊢
    refine .token hblanks ?_ hscan' ih
    obtain ⟨hfirst, -⟩ := List.cons.inj htext
    rwa [← Text.isBlank_toUpper, hfirst, Text.isBlank_toUpper]

/-! ### Where the case of a token matters -/

section

variable {before behind : List Lexeme} {t : Lexeme} {o : Nat}

/-- Two tokens in order that hold one offset are the same, and so is what stands behind them. -/
theorem InOrder.eq_of_offset {before' behind' : List Lexeme} {t' : Lexeme}
    (h : source.InOrder (before ++ t :: behind))
    (heq : before ++ t :: behind = before' ++ t' :: behind')
    (ht : t.span.start ≤ o ∧ o < t.span.stop) (ht' : t'.span.start ≤ o ∧ o < t'.span.stop) :
    t = t' ∧ behind = behind' := by
  have hpairs := h.stop_le_start
  rcases List.append_eq_append_iff.mp heq with ⟨more, rfl, hmore⟩ | ⟨more, rfl, hmore⟩
  · cases more with
    | nil => exact List.cons.inj hmore
    | cons u more =>
      obtain ⟨rfl, rfl⟩ := List.cons.inj hmore
      have htail := (List.pairwise_append.mp hpairs).2.1
      have hle := (List.pairwise_cons.mp htail).1 t' (by simp)
      omega
  · cases more with
    | nil =>
      obtain ⟨rfl, rfl⟩ := List.cons.inj hmore
      exact ⟨rfl, rfl⟩
    | cons u more =>
      obtain ⟨rfl, rfl⟩ := List.cons.inj hmore
      have hle := (List.pairwise_append.mp hpairs).2.2 t' (by simp) t List.mem_cons_self
      omega

/-- Inside a token, case matters if it does in the token. -/
theorem ignoresCaseAt_iff (h : source.tokens = .ok (before ++ t :: behind))
    (ht : t.span.start ≤ o ∧ o < t.span.stop) :
    source.IgnoresCaseAt o ↔ t.token.ignoresCase (behind.map .ok) = true := by
  have hlexemes : source.lexemes = (before ++ t :: behind).map .ok := collect_eq_ok_iff.mp h
  constructor
  · rintro ⟨before', t', behind', hsplit, hcase, ht'⟩
    rw [hlexemes] at hsplit
    obtain ⟨before', more, hparts, rfl, hmore⟩ := List.map_eq_append_iff.mp hsplit
    obtain ⟨u, behind', rfl, hu, rfl⟩ := List.map_eq_cons_iff.mp hmore
    cases hu
    have horder := (tokens_eq_ok_iff_tiles.mp h).inOrder.1
    obtain ⟨rfl, rfl⟩ := horder.eq_of_offset hparts ht ht'
    exact hcase
  · intro hcase
    refine ⟨before.map .ok, t, behind.map .ok, ?_, hcase, ht⟩
    rw [hlexemes, List.map_append, List.map_cons]

end

end Source

/-! ### Texts and tokens in another case -/

namespace Token

variable {token : Token} {ts : List Lexeme}

/-- What is a keyword in upper case is that keyword. -/
theorem eq_keyword_of_raise {k : Keyword} (h : token.raise = .keyword k) : token = .keyword k := by
  cases token <;> cases h
  rfl

/-- What is a symbol in upper case is that symbol. -/
theorem eq_symbol_of_raise {s : Symbol} (h : token.raise = .symbol s) : token = .symbol s := by
  cases token <;> cases h
  rfl

/-- What is a number in upper case is that number. -/
theorem eq_number_of_raise {digits : String} (h : token.raise = .number digits) :
    token = .number digits := by
  cases token <;> cases h
  rfl

/-- What is a string literal in upper case is a string literal. -/
theorem exists_string_of_raise {text : String} (h : token.raise = .string text) :
    ∃ text', token = .string text' := by
  cases token <;> cases h
  exact ⟨_, rfl⟩

/-- What is a name in upper case is a name. -/
theorem exists_identifier_of_raise {name : String} (h : token.raise = .identifier name) :
    ∃ name', token = .identifier name' ∧ Text.asciiUpper name' = name := by
  cases token <;> cases h
  exact ⟨_, rfl, rfl⟩

/-- A token whose case does not matter is a keyword, or a name before an opening parenthesis. -/
theorem cases_of_ignoresCase (h : token.ignoresCase (ts.map .ok) = true) :
    (∃ k, token = .keyword k) ∨
      ∃ name s us, token = .identifier name ∧ ts = ⟨.symbol .leftParen, s⟩ :: us := by
  unfold ignoresCase at h
  split at h
  · exact .inl ⟨_, rfl⟩
  · rename_i hts
    obtain ⟨t, us, rfl, ht, -⟩ := List.map_eq_cons_iff.mp hts
    cases ht
    exact .inr ⟨_, _, us, rfl, rfl⟩
  · cases h

end Token

namespace Source

variable {source source' : Source} {offset : Nat} {before ts ts' : List Lexeme}
  {cs cs' : List Char}

/-- **The tokens of a text with letters in another case** differ in the case of names before
parentheses only. -/
theorem Parallel.respelled (h : source.Parallel source' offset cs cs' ts ts')
    (htokens : source.tokens = .ok (before ++ ts)) (hrecased : source.RecasedFrom offset cs cs') :
    Respelled (ts.map (·.mapSpan (Span.moveTo source'))) ts' := by
  induction h generalizing before with
  | nil => exact .nil
  | @token offset blanks blanks' c c' cs cs' rest rest' ts ts' token token' _ hblanks' _ htext
      hscan hscan' hraise _ ih =>
    have hlength {as bs : List Char} (h : as.map Char.toUpper = bs.map Char.toUpper) :
        as.length = bs.length := by
      have hmap := congrArg List.length h
      rwa [List.length_map, List.length_map] at hmap
    obtain ⟨-, hmore⟩ := hrecased.of_append (hlength hblanks')
    obtain ⟨hword, hrest⟩ := hmore.of_append (hlength htext)
    have hts := ih (by rw [htokens, List.append_cons]) hrest
    cases hcase : token.ignoresCase (ts.map .ok) with
    | false =>
      have hsame : c' :: cs' = c :: cs := hword.eq fun o hlow hhigh hat => by
        have hignores := (ignoresCaseAt_iff htokens ⟨hlow, hhigh⟩).mp hat
        rw [hcase] at hignores
        cases hignores
      obtain ⟨rfl, rfl⟩ := List.cons.inj hsame
      cases (Token.scan_alone hscan).symm.trans (Token.scan_alone hscan')
      exact .same _ hts
    | true =>
      rcases Token.cases_of_ignoresCase hcase with ⟨k, rfl⟩ | ⟨name, s, us, rfl, rfl⟩
      · obtain rfl := Token.eq_keyword_of_raise hraise
        exact .same _ hts
      · obtain ⟨name', rfl, hname⟩ := Token.exists_identifier_of_raise hraise
        obtain ⟨us', rfl, hus⟩ := hts.exists_of_cons nofun
        exact .call hname hus

/-- **A text whose tokens differ in the case of names before parentheses only** differs in the case
of letters where it does not matter. -/
theorem Parallel.recasedFrom (h : source.Parallel source' offset cs cs' ts ts')
    (htokens : source.tokens = .ok (before ++ ts))
    (hrespelled : Respelled (ts.map (·.mapSpan (Span.moveTo source'))) ts') :
    source.RecasedFrom offset cs cs' := by
  induction h generalizing before with
  | nil hblanks hblanks' =>
    obtain rfl := eq_of_map_toUpper_eq_of_isBlank hblanks hblanks'
    exact .refl _ _ _
  | @token offset blanks blanks' c c' cs cs' rest rest' ts ts' token token' hblanks hblanks' _ htext
      hscan hscan' _ _ ih =>
    obtain rfl := eq_of_map_toUpper_eq_of_isBlank hblanks hblanks'
    have hignores (hcase : token.ignoresCase (ts.map .ok) = true) :
        source.RecasedFrom (offset + Text.byteLength blanks') (c :: cs) (c' :: cs') := by
      refine .of_ignoresCaseAt htext fun o hlow hhigh => ?_
      exact (ignoresCaseAt_iff htokens ⟨hlow, hhigh⟩).mpr hcase
    obtain ⟨hts, htoken⟩ := hrespelled.of_cons_cons
    have hrest := ih (by rw [htokens, List.append_cons]) hts
    refine (RecasedFrom.refl _ _ _).append (RecasedFrom.append ?_ hrest)
    rcases htoken with heq | ⟨name, s, us, htoken, hparen⟩
    · cases hkeyword : token.isKeyword with
      | true =>
        cases token with
        | keyword k => exact hignores rfl
        | identifier | number | string | symbol => cases hkeyword
      | false =>
        cases congrArg Lexeme.token heq
        have hsame := Token.text_eq_of_isWritten (Token.isWritten_of_scan hscan)
          (Token.isWritten_of_scan hscan') hkeyword htext
        rw [hsame]
        exact .refl _ _ _
    · obtain ⟨⟨_, s⟩, us, rfl, hs, -⟩ := List.map_eq_cons_iff.mp hparen
      cases congrArg Lexeme.token hs
      cases htoken
      exact hignores rfl

/-- **Sources that differ in the case of letters where it does not matter**: of two sources that are
the same but for the case of letters, they are those whose tokens differ in the case of names before
parentheses only. -/
theorem exists_tokens_of_map_toUpper_eq (htokens : source.tokens = .ok ts)
    (halike : source'.chars.map Char.toUpper = source.chars.map Char.toUpper) :
    ∃ ts', source'.tokens = .ok ts' ∧ source.Parallel source' 0 source.chars source'.chars ts ts' ∧
      (source.Recased source' ↔ Respelled (ts.map (·.mapSpan (Span.moveTo source'))) ts') := by
  obtain ⟨ts', hparallel⟩ := (tokens_eq_ok_iff_tiles.mp htokens).exists_parallel source' halike
  have hall : source.tokens = .ok ([] ++ ts) := htokens
  exact ⟨ts', tokens_eq_ok_iff_tiles.mpr hparallel.tiles, hparallel, hparallel.respelled hall,
    hparallel.recasedFrom hall⟩

end Source

end EventFilter
