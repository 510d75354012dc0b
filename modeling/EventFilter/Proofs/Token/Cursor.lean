import EventFilter.Proofs.Token.Tiling

/-!
# Reading a source step by step

A source is read from a cursor, which holds an offset and the text that is left there. One step
(`Source.next`) skips blanks and reads the token or the error that begins behind them, or comes to
the end of the input, and it leaves the cursor behind what it has read. Errors take up text as
tokens do, so reading goes on behind them, and the steps come to the tokens and errors of the source
one by one (`Source.readFrom_lexemesFrom`).
Main statement: the end is reached after at most as many steps as there are characters and one more,
what is read until then tiles the source, and a source has tokens exactly if no step comes to an
error (`Source.exists_readings_tile`).
-/

namespace EventFilter

/-- **A place to read on from**: an offset into a source, and the text that is left there. -/
structure Cursor where
  offset : Nat
  rest : List Char

/-- What one step of reading comes to: a token, an error, or `none` at the end of the input, with
the stretch that it was read from. -/
structure Reading where
  outcome : Except SyntaxError.Cause (Option Token)
  span : Span

namespace Reading

/-- A token or an error of a source, as what a step of reading comes to. -/
def ofLexeme : Except SyntaxError Lexeme → Reading
  | .ok t => ⟨.ok (some t.token), t.span⟩
  | .error e => ⟨.error e.cause, e.span⟩

/-- A token or an error is not the end of the input. -/
theorem outcome_ofLexeme_ne (o : Except SyntaxError Lexeme) : (ofLexeme o).outcome ≠ .ok none := by
  cases o <;> simp [ofLexeme]

/-- What is read without an error is a token. -/
theorem exists_outcome_ofLexeme_eq_ok_iff {o : Except SyntaxError Lexeme} :
    (∃ token, (ofLexeme o).outcome = .ok token) ↔ ∃ t, o = .ok t := by
  cases o <;> simp [ofLexeme]

/-- What is read as an error is that error. -/
theorem ofLexeme_eq_error_iff {o : Except SyntaxError Lexeme} {e : SyntaxError} :
    ofLexeme o = ⟨.error e.cause, e.span⟩ ↔ o = .error e := by
  cases o with
  | ok t => simp [ofLexeme]
  | error e' =>
    obtain ⟨cause, span⟩ := e
    obtain ⟨cause', span'⟩ := e'
    simp [ofLexeme]

end Reading

namespace Source

/-- The cursor at the first character. -/
def beginning (source : Source) : Cursor := ⟨0, source.chars⟩

/-- **One step of reading**: what begins behind the blanks at a cursor, and the cursor behind it. -/
def next (source : Source) (cursor : Cursor) : Reading × Cursor :=
  let start := cursor.offset + Text.byteLength (cursor.rest.takeWhile Text.isBlank)
  match cursor.rest.dropWhile Text.isBlank with
  | [] => (⟨.ok none, source, start, start⟩, ⟨start, []⟩)
  | c :: cs =>
    let scanned := Token.scan c cs
    let stop := start + Text.byteLength scanned.text
    (⟨scanned.outcome.map some, source, start, stop⟩, ⟨stop, scanned.rest⟩)

/-- **What a number of steps comes to**, each from where the one before it ended. -/
def readFrom (source : Source) : Nat → Cursor → List Reading
  | 0, _ => []
  | steps + 1, cursor => (source.next cursor).1 :: source.readFrom steps (source.next cursor).2

variable {source : Source} {offset : Nat} {blanks cs : List Char} {c : Char}

/-! ### Steps -/

/-- A step over blanks comes to the end of the input. -/
theorem next_blanks (h : cs.all Text.isBlank = true) :
    (source.next ⟨offset, cs⟩).1 =
      ⟨.ok none, source, offset + Text.byteLength cs, offset + Text.byteLength cs⟩ := by
  have hall := List.all_eq_true.mp h
  have htake : cs.takeWhile Text.isBlank = cs := List.takeWhile_eq_self_iff.mpr hall
  have hdrop : cs.dropWhile Text.isBlank = [] := List.dropWhile_eq_nil_iff.mpr hall
  simp only [next, htake, hdrop]

/-- A step over blanks reads the token, or the error, that begins behind them. -/
theorem next_append (hblanks : blanks.all Text.isBlank = true) (hc : Text.isBlank c = false) :
    source.next ⟨offset, blanks ++ c :: cs⟩ =
      let start := offset + Text.byteLength blanks
      let stop := start + Text.byteLength (Token.scan c cs).text
      (⟨(Token.scan c cs).outcome.map some, source, start, stop⟩,
        ⟨stop, (Token.scan c cs).rest⟩) := by
  have hhead : ∀ d ∈ (c :: cs).head?, Text.isBlank d = false := by
    rintro _ ⟨⟩
    exact hc
  obtain ⟨htake, hdrop⟩ := Token.span_append hblanks hhead
  simp only [next, htake, hdrop]

/-- **The steps of reading come to the tokens and errors of a source**, and then to its end. -/
theorem readFrom_lexemesFrom :
    source.readFrom ((source.lexemesFrom offset cs).length + 1) ⟨offset, cs⟩ =
      (source.lexemesFrom offset cs).map Reading.ofLexeme ++
        [⟨.ok none, source, offset + Text.byteLength cs, offset + Text.byteLength cs⟩] := by
  induction cs using Token.lexInduction generalizing offset with
  | blanks cs hblanks =>
    rw [lexemesFrom_blanks hblanks, List.length_nil, readFrom, next_blanks hblanks]
    rfl
  | first blanks c cs hblanks hc ih =>
    have hlength : Text.byteLength (blanks ++ c :: cs) = Text.byteLength blanks +
        (Text.byteLength (Token.scan c cs).text + Text.byteLength (Token.scan c cs).rest) := by
      rw [← Token.scan_append c cs, Text.byteLength_append, Text.byteLength_append]
    rw [lexemesFrom_append hblanks hc, List.length_cons, readFrom, next_append hblanks hc, ih,
      List.map_cons, List.cons_append, hlength, ← Nat.add_assoc, ← Nat.add_assoc]
    cases (Token.scan c cs).outcome <;> rfl

/-- Every token and every error takes up a character. -/
theorem length_lexemesFrom_le : (source.lexemesFrom offset cs).length ≤ cs.length := by
  induction cs using Token.lexInduction generalizing offset with
  | blanks cs hblanks =>
    rw [lexemesFrom_blanks hblanks]
    exact Nat.zero_le _
  | first blanks c cs hblanks hc ih =>
    have hrest := Token.length_rest_scan_lt c cs
    have hlength := @ih (offset + Text.byteLength blanks + Text.byteLength (Token.scan c cs).text)
    rw [lexemesFrom_append hblanks hc, List.length_cons, List.length_append]
    omega

/-! ### Tilings of a source -/

/-- **Spans tile what follows a prefix of a source**: they are stretches of it between boundaries,
none of them empty, one behind the other, and only blanks stand outside them. -/
structure TiledBehind (source : Source) (front : List Char) (spans : List Span) : Prop where
  /-- they are spans of the source -/
  source_eq : ∀ s ∈ spans, s.source = source
  /-- each begins where a character does, or at the end -/
  isBoundary_start : ∀ s ∈ spans, Text.IsBoundary source.chars s.start
  /-- each ends where a character does -/
  isBoundary_stop : ∀ s ∈ spans, Text.IsBoundary source.chars s.stop
  /-- none begins in the prefix -/
  length_le_start : ∀ s ∈ spans, Text.byteLength front ≤ s.start
  /-- none is empty -/
  start_lt_stop : ∀ s ∈ spans, s.start < s.stop
  /-- none goes on behind the end -/
  stop_le_length : ∀ s ∈ spans, s.stop ≤ source.length
  /-- each ends before the next begins -/
  stop_le_start : spans.Pairwise fun s t => s.stop ≤ t.start
  /-- a character that is in none of them is blank -/
  isBlank_of_outside : ∀ before c after, source.chars = before ++ c :: after →
    Text.byteLength front ≤ Text.byteLength before →
    (∀ s ∈ spans, ¬(s.start ≤ Text.byteLength before ∧ Text.byteLength before < s.stop)) →
    Text.isBlank c = true

/-- A character whose offset is in a part of a text is one of that part. -/
theorem mem_of_byteLength_lt {front part rest before after : List Char}
    (h : front ++ (part ++ rest) = before ++ c :: after)
    (hle : Text.byteLength front ≤ Text.byteLength before)
    (hlt : Text.byteLength before < Text.byteLength front + Text.byteLength part) : c ∈ part := by
  have hc := c.utf8Size_pos
  rcases List.append_eq_append_iff.mp h with ⟨mid, rfl, hpart⟩ | ⟨mid, rfl, hafter⟩
  · rcases List.append_eq_append_iff.mp hpart with ⟨more, rfl, -⟩ | ⟨more, rfl, hmore⟩
    · simp only [Text.byteLength_append] at hlt
      omega
    · cases more with
      | nil =>
        simp only [Text.byteLength_append, List.append_nil] at hlt
        omega
      | cons d more =>
        obtain ⟨rfl, -⟩ := List.cons.inj hmore
        exact List.mem_append_right mid List.mem_cons_self
  · cases mid with
    | nil =>
      cases part with
      | nil =>
        simp only [List.append_nil, Text.byteLength_nil] at hlt
        omega
      | cons d part =>
        obtain ⟨rfl, -⟩ := List.cons.inj hafter
        exact List.mem_cons_self
    | cons d mid =>
      obtain ⟨rfl, -⟩ := List.cons.inj hafter
      simp only [Text.byteLength_append, Text.byteLength_cons] at hle
      omega

/-- No span is needed for blanks at the end. -/
theorem TiledBehind.nil {front : List Char} (hchars : source.chars = front ++ blanks)
    (hblanks : blanks.all Text.isBlank = true) : source.TiledBehind front [] where
  source_eq := nofun
  isBoundary_start := nofun
  isBoundary_stop := nofun
  length_le_start := nofun
  start_lt_stop := nofun
  stop_le_length := nofun
  stop_le_start := .nil
  isBlank_of_outside before c after hsource hle _ := by
    have hlt := congrArg Text.byteLength (hchars.symm.trans hsource)
    have hc := c.utf8Size_pos
    simp only [Text.byteLength_append, Text.byteLength_cons] at hlt
    have hsplit : front ++ (blanks ++ []) = before ++ c :: after := by
      rw [List.append_nil, ← hchars, hsource]
    exact List.all_eq_true.mp hblanks c (mem_of_byteLength_lt hsplit hle (by omega))

/-- **One more span in front**, over text behind blanks. -/
theorem TiledBehind.cons {front text : List Char} {spans : List Span}
    (h : source.TiledBehind (front ++ blanks ++ text) spans)
    (hchars : source.chars = front ++ blanks ++ text ++ cs)
    (hblanks : blanks.all Text.isBlank = true) (htext : text ≠ []) :
    source.TiledBehind front (⟨source, Text.byteLength (front ++ blanks),
      Text.byteLength (front ++ blanks ++ text)⟩ :: spans) := by
  have hpos : 0 < Text.byteLength text := by
    obtain ⟨d, ds, rfl⟩ := List.exists_cons_of_ne_nil htext
    exact Nat.add_pos_left d.utf8Size_pos _
  have hlength := congrArg Text.byteLength hchars
  have hbehind := h.length_le_start
  simp only [Text.byteLength_append] at hlength hbehind
  constructor
  · exact List.forall_mem_cons.mpr ⟨rfl, h.source_eq⟩
  · refine List.forall_mem_cons.mpr ⟨⟨front ++ blanks, text ++ cs, ?_, rfl⟩, h.isBoundary_start⟩
    rw [hchars, List.append_assoc]
  · exact List.forall_mem_cons.mpr ⟨⟨_, cs, hchars, rfl⟩, h.isBoundary_stop⟩
  · refine List.forall_mem_cons.mpr ⟨?_, ?_⟩
    · simp only [Text.byteLength_append]
      omega
    · intro s hs
      have := hbehind s hs
      omega
  · refine List.forall_mem_cons.mpr ⟨?_, h.start_lt_stop⟩
    simp only [Text.byteLength_append]
    omega
  · refine List.forall_mem_cons.mpr ⟨?_, h.stop_le_length⟩
    simp only [Text.byteLength_append, Source.length]
    omega
  · exact List.pairwise_cons.mpr ⟨h.length_le_start, h.stop_le_start⟩
  · intro before c after hsource hle houtside
    obtain ⟨hfirst, hothers⟩ := List.forall_mem_cons.mp houtside
    simp only [Text.byteLength_append] at hfirst
    by_cases hlt : Text.byteLength before < Text.byteLength front + Text.byteLength blanks
    · have hsplit : front ++ (blanks ++ (text ++ cs)) = before ++ c :: after := by
        rw [← hsource, hchars, List.append_assoc, List.append_assoc]
      exact List.all_eq_true.mp hblanks c (mem_of_byteLength_lt hsplit hle hlt)
    · refine h.isBlank_of_outside before c after hsource ?_ hothers
      simp only [Text.byteLength_append]
      omega

/-- **What is read tiles a source.** -/
theorem tiledBehind_lexemesFrom {front : List Char} (hchars : source.chars = front ++ cs) :
    source.TiledBehind front
      ((source.lexemesFrom (Text.byteLength front) cs).map fun o => (Reading.ofLexeme o).span) := by
  induction cs using Token.lexInduction generalizing front with
  | blanks cs hblanks =>
    rw [lexemesFrom_blanks hblanks]
    exact .nil hchars hblanks
  | first blanks c cs hblanks hc ih =>
    have hsplit : source.chars =
        front ++ blanks ++ (Token.scan c cs).text ++ (Token.scan c cs).rest := by
      rw [hchars, ← Token.scan_append c cs]
      simp only [List.append_assoc]
    have htail := (ih hsplit).cons hsplit hblanks (Token.scan_text_ne_nil c cs)
    rw [lexemesFrom_append hblanks hc, List.map_cons]
    simp only [Text.byteLength_append] at htail ⊢
    cases houtcome : (Token.scan c cs).outcome <;> exact htail

/-! ### Reading a whole source -/

/-- The error of a source is the first of those that reading comes to. -/
theorem tokens_eq_error_iff {e : SyntaxError} : source.tokens = .error e ↔ ∃ before after,
    source.lexemes.map Reading.ofLexeme = before ++ ⟨.error e.cause, e.span⟩ :: after ∧
      ∀ r ∈ before, ∃ token, r.outcome = .ok token := by
  unfold tokens
  rw [collect_eq_error_iff]
  constructor
  · rintro ⟨before, after, hlexemes, hbefore⟩
    refine ⟨before.map Reading.ofLexeme, after.map Reading.ofLexeme, ?_, ?_⟩
    · rw [hlexemes, List.map_append, List.map_cons]
      rfl
    · refine List.forall_mem_map.mpr fun o ho => ?_
      exact Reading.exists_outcome_ofLexeme_eq_ok_iff.mpr (hbefore o ho)
  · rintro ⟨_, _, hreadings, hbefore⟩
    obtain ⟨before, behind, hlexemes, rfl, hbehind⟩ := List.map_eq_append_iff.mp hreadings
    obtain ⟨o, after, rfl, ho, -⟩ := List.map_eq_cons_iff.mp hbehind
    rw [Reading.ofLexeme_eq_error_iff.mp ho] at hlexemes
    refine ⟨before, after, hlexemes, fun o ho => ?_⟩
    exact Reading.exists_outcome_ofLexeme_eq_ok_iff.mp (List.forall_mem_map.mp hbefore o ho)

/-- **Reading tiles a source, also across errors.** Step after step from the beginning, reading
comes to the end of the source after at most one step more than there are characters. The spans of
the tokens and errors that it comes to before are not empty, lie in order between boundaries of the
source and leave only blanks outside, and the end has the empty span behind the last character. The
source has tokens exactly if no step comes to an error, and these are then the tokens of the steps;
otherwise it has the first error. -/
theorem exists_readings_tile (source : Source) :
    ∃ rs : List Reading, rs.length ≤ source.chars.length ∧
      source.readFrom (rs.length + 1) source.beginning =
        rs ++ [⟨.ok none, source, source.length, source.length⟩] ∧
      (∀ r ∈ rs, r.outcome ≠ .ok none) ∧
      source.TiledBehind [] (rs.map (·.span)) ∧
      ((∃ ts, source.tokens = .ok ts) ↔ ∀ r ∈ rs, ∃ token, r.outcome = .ok token) ∧
      (∀ ts, source.tokens = .ok ts → rs = ts.map fun t => ⟨.ok (some t.token), t.span⟩) ∧
      ∀ e, source.tokens = .error e ↔ ∃ before after,
        rs = before ++ ⟨.error e.cause, e.span⟩ :: after ∧
          ∀ r ∈ before, ∃ token, r.outcome = .ok token := by
  refine ⟨source.lexemes.map Reading.ofLexeme, ?_, ?_, ?_, ?_, ?_, ?_, ?_⟩
  · rw [List.length_map]
    exact length_lexemesFrom_le
  · rw [List.length_map, beginning, lexemes, readFrom_lexemesFrom, Nat.zero_add]
    rfl
  · exact List.forall_mem_map.mpr fun o _ => Reading.outcome_ofLexeme_ne o
  · rw [List.map_map]
    exact tiledBehind_lexemesFrom rfl
  · simp only [List.forall_mem_map, Reading.exists_outcome_ofLexeme_eq_ok_iff]
    exact exists_collect_eq_ok_iff
  · intro ts hts
    rw [collect_eq_ok_iff.mp hts, List.map_map]
    rfl
  · intro e
    exact tokens_eq_error_iff

/-- A name of two bytes, a lone mark and a literal that does not end. -/
example :
    let source : Source := ⟨0, "é ! 'a"⟩
    (source.readFrom 4 source.beginning).map (fun r => (r.span.start, r.span.stop)) =
      [(0, 2), (3, 4), (5, 7), (7, 7)] := by
  decide +kernel

end Source

end EventFilter
