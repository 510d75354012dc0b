import Mathlib.Data.List.TakeWhile
import EventFilter.Proofs.Span
import EventFilter.Proofs.Token.Spelling

/-!
# Where tokens stand

A text that is read without an error is tokens with blanks between them, and each token is read by
itself: it does not matter what stands before it, and of what stands behind it only whether the
token could go on. `Source.Tiles` says so by one rule for a token behind blanks, and a source has
the tokens that its text is tiled with (`Source.tokens_eq_ok_iff_tiles`).
Main statement: tokens that stand next to one another in a tiling are the tokens of the stretch from
the first to the last of them, at the same distances from each other (`Source.Tiles.excerpt`).
-/

namespace EventFilter

/-! ### Tokens before less text -/

namespace Token

variable {quote c : Char} {cs rest more : List Char}

/-- **A string literal ends where it ends**, whatever follows, unless that is its quote. -/
theorem stringBody_text_append {body : StringBody} (h : stringBody quote cs = some body)
    (hrest : ∀ d ∈ rest.head?, d ≠ quote) :
    stringBody quote (body.text ++ rest) = some { body with rest } := by
  fun_induction stringBody quote cs generalizing body with
  | case1 | case5 => cases h
  | case2 | case4 =>
    cases h
    exact stringBody_end hrest
  | case3 ds ih =>
    obtain ⟨b, hb, rfl⟩ := Option.map_eq_some_iff.mp h
    exact stringBody_quote_quote.trans (congrArg (Option.map _) (ih hb))
  | case6 ds hquote ih =>
    obtain ⟨b, hb, rfl⟩ := Option.map_eq_some_iff.mp h
    exact (stringBody_backslash_backslash (Ne.symm hquote)).trans (congrArg (Option.map _) (ih hb))
  | case7 ds hquote _ ih =>
    obtain ⟨b, hb, rfl⟩ := Option.map_eq_some_iff.mp h
    exact (stringBody_backslash_quote (Ne.symm hquote)).trans (congrArg (Option.map _) (ih hb))
  | case8 d ds hd hdq hquote ih =>
    obtain ⟨b, hb, rfl⟩ := Option.map_eq_some_iff.mp h
    have hread := ih hb
    rw [stringBody_char hd hdq] at hb
    obtain ⟨b, -, rfl⟩ := Option.map_eq_some_iff.mp hb
    exact (stringBody_backslash (Ne.symm hquote) hd hdq).trans (congrArg (Option.map _) hread)
  | case9 c cs hcq hc ih =>
    obtain ⟨b, hb, rfl⟩ := Option.map_eq_some_iff.mp h
    exact (stringBody_char hc hcq).trans (congrArg (Option.map _) (ih hb))

/-- What a string literal leaves does not begin with its quote. -/
theorem head?_rest_of_stringBody {body : StringBody} (h : stringBody quote cs = some body) :
    ∀ d ∈ body.rest.head?, d ≠ quote := by
  fun_induction stringBody quote cs generalizing body with
  | case1 | case5 => cases h
  | case2 =>
    cases h
    intro d hd
    cases hd
  | case4 d ds hd =>
    cases h
    rintro _ ⟨⟩
    exact hd
  | case3 ds ih | case6 ds _ ih | case7 ds _ _ ih | case8 d ds _ _ _ ih | case9 c cs _ _ ih =>
    obtain ⟨b, hb, rfl⟩ := Option.map_eq_some_iff.mp h
    have hrest := ih hb
    exact hrest

/-- What heads a part of a text heads the text. -/
theorem forall_head?_of_append {P : Char → Prop} (h : ∀ d ∈ (rest ++ more).head?, P d) :
    ∀ d ∈ rest.head?, P d := by
  cases rest with
  | nil => exact nofun
  | cons d ds => exact h

/-- A symbol is read where less text follows. -/
theorem find?_spellings_cut {spelled : List Char × Symbol}
    (h : Symbol.spellings.find? (·.1.isPrefixOf (cs ++ more)) = some spelled)
    (hspelled : spelled.1 <+: cs) :
    Symbol.spellings.find? (·.1.isPrefixOf cs) = some spelled := by
  obtain ⟨-, before, after, hsplit, hbefore⟩ := List.find?_eq_some_iff_append.mp h
  refine List.find?_eq_some_iff_append.mpr
    ⟨List.isPrefixOf_iff_prefix.mpr hspelled, before, after, hsplit, ?_⟩
  -- A spelling that is tried before does not begin the longer text, let alone the shorter one.
  intro s hs
  have hlonger := hbefore s hs
  rw [Bool.not_eq_true', Bool.eq_false_iff, ne_eq, List.isPrefixOf_iff_prefix] at hlonger ⊢
  exact fun hshorter => hlonger (hshorter.trans (List.prefix_append cs more))

/-- No symbol is read where less text follows. -/
theorem find?_spellings_eq_none_of_append
    (h : Symbol.spellings.find? (·.1.isPrefixOf (cs ++ more)) = none) :
    Symbol.spellings.find? (·.1.isPrefixOf cs) = none := by
  rw [List.find?_eq_none] at h ⊢
  intro s hs hshorter
  rw [List.isPrefixOf_iff_prefix] at hshorter
  exact h s hs (List.isPrefixOf_iff_prefix.mpr (hshorter.trans (List.prefix_append cs more)))

/-- A run of characters is read where less text follows. -/
theorem takeWhile_cut {p : Char → Bool} (htake : (cs ++ (rest ++ more)).takeWhile p = cs)
    (hdrop : (cs ++ (rest ++ more)).dropWhile p = rest ++ more) :
    (cs ++ rest).takeWhile p = cs ∧ (cs ++ rest).dropWhile p = rest := by
  have hall : cs.all p = true := htake ▸ List.all_takeWhile
  apply span_append hall
  apply forall_head?_of_append
  intro d hd
  have hhead := List.head?_dropWhile_not p (cs ++ (rest ++ more))
  rw [hdrop, hd] at hhead
  exact hhead

/-- **A token is read where less text follows.** -/
theorem scan_cut {token : Token}
    (h : scan c (cs ++ (rest ++ more)) = ⟨.ok token, c :: cs, rest ++ more⟩) :
    scan c (cs ++ rest) = ⟨.ok token, c :: cs, rest⟩ := by
  have hlonger : c :: (cs ++ (rest ++ more)) = c :: (cs ++ rest) ++ more := by simp
  unfold scan at h ⊢
  split at h
  · rename_i text s hfind
    obtain ⟨htoken, rfl, -⟩ := Scanned.mk.inj h
    cases htoken
    rw [hlonger] at hfind
    rw [find?_spellings_cut hfind (List.prefix_append (c :: cs) rest)]
    simp
  rename_i hfind
  rw [hlonger] at hfind
  rw [find?_spellings_eq_none_of_append hfind]
  split at h
  · rename_i hquote
    split at h
    · rename_i body hbody
      obtain ⟨htoken, htext, hrest⟩ := Scanned.mk.inj h
      cases htoken
      have hhead := head?_rest_of_stringBody hbody
      rw [hrest] at hhead
      have hcut := stringBody_text_append hbody (forall_head?_of_append hhead)
      rw [(List.cons.inj htext).2] at hcut
      simp only [hquote, if_true, hcut]
    · cases (Scanned.mk.inj h).1
  rename_i hquote
  split at h
  · rename_i hstart
    obtain ⟨htoken, htext, hrest⟩ := Scanned.mk.inj h
    obtain ⟨htake, hdrop⟩ := takeWhile_cut (List.cons.inj htext).2 hrest
    rw [htext] at htoken
    simp only [hquote, hstart, Bool.false_eq_true, if_false, if_true, htake, hdrop, htoken]
  rename_i hstart
  split at h
  · rename_i hdigit
    obtain ⟨htoken, htext, hrest⟩ := Scanned.mk.inj h
    obtain ⟨htake, hdrop⟩ := takeWhile_cut (List.cons.inj htext).2 hrest
    rw [htext] at htoken
    simp only [hquote, hstart, hdigit, Bool.false_eq_true, if_false, if_true, htake, hdrop, htoken]
  · cases (Scanned.mk.inj h).1

/-- A token is read from its text. -/
theorem scan_alone {token : Token} (h : scan c (cs ++ more) = ⟨.ok token, c :: cs, more⟩) :
    scan c cs = ⟨.ok token, c :: cs, []⟩ := by
  have hcut : scan c (cs ++ ([] ++ more)) = ⟨.ok token, c :: cs, [] ++ more⟩ := h
  have hread := scan_cut hcut
  rwa [List.append_nil] at hread

/-- What is read begins where reading does. -/
theorem exists_text_scan (c : Char) (cs : List Char) :
    ∃ text, (scan c cs).text = c :: text ∧ cs = text ++ (scan c cs).rest := by
  have happend := scan_append c cs
  obtain ⟨d, text, htext⟩ := List.exists_cons_of_ne_nil (scan_text_ne_nil c cs)
  rw [htext] at happend
  obtain ⟨rfl, hcs⟩ := List.cons.inj happend
  exact ⟨text, htext, hcs.symm⟩

/-- **Induction on what is read first**: a text is blanks, or blanks before a token or an error,
behind which reading goes on. -/
@[elab_as_elim]
theorem lexInduction {motive : List Char → Prop}
    (blanks : ∀ cs, cs.all Text.isBlank = true → motive cs)
    (first : ∀ blanks c cs, blanks.all Text.isBlank = true → Text.isBlank c = false →
      motive (scan c cs).rest → motive (blanks ++ c :: cs)) (cs : List Char) : motive cs := by
  fun_induction lex cs with
  | case1 cs hdrop => exact blanks cs (List.all_eq_true.mpr (List.dropWhile_eq_nil_iff.mp hdrop))
  | case2 cs c cs' hdrop ih =>
    have hblank := List.head?_dropWhile_not Text.isBlank cs
    rw [hdrop] at hblank
    rw [← List.takeWhile_append_dropWhile (p := Text.isBlank) (l := cs), hdrop]
    exact first _ c cs' List.all_takeWhile hblank ih

end Token

/-! ### Tilings -/

namespace Source

/-- **A text is tiled with tokens** from an offset of a source on: it is each token behind blanks,
and blanks at the end, and each token is the one that is read where it begins. -/
inductive Tiles (source : Source) : Nat → List Char → List Lexeme → Prop
  | nil {offset blanks} : blanks.all Text.isBlank = true → Tiles source offset blanks []
  | token {offset blanks c cs rest ts} {token : Token} : blanks.all Text.isBlank = true →
      Text.isBlank c = false →
      Token.scan c (cs ++ rest) = ⟨.ok token, c :: cs, rest⟩ →
      Tiles source (offset + Text.byteLength blanks + Text.byteLength (c :: cs)) rest ts →
      Tiles source offset (blanks ++ (c :: cs ++ rest))
        (⟨token, source, offset + Text.byteLength blanks,
          offset + Text.byteLength blanks + Text.byteLength (c :: cs)⟩ :: ts)

variable {source : Source} {offset : Nat} {cs : List Char} {ts us : List Lexeme}

/-- Blanks hold no tokens. -/
theorem lexemesFrom_blanks (h : cs.all Text.isBlank = true) :
    source.lexemesFrom offset cs = [] := by
  have hdrop : cs.dropWhile Text.isBlank = [] :=
    List.dropWhile_eq_nil_iff.mpr (List.all_eq_true.mp h)
  rw [lexemesFrom.eq_def]
  split
  · rfl
  · rename_i hcs
    rw [hdrop] at hcs
    cases hcs

/-- A token or an error behind blanks. -/
theorem lexemesFrom_append {blanks : List Char} {c : Char}
    (hblanks : blanks.all Text.isBlank = true) (hc : Text.isBlank c = false) :
    source.lexemesFrom offset (blanks ++ c :: cs) =
      let start := offset + Text.byteLength blanks
      let stop := start + Text.byteLength (Token.scan c cs).text
      (match (Token.scan c cs).outcome with
        | .ok token => .ok ⟨token, source, start, stop⟩
        | .error cause => .error ⟨cause, source, start, stop⟩) ::
      source.lexemesFrom stop (Token.scan c cs).rest := by
  have hhead : ∀ d ∈ (c :: cs).head?, Text.isBlank d = false := by
    rintro _ ⟨⟩
    exact hc
  obtain ⟨htake, hdrop⟩ := Token.span_append hblanks hhead
  rw [lexemesFrom.eq_def]
  split
  · rename_i hcs
    rw [hdrop] at hcs
    cases hcs
  · rename_i hcs
    rw [hdrop] at hcs
    cases hcs
    rewrite [htake]
    rfl

/-- What is read without errors is a tiling. -/
theorem tiles_of_lexemesFrom (h : source.lexemesFrom offset cs = ts.map .ok) :
    source.Tiles offset cs ts := by
  induction cs using Token.lexInduction generalizing offset ts with
  | blanks cs hblanks =>
    rw [lexemesFrom_blanks hblanks] at h
    obtain rfl := List.map_eq_nil_iff.mp h.symm
    exact .nil hblanks
  | first blanks c cs hblanks hc ih =>
    rw [lexemesFrom_append hblanks hc] at h
    obtain ⟨t, ts, rfl, ht, htail⟩ := List.map_eq_cons_iff.mp h.symm
    obtain ⟨text, htext, hcs⟩ := Token.exists_text_scan c cs
    cases houtcome : (Token.scan c cs).outcome with
    | error cause =>
      rw [houtcome] at ht
      cases ht
    | ok token =>
      rw [houtcome] at ht
      cases ht
      have hscan : Token.scan c (text ++ (Token.scan c cs).rest) =
          ⟨.ok token, c :: text, (Token.scan c cs).rest⟩ := by
        rw [← hcs, ← houtcome, ← htext]
      have htiles := Tiles.token hblanks hc hscan (htext ▸ ih htail.symm)
      rw [List.cons_append, ← hcs, ← htext] at htiles
      exact htiles

/-- A tiling is what is read. -/
theorem Tiles.lexemesFrom_eq (h : source.Tiles offset cs ts) :
    source.lexemesFrom offset cs = ts.map .ok := by
  induction h with
  | nil hblanks => exact lexemesFrom_blanks hblanks
  | token hblanks hc hscan _ ih =>
    rw [List.cons_append, lexemesFrom_append hblanks hc, hscan]
    simp only [ih, List.map_cons]

/-- **A source has the tokens that its text is tiled with.** -/
theorem tokens_eq_ok_iff_tiles : source.tokens = .ok ts ↔ source.Tiles 0 source.chars ts := by
  unfold tokens lexemes
  rw [collect_eq_ok_iff]
  exact ⟨tiles_of_lexemesFrom, Tiles.lexemesFrom_eq⟩

/-! ### Parts of tilings -/

/-- **A tiling can be cut behind any of its tokens**, and the parts are tilings. -/
theorem Tiles.split (h : source.Tiles offset cs (ts ++ us)) : ∃ front rest, cs = front ++ rest ∧
    source.Tiles offset front ts ∧ source.Tiles (offset + Text.byteLength front) rest us ∧
    (ts.getLast?.map (·.span.stop)).getD offset = offset + Text.byteLength front := by
  induction ts generalizing offset cs with
  | nil => exact ⟨[], cs, rfl, .nil rfl, h, rfl⟩
  | cons t ts ih =>
    cases h with
    | @token _ blanks c cs rest _ token hblanks hc hscan htail =>
      obtain ⟨front, rest, rfl, hfront, hrest, hstop⟩ := ih htail
      refine ⟨blanks ++ (c :: cs ++ front), rest, by simp, ?_, ?_, ?_⟩
      · exact .token hblanks hc (Token.scan_cut hscan) hfront
      · rwa [Text.byteLength_append, Text.byteLength_append, ← Nat.add_assoc, ← Nat.add_assoc]
      · rw [List.getLast?_cons, Option.map_some, Option.getD_some, Text.byteLength_append,
          Text.byteLength_append, ← Nat.add_assoc, ← Nat.add_assoc, ← hstop]
        cases ts.getLast? <;> rfl

/-- The blanks before the first token can be cut off. -/
theorem Tiles.cut_blanks {t : Lexeme} (h : source.Tiles offset cs (t :: ts)) :
    ∃ blanks rest, cs = blanks ++ rest ∧ blanks.all Text.isBlank = true ∧
      t.span.start = offset + Text.byteLength blanks ∧
      source.Tiles t.span.start rest (t :: ts) := by
  cases h with
  | @token _ blanks c cs rest _ token hblanks hc hscan htail =>
    have hnone : ([] : List Char).all Text.isBlank = true := rfl
    exact ⟨blanks, c :: cs ++ rest, rfl, hblanks, rfl, .token hnone hc hscan htail⟩

/-- **Some tokens, next to one another, cut a text into parts**: what is before them, with blanks at
its end, what is from the first to the last of them, and what is behind. -/
theorem Tiles.cut {pre mid post : List Lexeme} {t u : Lexeme}
    (h : source.Tiles 0 cs (pre ++ (mid ++ post))) (ht : t ∈ mid.head?) (hu : u ∈ mid.getLast?) :
    ∃ front blanks body back, cs = front ++ blanks ++ (body ++ back) ∧
      blanks.all Text.isBlank = true ∧ t.span.start = Text.byteLength (front ++ blanks) ∧
      u.span.stop = Text.byteLength (front ++ blanks) + Text.byteLength body ∧
      source.Tiles 0 front pre ∧ source.Tiles t.span.start body mid ∧
      source.Tiles u.span.stop back post := by
  obtain ⟨more, rfl⟩ := List.head?_eq_some_iff.mp ht
  obtain ⟨front, back, rfl, hfront, hback, -⟩ := h.split
  rw [List.cons_append] at hback
  obtain ⟨blanks, back, rfl, hblanks, hstart, hback⟩ := hback.cut_blanks
  rw [← List.cons_append] at hback
  obtain ⟨body, back, rfl, hbody, hback, hstop⟩ := hback.split
  rw [hu, Option.map_some, Option.getD_some] at hstop
  rw [Nat.zero_add, ← Text.byteLength_append] at hstart
  refine ⟨front, blanks, body, back, by simp, hblanks, hstart, hstart ▸ hstop, hfront, hbody, ?_⟩
  rwa [hstop]

/-- What is tiled with tokens is read as these tokens. -/
theorem Tiles.lex_eq (h : source.Tiles offset cs ts) :
    Token.lex cs = (ts.map (·.token)).map .ok := by
  rw [← map_lexemesFrom source offset, h.lexemesFrom_eq, List.map_map, List.map_map]
  rfl

/-- What is behind some tokens is read as the others. -/
theorem Tiles.lex_dropBytes {t : Lexeme} (h : source.Tiles 0 cs (ts ++ us))
    (ht : ts.getLast? = some t) :
    Token.lex (Text.dropBytes t.span.stop cs) = us.map (.ok ·.token) := by
  obtain ⟨front, rest, rfl, -, hrest, hstop⟩ := h.split
  rw [ht, Option.map_some, Option.getD_some, Nat.zero_add] at hstop
  rw [hstop, Text.dropBytes_append, hrest.lex_eq, List.map_map]
  rfl

end Source

/-! ### Tokens in another source -/

/-- A span with its offsets less a number of bytes, in a source that lacks that many at the
front. -/
def Span.shiftLeft (source : Source) (bytes : Nat) (s : Span) : Span :=
  ⟨source, s.start - bytes, s.stop - bytes⟩

/-- A token with another span. -/
def Lexeme.mapSpan (f : Span → Span) (t : Lexeme) : Lexeme := { t with span := f t.span }

namespace Source

variable {source : Source} {offset : Nat} {cs : List Char} {ts : List Lexeme}

/-- A tiling is one from a lower offset on. -/
theorem Tiles.shiftLeft {bytes : Nat} (h : source.Tiles offset cs ts) (hbytes : bytes ≤ offset)
    (source' : Source) : source'.Tiles (offset - bytes) cs
      (ts.map (·.mapSpan (Span.shiftLeft source' bytes))) := by
  induction h with
  | nil hblanks => exact .nil hblanks
  | @token offset blanks c cs rest _ token hblanks hc hscan _ ih =>
    have hstart : offset + Text.byteLength blanks - bytes =
        offset - bytes + Text.byteLength blanks := by omega
    have hstop : offset + Text.byteLength blanks + Text.byteLength (c :: cs) - bytes =
        offset - bytes + Text.byteLength blanks + Text.byteLength (c :: cs) := by omega
    rw [List.map_cons, Lexeme.mapSpan, Span.shiftLeft]
    simp only [hstart, hstop]
    refine .token hblanks hc hscan ?_
    rw [← hstop]
    exact ih (by omega)

/-- **The tokens of a stretch of a source.** The text from the first of some tokens to the last of
them has these tokens, at the same distances from its beginning as from the first. -/
theorem Tiles.excerpt {mid : List Lexeme} {t u : Lexeme} (h : source.Tiles 0 source.chars ts)
    (hmid : mid <:+: ts) (ht : mid.head? = some t) (hu : mid.getLast? = some u) (id : Nat) :
    let excerpt : Source := ⟨id, (Span.mk source t.span.start u.span.stop).text⟩
    excerpt.tokens = .ok (mid.map (·.mapSpan (Span.shiftLeft excerpt t.span.start))) := by
  obtain ⟨pre, post, rfl⟩ := hmid
  rw [List.append_assoc] at h
  obtain ⟨front, blanks, body, back, hchars, -, hstart, hstop, -, hbody, -⟩ := h.cut ht hu
  have htext : (Span.mk source t.span.start u.span.stop).text = String.ofList body := by
    rw [hstop, hstart, Span.text_eq_of_append hchars]
  have hshifted := hbody.shiftLeft (Nat.le_refl _) ⟨id, String.ofList body⟩
  rw [Nat.sub_self] at hshifted
  rw [htext]
  refine tokens_eq_ok_iff_tiles.mpr ?_
  rwa [Source.chars, String.toList_ofList]

/-! ### Tokens in order -/

/-- **Tokens stand in order** in a source: none is empty, and each ends before the next begins. -/
structure InOrder (source : Source) (ts : List Lexeme) : Prop where
  source_eq : ∀ t ∈ ts, t.span.source = source
  start_lt_stop : ∀ t ∈ ts, t.span.start < t.span.stop
  stop_le_start : ts.Pairwise fun t u => t.span.stop ≤ u.span.start

/-- Tokens that are left of tokens in order are in order. -/
theorem InOrder.sublist {us : List Lexeme} (h : source.InOrder ts) (hus : us.Sublist ts) :
    source.InOrder us :=
  ⟨fun t ht => h.source_eq t (hus.subset ht), fun t ht => h.start_lt_stop t (hus.subset ht),
    h.stop_le_start.sublist hus⟩

/-- **The tokens of a tiling stand in order.** -/
theorem Tiles.inOrder (h : source.Tiles offset cs ts) :
    source.InOrder ts ∧ ∀ t ∈ ts, offset ≤ t.span.start := by
  induction h with
  | nil => exact ⟨⟨nofun, nofun, .nil⟩, nofun⟩
  | @token offset blanks c cs rest ts token _ _ _ _ ih =>
    obtain ⟨⟨hsource, hlt, hle⟩, hoffset⟩ := ih
    have hpos := c.utf8Size_pos
    rw [Text.byteLength_cons] at hoffset
    refine ⟨⟨?_, ?_, ?_⟩, ?_⟩
    · exact List.forall_mem_cons.mpr ⟨rfl, hsource⟩
    · refine List.forall_mem_cons.mpr ⟨?_, hlt⟩
      simp only [Text.byteLength_cons]
      omega
    · refine List.pairwise_cons.mpr ⟨?_, hle⟩
      intro t ht
      exact hoffset t ht
    · refine List.forall_mem_cons.mpr ⟨Nat.le_add_right _ _, ?_⟩
      intro t ht
      have := hoffset t ht
      omega

/-- **The tokens of a tiling end within its text.** -/
theorem Tiles.stop_le (h : source.Tiles offset cs ts) :
    ∀ t ∈ ts, t.span.stop ≤ offset + Text.byteLength cs := by
  induction h with
  | nil => exact nofun
  | @token offset blanks c cs rest ts token _ _ _ _ ih =>
    rw [Text.byteLength_append, Text.byteLength_append]
    refine List.forall_mem_cons.mpr ⟨?_, fun t ht => ?_⟩
    · simp only
      omega
    · have := ih t ht
      omega

end Source

end EventFilter
