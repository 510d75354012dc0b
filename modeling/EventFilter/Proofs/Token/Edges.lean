import EventFilter.Proofs.Token.Tiling

/-!
# The edges of tokens

No token begins or ends with a blank character, though there may be blanks inside a string literal.
So what trimming takes off a text with tokens is exactly what stands before the first of them and
behind the last.
Main statement: the trimmed text of a source is the stretch from its first token to its last
(`Source.Tiles.text_eq_trim`).
-/

namespace EventFilter

/-! ### Trimmed texts -/

namespace Text

/-- **A trimmed text**: it has characters, and neither the first nor the last of them is blank. -/
structure IsTrimmed (cs : List Char) : Prop where
  head : ∃ c ∈ cs.head?, isBlank c = false
  last : ∃ c ∈ cs.getLast?, isBlank c = false

variable {front body back mid : List Char}

/-- Two trimmed texts with anything between them make a trimmed text. -/
theorem IsTrimmed.append (hfront : IsTrimmed front) (hback : IsTrimmed back) (mid : List Char) :
    IsTrimmed (front ++ (mid ++ back)) := by
  obtain ⟨c, hc, hblank⟩ := hfront.head
  obtain ⟨d, hd, hblank'⟩ := hback.last
  refine ⟨⟨c, ?_, hblank⟩, d, ?_, hblank'⟩
  · rw [List.head?_append, hc, Option.some_or]
    rfl
  · rw [List.getLast?_append, List.getLast?_append, hd, Option.some_or, Option.some_or]
    rfl

/-- Blanks before a trimmed text are dropped. -/
theorem IsTrimmed.dropWhile_append (hbody : IsTrimmed body) (hfront : front.all isBlank = true)
    (back : List Char) : (front ++ (body ++ back)).dropWhile isBlank = body ++ back := by
  obtain ⟨c, hc, hblank⟩ := hbody.head
  refine (Token.span_append hfront ?_).2
  rw [List.head?_append, hc, Option.some_or]
  rintro _ ⟨⟩
  exact hblank

/-- A trimmed text is trimmed backwards as well. -/
theorem IsTrimmed.reverse (hbody : IsTrimmed body) : IsTrimmed body.reverse := by
  refine ⟨?_, ?_⟩
  · rw [List.head?_reverse]
    exact hbody.last
  · rw [List.getLast?_reverse]
    exact hbody.head

/-- **Trimming takes off the blanks around a trimmed text** and nothing else. -/
theorem IsTrimmed.trim_append (hbody : IsTrimmed body) (hfront : front.all isBlank = true)
    (hback : back.all isBlank = true) : trim (front ++ (body ++ back)) = body := by
  have hreverse : back.reverse.all isBlank = true := by rwa [List.all_reverse]
  have hdrop := hbody.reverse.dropWhile_append hreverse []
  rw [List.append_nil] at hdrop
  rw [trim, hbody.dropWhile_append hfront, List.reverse_append, hdrop, List.reverse_reverse]

end Text

/-! ### The last characters of tokens -/

namespace Token

variable {c : Char} {cs text rest : List Char} {token : Token}

/-- No blank goes on a name. -/
theorem isNamePart_of_isBlank (h : Text.isBlank c = true) : isNamePart c = false := by
  have hall : (Text.blankRanges.all fun r =>
      (List.range' r.1 (r.2 + 1 - r.1)).all fun n => !isNamePart (Char.ofNat n)) = true := by
    decide +kernel
  obtain ⟨r, hr, hfirst, hlast⟩ := Text.inRanges_eq_true_iff.mp h
  have hmem : c.toNat ∈ List.range' r.1 (r.2 + 1 - r.1) :=
    List.mem_range'_1.mpr ⟨hfirst, by omega⟩
  have hc := List.all_eq_true.mp (List.all_eq_true.mp hall r hr) _ hmem
  rwa [Char.ofNat_toNat, Bool.not_eq_true'] at hc

/-- A string literal ends with its quote. -/
theorem getLast?_text_of_stringBody {quote : Char} {body : StringBody}
    (h : stringBody quote cs = some body) : body.text.getLast? = some quote := by
  fun_induction stringBody quote cs generalizing body with
  | case1 | case5 => cases h
  | case2 | case4 =>
    cases h
    rfl
  | case3 ds ih | case6 ds _ ih | case7 ds _ _ ih | case8 d ds _ _ _ ih | case9 c cs _ _ ih =>
    obtain ⟨b, hb, rfl⟩ := Option.map_eq_some_iff.mp h
    rw [StringBody.cons, List.getLast?_append, ih hb, Option.some_or]

/-- **No token ends with a blank.** -/
theorem isBlank_getLast?_of_scan (h : scan c cs = ⟨.ok token, c :: text, rest⟩)
    (hc : Text.isBlank c = false) : ∀ d ∈ (c :: text).getLast?, Text.isBlank d = false := by
  -- The characters of names and numbers are not blank, wherever they stand.
  have hrun {p : Char → Bool} (hp : ∀ d, p d = true → Text.isBlank d = false)
      (htext : text = cs.takeWhile p) : ∀ d ∈ (c :: text).getLast?, Text.isBlank d = false := by
    intro d hd
    rcases List.mem_cons.mp (List.mem_of_getLast? hd) with rfl | hd
    · exact hc
    · rw [htext] at hd
      exact hp d (List.mem_takeWhile_imp hd)
  unfold scan at h
  split at h
  · rename_i spelled s hfind
    obtain ⟨-, htext, -⟩ := Scanned.mk.inj h
    have hall : (Symbol.spellings.all fun p => p.1.all fun d => !Text.isBlank d) = true := by
      decide +kernel
    have hspelled := List.all_eq_true.mp hall _ (List.mem_of_find?_eq_some hfind)
    rw [htext] at hspelled
    intro d hd
    have hd := List.all_eq_true.mp hspelled d (List.mem_of_getLast? hd)
    rwa [Bool.not_eq_true'] at hd
  split at h
  · split at h
    · rename_i body hbody
      obtain ⟨-, htext, -⟩ := Scanned.mk.inj h
      rw [← htext, List.getLast?_cons, getLast?_text_of_stringBody hbody, Option.getD_some]
      rintro _ ⟨⟩
      exact hc
    · cases (Scanned.mk.inj h).1
  split at h
  · obtain ⟨-, htext, -⟩ := Scanned.mk.inj h
    refine hrun (p := isNamePart) ?_ (List.cons.inj htext).2.symm
    intro d hd
    rw [← Bool.not_eq_true]
    intro hblank
    rw [isNamePart_of_isBlank hblank] at hd
    cases hd
  split at h
  · obtain ⟨-, htext, -⟩ := Scanned.mk.inj h
    exact hrun (fun d hd => (of_isDigit hd).1) (List.cons.inj htext).2.symm
  · cases (Scanned.mk.inj h).1

end Token

/-! ### The stretch from the first token to the last -/

namespace Source

variable {source : Source} {offset : Nat} {cs : List Char} {ts : List Lexeme} {t u : Lexeme}

/-- **A tiling is a trimmed text between blanks**, from the first token to the last. -/
theorem Tiles.exists_isTrimmed (h : source.Tiles offset cs ts) (ht : t ∈ ts.head?)
    (hu : u ∈ ts.getLast?) : ∃ front body back, cs = front ++ (body ++ back) ∧
      front.all Text.isBlank = true ∧ back.all Text.isBlank = true ∧ Text.IsTrimmed body ∧
      t.span.start = offset + Text.byteLength front ∧
      u.span.stop = t.span.start + Text.byteLength body := by
  induction h generalizing t with
  | nil => cases ht
  | @token offset blanks c cs rest ts token hblanks hc hscan htail ih =>
    cases ht
    have hlast := Token.isBlank_getLast?_of_scan hscan hc
    rw [List.getLast?_cons] at hlast
    have htoken : Text.IsTrimmed (c :: cs) :=
      ⟨⟨c, rfl, hc⟩, _, List.getLast?_cons, hlast _ rfl⟩
    cases ts with
    | nil =>
      cases hu
      cases htail with
      | nil hrest => exact ⟨blanks, c :: cs, rest, rfl, hblanks, hrest, htoken, rfl, rfl⟩
    | cons t' ts =>
      obtain ⟨front, body, back, rfl, -, hback, hbody, hstart, hstop⟩ := ih rfl hu
      refine ⟨blanks, c :: cs ++ (front ++ body), back, by simp, hblanks, hback,
        htoken.append hbody front, rfl, ?_⟩
      simp only [hstop, hstart, Text.byteLength_append]
      omega

/-- **The trimmed text of a source** is the stretch from its first token to its last. -/
theorem Tiles.text_eq_trim (h : source.Tiles 0 source.chars ts) (ht : t ∈ ts.head?)
    (hu : u ∈ ts.getLast?) : (Span.mk source t.span.start u.span.stop).text =
      String.ofList (Text.trim source.chars) := by
  obtain ⟨front, body, back, hchars, hfront, hback, hbody, hstart, hstop⟩ :=
    h.exists_isTrimmed ht hu
  rw [Nat.zero_add] at hstart
  rw [hstop, hstart, Span.text_eq_of_append hchars, hchars, hbody.trim_append hfront hback]

end Source

end EventFilter
