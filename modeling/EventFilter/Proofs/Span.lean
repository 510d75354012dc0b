import Mathlib.Order.Bounds.Defs
import EventFilter.Span

/-!
# Spans that can be made

A span is made of two offsets into a source, of a whole source or of no source at all, or it is
merged from spans made before, over whatever sources (`Span.Made`). A cut of a text between two
offsets is possible only if both are boundaries in order (`Text.slice?`), so a span with arbitrary
offsets need not show a text (`Span.text?`). The made spans are exactly those whose offsets are
boundaries in order (`Span.made_iff_wellFormed`).
Main statement: a made span lies between boundaries of its source and shows its text, and a span
made of two offsets goes from and to the largest boundaries that they allow
(`Span.bounds_and_clamping`).
-/

namespace EventFilter

/-! ### Cuts that can fail -/

namespace Text

variable {start stop : Nat} {cs front middle : List Char}

/-- **The parts of a text before and behind an offset**, `none` inside a character and behind the
end. -/
def splitAt? : Nat → List Char → Option (List Char × List Char)
  | 0, cs => some ([], cs)
  | _ + 1, [] => none
  | n + 1, c :: cs =>
    if c.utf8Size ≤ n + 1 then
      (splitAt? (n + 1 - c.utf8Size) cs).map fun parts => (c :: parts.1, parts.2)
    else none

/-- **The part of a text between two offsets**, `none` if the text cannot be cut at both of them, or
they are not in order. -/
def slice? (start stop : Nat) (cs : List Char) : Option (List Char) :=
  (splitAt? stop cs).bind fun outer => (splitAt? start outer.1).map fun inner => inner.2

/-- A text is cut at the end of a prefix. -/
theorem splitAt?_append (front back : List Char) :
    splitAt? (byteLength front) (front ++ back) = some (front, back) := by
  induction front with
  | nil => rw [byteLength_nil, List.nil_append, splitAt?]
  | cons c front ih =>
    obtain ⟨n, hn⟩ := Nat.exists_eq_add_one.mpr c.utf8Size_pos
    have hlength : byteLength (c :: front) = n + byteLength front + 1 := by
      rw [byteLength_cons]
      omega
    rw [hlength, List.cons_append, splitAt?, if_pos (by omega), ← hlength, byteLength_cons,
      Nat.add_sub_cancel_left, ih]
    rfl

/-- The parts of a text that is cut make it up. -/
theorem splitAt?_eq_some_iff {n : Nat} {back : List Char} :
    splitAt? n cs = some (front, back) ↔ cs = front ++ back ∧ byteLength front = n := by
  constructor
  · intro h
    fun_induction splitAt? n cs generalizing front with
    | case1 cs =>
      cases h
      exact ⟨rfl, rfl⟩
    | case2 => cases h
    | case3 n c cs hc ih =>
      obtain ⟨⟨front, back⟩, hsplit, ⟨⟩⟩ := Option.map_eq_some_iff.mp h
      obtain ⟨rfl, hlength⟩ := ih hsplit
      refine ⟨rfl, ?_⟩
      rw [byteLength_cons, hlength]
      omega
    | case4 => cases h
  · rintro ⟨rfl, rfl⟩
    exact splitAt?_append front back

/-- **What lies between two offsets** is preceded and followed by the rest of the text. -/
theorem slice?_eq_some_iff : slice? start stop cs = some middle ↔ ∃ front back,
    cs = front ++ (middle ++ back) ∧ byteLength front = start ∧
      byteLength front + byteLength middle = stop := by
  unfold slice?
  simp only [Option.bind_eq_some_iff, Option.map_eq_some_iff, Prod.exists, splitAt?_eq_some_iff]
  constructor
  · rintro ⟨_, back, ⟨rfl, rfl⟩, front, _, ⟨rfl, rfl⟩, rfl⟩
    exact ⟨front, back, List.append_assoc _ _ _, rfl, (byteLength_append _ _).symm⟩
  · rintro ⟨front, back, rfl, rfl, rfl⟩
    exact ⟨front ++ middle, back, ⟨(List.append_assoc _ _ _).symm, byteLength_append _ _⟩,
      front, middle, ⟨rfl, rfl⟩, rfl⟩

/-- A boundary is not behind the end. -/
theorem IsBoundary.le_byteLength {n : Nat} (h : IsBoundary cs n) : n ≤ byteLength cs := by
  obtain ⟨front, back, rfl, rfl⟩ := h
  rw [byteLength_append]
  exact Nat.le_add_right _ _

/-- **A text is cut at boundaries in order**, and nowhere else. -/
theorem exists_slice?_iff (start stop : Nat) (cs : List Char) :
    (∃ middle, slice? start stop cs = some middle) ↔
      start ≤ stop ∧ IsBoundary cs start ∧ IsBoundary cs stop := by
  simp only [slice?_eq_some_iff]
  constructor
  · rintro ⟨middle, front, back, rfl, rfl, rfl⟩
    exact ⟨Nat.le_add_right _ _, ⟨front, _, rfl, rfl⟩,
      ⟨front ++ middle, back, (List.append_assoc _ _ _).symm, byteLength_append _ _⟩⟩
  · rintro ⟨hle, ⟨front, rest, rfl, rfl⟩, whole, back, hwhole, rfl⟩
    rcases List.append_eq_append_iff.mp hwhole with ⟨middle, rfl, rfl⟩ | ⟨more, rfl, rfl⟩
    · exact ⟨middle, front, back, rfl, rfl, (byteLength_append _ _).symm⟩
    · cases more with
      | nil => exact ⟨[], whole, rest, by rw [List.append_nil, List.nil_append],
          by rw [List.append_nil], rfl⟩
      | cons c more =>
        have hc := c.utf8Size_pos
        rw [byteLength_append, byteLength_cons] at hle
        omega

/-- **A cut goes down to the largest boundary** that is not above the given offset. -/
theorem isGreatest_floorBoundary (n : Nat) (cs : List Char) :
    IsGreatest {b | IsBoundary cs b ∧ b ≤ n} (floorBoundary n cs) :=
  ⟨⟨isBoundary_floorBoundary n cs, floorBoundary_le n cs⟩, fun _ hb => le_floorBoundary hb.1 hb.2⟩

end Text

namespace Span

variable {s t : Span}

/-! ### The text at a span -/

/-- **The text at a span**, `none` if the source cannot be cut at its offsets. -/
def text? (s : Span) : Option String :=
  (Text.slice? s.start s.stop s.source.chars).map String.ofList

/-- The text at a span from the end of one part of a source to the end of the next one. -/
theorem text_eq_of_append {source : Source} {front body back : List Char}
    (h : source.chars = front ++ (body ++ back)) :
    (Span.mk source (Text.byteLength front)
      (Text.byteLength front + Text.byteLength body)).text = String.ofList body := by
  rw [Span.text, Nat.add_sub_cancel_left, h, Text.dropBytes_append, Text.takeBytes_append]

/-- What is cut out of a source is the text at the span. -/
theorem text?_eq_some {text : String} (h : s.text? = some text) : text = s.text := by
  obtain ⟨source, start, stop⟩ := s
  obtain ⟨body, hslice, rfl⟩ := Option.map_eq_some_iff.mp h
  obtain ⟨front, back, hchars, rfl, rfl⟩ := Text.slice?_eq_some_iff.mp hslice
  exact (text_eq_of_append hchars).symm

/-! ### Merging by cases -/

/-- A span is detached if its source has no text. -/
theorem isDetached_eq_false_iff : s.isDetached = false ↔ s.source.text ≠ "" := by
  rw [← Bool.not_eq_true, isDetached, String.isEmpty_iff]

/-- A detached span gives way. -/
theorem merge_of_isDetached (h : s.isDetached = true) (t : Span) : s.merge t = t := if_pos h

/-- Two spans over one source, which has a text, are merged. -/
theorem merge_of_source_eq (h : s.isDetached = false) (hsource : s.source = t.source) :
    s.merge t = ⟨s.source, min s.start t.start, max s.stop t.stop⟩ := by
  rw [merge, h, if_neg Bool.false_ne_true, if_pos hsource]

/-- Of spans over two sources the first one stays, if it has a text. -/
theorem merge_of_source_ne (h : s.isDetached = false) (hsource : s.source ≠ t.source) :
    s.merge t = s := by
  rw [merge, h, if_neg Bool.false_ne_true, if_neg hsource]

/-! ### Well-formed spans -/

/-- **A well-formed span** goes from one boundary of its source to another that is not before it. -/
structure WellFormed (s : Span) : Prop where
  start_le_stop : s.start ≤ s.stop
  isBoundary_start : Text.IsBoundary s.source.chars s.start
  isBoundary_stop : Text.IsBoundary s.source.chars s.stop

/-- A span is well formed if the source can be cut at its offsets. -/
theorem exists_text?_iff : (∃ text, s.text? = some text) ↔ s.WellFormed := by
  have hcut := Text.exists_slice?_iff s.start s.stop s.source.chars
  simp only [text?, Option.map_eq_some_iff]
  constructor
  · rintro ⟨_, middle, hslice, rfl⟩
    obtain ⟨hle, hstart, hstop⟩ := hcut.mp ⟨middle, hslice⟩
    exact ⟨hle, hstart, hstop⟩
  · rintro ⟨hle, hstart, hstop⟩
    obtain ⟨middle, hslice⟩ := hcut.mpr ⟨hle, hstart, hstop⟩
    exact ⟨_, middle, hslice, rfl⟩

/-- A well-formed span shows its text. -/
theorem WellFormed.text?_eq (h : s.WellFormed) : s.text? = some s.text := by
  obtain ⟨text, htext⟩ := exists_text?_iff.mpr h
  rw [htext, text?_eq_some htext]

/-- A span made of two offsets is well formed. -/
theorem wellFormed_within (source : Source) (start stop : Nat) :
    (within source start stop).WellFormed :=
  ⟨start_le_stop_within _ _ _, isBoundary_start_within _ _ _, isBoundary_stop_within _ _ _⟩

/-- The empty span of no text is well formed. -/
theorem wellFormed_detached : detached.WellFormed :=
  ⟨Nat.le_refl 0, ⟨[], [], rfl, rfl⟩, ⟨[], [], rfl, rfl⟩⟩

/-- **Merging keeps spans well formed**, whatever their sources. -/
theorem WellFormed.merge (hs : s.WellFormed) (ht : t.WellFormed) : (s.merge t).WellFormed := by
  cases hdetached : s.isDetached with
  | true =>
    rw [merge_of_isDetached hdetached]
    exact ht
  | false =>
    by_cases hsource : s.source = t.source
    · rw [merge_of_source_eq hdetached hsource]
      refine ⟨?_, ?_, ?_⟩
      · exact Nat.le_trans (Nat.min_le_left _ _)
          (Nat.le_trans hs.start_le_stop (Nat.le_max_left _ _))
      · rcases Nat.le_total s.start t.start with hle | hle
        · simpa only [Nat.min_eq_left hle] using hs.isBoundary_start
        · simpa only [Nat.min_eq_right hle, hsource] using ht.isBoundary_start
      · rcases Nat.le_total s.stop t.stop with hle | hle
        · simpa only [Nat.max_eq_right hle, hsource] using ht.isBoundary_stop
        · simpa only [Nat.max_eq_left hle] using hs.isBoundary_stop
    · rw [merge_of_source_ne hdetached hsource]
      exact hs

/-- A well-formed span is made of its own offsets. -/
theorem WellFormed.within_eq (h : s.WellFormed) : within s.source s.start s.stop = s := by
  rw [within, Text.floorBoundary_eq_self h.isBoundary_stop, Nat.min_eq_left h.start_le_stop,
    Text.floorBoundary_eq_self h.isBoundary_start]

/-! ### Spans that can be made -/

/-- **Spans that can be made** by any number of steps: of two offsets into a source, of a whole
source, of no source, or of two spans by merging them. -/
inductive Made : Span → Prop
  | within (source : Source) (start stop : Nat) : Made (within source start stop)
  | whole (source : Source) : Made (whole source)
  | detached : Made detached
  | default : Made default
  | merge {s t : Span} : Made s → Made t → Made (s.merge t)

/-- **The spans that can be made are those that are well formed.** -/
theorem made_iff_wellFormed : s.Made ↔ s.WellFormed := by
  constructor
  · intro h
    induction h with
    | within source start stop => exact wellFormed_within source start stop
    | whole source => exact wellFormed_within source 0 source.length
    | detached | default => exact wellFormed_detached
    | merge _ _ ihs iht => exact ihs.merge iht
  · intro h
    rw [← h.within_eq]
    exact .within _ _ _

/-- **Spans keep to boundaries of their sources.** A span can be made exactly if it begins at a
boundary of its source and ends at one that is not before the first and not behind the end of the
source, and then the source can be cut there. A span made of two offsets ends at the largest
boundary up to the second one and to the end of the source, and begins at the largest boundary up
to the first one and to where it ends. -/
theorem bounds_and_clamping :
    (∀ s : Span, s.Made ↔ s.start ≤ s.stop ∧ s.stop ≤ s.source.length ∧
      Text.IsBoundary s.source.chars s.start ∧ Text.IsBoundary s.source.chars s.stop) ∧
    (∀ s : Span, s.Made → s.text? = some s.text) ∧
    ∀ source start stop, (within source start stop).source = source ∧
      IsGreatest {b | Text.IsBoundary source.chars b ∧ b ≤ min stop source.length}
        (within source start stop).stop ∧
      IsGreatest {b | Text.IsBoundary source.chars b ∧ b ≤ min start (within source start stop).stop}
        (within source start stop).start := by
  refine ⟨fun s => ?_, fun s hs => (made_iff_wellFormed.mp hs).text?_eq,
    fun source start stop => ⟨rfl, ?_, Text.isGreatest_floorBoundary _ _⟩⟩
  · rw [made_iff_wellFormed]
    constructor
    · rintro ⟨hle, hstart, hstop⟩
      exact ⟨hle, hstop.le_byteLength, hstart, hstop⟩
    · rintro ⟨hle, -, hstart, hstop⟩
      exact ⟨hle, hstart, hstop⟩
  · have hgreatest := Text.isGreatest_floorBoundary stop source.chars
    refine ⟨⟨hgreatest.1.1, ?_⟩, fun b hb => hgreatest.2 ⟨hb.1, ?_⟩⟩
    · exact Nat.le_min.mpr ⟨hgreatest.1.2, hgreatest.1.1.le_byteLength⟩
    · exact Nat.le_trans hb.2 (Nat.min_le_left _ _)

/-- An offset inside a letter of two bytes goes down to where the letter begins, and one behind the
end to the end. -/
theorem bounds_and_clamping_accent :
    let source : Source := ⟨0, "héllo"⟩
    let s := (within source 0 2).merge (within source 3 100)
    s.Made ∧ s.text? = some "héllo" ∧ (within source 0 2).text = "h" :=
  have hmade : Made _ := .merge (.within ⟨0, "héllo"⟩ 0 2) (.within ⟨0, "héllo"⟩ 3 100)
  ⟨hmade, bounds_and_clamping.2.1 _ hmade, by decide +kernel⟩

end Span

end EventFilter
