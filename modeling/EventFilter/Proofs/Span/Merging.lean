import EventFilter.Proofs.Span

/-!
# Merging is a join

Merging spans over one source is joining them: what comes out is the smallest span that contains
all of them, and detached spans count for nothing (`Span.IsHull`). A hull is the same whatever the
order of the spans and however often each occurs, so the laws of merging need no cases of their own:
both sides of each are hulls of the same spans, as are all ways to merge a list
(`Span.Grouping.result_beq`).
Main statement: merging is associative, commutative and idempotent with the detached spans as
identities, and it comes to the least span that contains both (`Span.mergeLaws`).
-/

namespace EventFilter

namespace Span

variable {source : Source} {s t r q : Span} {ss ts : List Span}

/-- **A span contains another one** of the same source. -/
structure Contains (s t : Span) : Prop where
  source_eq : s.source = t.source
  start_le : s.start ≤ t.start
  stop_le : t.stop ≤ s.stop

/-- A span that can be made over a source, or over no text. -/
structure Over (source : Source) (s : Span) : Prop where
  made : s.Made
  detached_or : s.isDetached = true ∨ s.source = source

/-- Spans that contain each other are the same. -/
theorem Contains.antisymm (h : s.Contains t) (h' : t.Contains s) : s = t := by
  obtain ⟨source, start, stop⟩ := s
  obtain ⟨source', start', stop'⟩ := t
  obtain rfl : source = source' := h.source_eq
  obtain rfl : start = start' := Nat.le_antisymm h.start_le h'.start_le
  obtain rfl : stop = stop' := Nat.le_antisymm h'.stop_le h.stop_le
  rfl

/-- A span contains itself. -/
theorem Contains.refl (s : Span) : s.Contains s := ⟨rfl, Nat.le_refl _, Nat.le_refl _⟩

/-- A span that contains one contains all that this one contains. -/
theorem Contains.trans (h : s.Contains t) (h' : t.Contains r) : s.Contains r :=
  ⟨h.source_eq.trans h'.source_eq, Nat.le_trans h.start_le h'.start_le,
    Nat.le_trans h'.stop_le h.stop_le⟩

/-- Equal spans are the same to `==`. -/
theorem beq_self (s : Span) : (s == s) = true := by
  show (s.start == s.start && s.stop == s.stop && s.text == s.text) = true
  simp only [beq_self_eq_true, Bool.and_self]

/-- A detached span that can be made has no text, and begins and ends at zero. -/
theorem Made.of_isDetached (h : s.Made) (hd : s.isDetached = true) :
    s.start = 0 ∧ s.stop = 0 ∧ s.text = "" := by
  have hchars : s.source.chars = [] := by
    rw [Source.chars, String.isEmpty_iff.mp hd]
    rfl
  have hstop := (made_iff_wellFormed.mp h).isBoundary_stop.le_byteLength
  have hle := (made_iff_wellFormed.mp h).start_le_stop
  rw [hchars, Text.byteLength_nil] at hstop
  refine ⟨by omega, by omega, ?_⟩
  rw [text, hchars]
  rfl

/-- **All detached spans that can be made are the same.** -/
theorem beq_of_isDetached (hs : s.Made) (ht : t.Made) (hsd : s.isDetached = true)
    (htd : t.isDetached = true) : (s == t) = true := by
  obtain ⟨hstart, hstop, htext⟩ := hs.of_isDetached hsd
  obtain ⟨hstart', hstop', htext'⟩ := ht.of_isDetached htd
  show (s.start == t.start && s.stop == t.stop && s.text == t.text) = true
  rw [hstart, hstop, htext, hstart', hstop', htext']
  rfl

/-! ### Hulls -/

/-- **The smallest span that contains all of some spans** which are not detached. -/
structure IsHull (ss : List Span) (r : Span) : Prop where
  isDetached_iff : r.isDetached = false ↔ ∃ s ∈ ss, s.isDetached = false
  contains : ∀ s ∈ ss, s.isDetached = false → r.Contains s
  least : r.isDetached = false → ∀ z : Span,
    (∀ s ∈ ss, s.isDetached = false → z.Contains s) → z.Contains r

/-- A span is its own hull. -/
theorem isHull_singleton (s : Span) : IsHull [s] s where
  isDetached_iff := by simp only [List.mem_singleton, exists_eq_left]
  contains := List.forall_mem_singleton.mpr fun _ => .refl s
  least hs _ hz := hz s List.mem_cons_self hs

/-- Spans over a source that are not detached have the same source. -/
theorem Over.source_eq (hs : s.Over source) (ht : t.Over source) (hsd : s.isDetached = false)
    (htd : t.isDetached = false) : s.source = t.source := by
  have hsource := hs.detached_or.resolve_left (Bool.not_eq_true _ ▸ hsd)
  have hsource' := ht.detached_or.resolve_left (Bool.not_eq_true _ ▸ htd)
  rw [hsource, hsource']

/-- Merging keeps spans over a source. -/
theorem Over.merge (hs : s.Over source) (ht : t.Over source) : (s.merge t).Over source := by
  refine ⟨.merge hs.made ht.made, ?_⟩
  cases hsd : s.isDetached with
  | true =>
    rw [merge_of_isDetached hsd]
    exact ht.detached_or
  | false =>
    by_cases hsource : s.source = t.source
    · rw [merge_of_source_eq hsd hsource]
      exact hs.detached_or
    · rw [merge_of_source_ne hsd hsource]
      exact hs.detached_or

/-- **Merging two hulls gives the hull of all spans.** -/
theorem IsHull.merge (hr : IsHull ss r) (hq : IsHull ts q) (hro : r.Over source)
    (hqo : q.Over source) : IsHull (ss ++ ts) (r.merge q) := by
  have hsome : (∃ s ∈ ss ++ ts, s.isDetached = false) ↔
      r.isDetached = false ∨ q.isDetached = false := by
    simp only [List.mem_append, or_and_right, exists_or, hr.isDetached_iff, hq.isDetached_iff]
  cases hrd : r.isDetached with
  | true =>
    rw [merge_of_isDetached hrd]
    refine ⟨?_, ?_, fun hqd z hz => hq.least hqd z (List.forall_mem_append.mp hz).2⟩
    · rw [hsome, hrd, or_iff_right (by decide)]
    · refine List.forall_mem_append.mpr ⟨fun s hs hsd => ?_, hq.contains⟩
      cases hrd.symm.trans (hr.isDetached_iff.mpr ⟨s, hs, hsd⟩)
  | false =>
    cases hqd : q.isDetached with
    | true =>
      have hsource : r.source ≠ q.source := by
        intro heq
        rw [isDetached, heq] at hrd
        cases hrd.symm.trans hqd
      rw [merge_of_source_ne hrd hsource]
      refine ⟨?_, ?_, fun _ z hz => hr.least hrd z (List.forall_mem_append.mp hz).1⟩
      · exact iff_of_true hrd (hsome.mpr (.inl hrd))
      · refine List.forall_mem_append.mpr ⟨hr.contains, fun s hs hsd => ?_⟩
        cases hqd.symm.trans (hq.isDetached_iff.mpr ⟨s, hs, hsd⟩)
    | false =>
      have hsource := hro.source_eq hqo hrd hqd
      rw [merge_of_source_eq hrd hsource]
      have hleft : Contains ⟨r.source, min r.start q.start, max r.stop q.stop⟩ r :=
        ⟨rfl, Nat.min_le_left _ _, Nat.le_max_left _ _⟩
      have hright : Contains ⟨r.source, min r.start q.start, max r.stop q.stop⟩ q :=
        ⟨hsource, Nat.min_le_right _ _, Nat.le_max_right _ _⟩
      refine ⟨iff_of_true hrd (hsome.mpr (.inl hrd)), ?_, ?_⟩
      · exact List.forall_mem_append.mpr ⟨fun s hs hsd => hleft.trans (hr.contains s hs hsd),
          fun s hs hsd => hright.trans (hq.contains s hs hsd)⟩
      · intro _ z hz
        obtain ⟨hzr, hzq⟩ := List.forall_mem_append.mp hz
        have hr' := hr.least hrd z hzr
        have hq' := hq.least hqd z hzq
        exact ⟨hr'.source_eq, Nat.le_min.mpr ⟨hr'.start_le, hq'.start_le⟩,
          Nat.max_le.mpr ⟨hr'.stop_le, hq'.stop_le⟩⟩

/-- **A hull depends only on which spans it is the hull of**, the detached ones left out. -/
theorem IsHull.beq (hr : IsHull ss r) (hq : IsHull ts q) (hrm : r.Made) (hqm : q.Made)
    (hsame : ∀ s, s.isDetached = false → (s ∈ ss ↔ s ∈ ts)) : (r == q) = true := by
  have hiff : r.isDetached = false ↔ q.isDetached = false := by
    rw [hr.isDetached_iff, hq.isDetached_iff]
    exact exists_congr fun s => and_congr_left (hsame s)
  cases hrd : r.isDetached with
  | true =>
    have hqd : q.isDetached = true := by
      rwa [← Bool.not_eq_false, ← hiff, Bool.not_eq_false]
    exact beq_of_isDetached hrm hqm hrd hqd
  | false =>
    have hqd := hiff.mp hrd
    have hqr := hr.least hrd q fun s hs hsd => hq.contains s ((hsame s hsd).mp hs) hsd
    have hrq := hq.least hqd r fun s hs hsd => hr.contains s ((hsame s hsd).mpr hs) hsd
    rw [hrq.antisymm hqr]
    exact beq_self q

/-! ### Ways to merge -/

/-- **A way to merge spans**, one after another or in groups. -/
inductive Grouping
  | one (s : Span)
  | both (left right : Grouping)

namespace Grouping

/-- The spans that are merged, from left to right. -/
def spans : Grouping → List Span
  | one s => [s]
  | both left right => left.spans ++ right.spans

/-- What merging comes to. -/
def result : Grouping → Span
  | one s => s
  | both left right => left.result.merge right.result

/-- **Every way to merge spans over a source comes to their hull.** -/
theorem isHull_result {g : Grouping} (h : ∀ s ∈ g.spans, s.Over source) :
    g.result.Over source ∧ IsHull g.spans g.result := by
  induction g with
  | one s => exact ⟨h s List.mem_cons_self, isHull_singleton s⟩
  | both left right ihl ihr =>
    obtain ⟨hl, hr⟩ := List.forall_mem_append.mp h
    obtain ⟨hlo, hlh⟩ := ihl hl
    obtain ⟨hro, hrh⟩ := ihr hr
    exact ⟨hlo.merge hro, hlh.merge hrh hlo hro⟩

/-- **The way does not matter**, nor how often a span occurs or which detached spans do. -/
theorem result_beq (g g' : Grouping) (h : ∀ s ∈ g.spans, s.Over source)
    (h' : ∀ s ∈ g'.spans, s.Over source)
    (hsame : ∀ s, s.isDetached = false → (s ∈ g.spans ↔ s ∈ g'.spans)) :
    (g.result == g'.result) = true := by
  obtain ⟨ho, hh⟩ := isHull_result h
  obtain ⟨ho', hh'⟩ := isHull_result h'
  exact hh.beq hh' ho.made ho'.made hsame

end Grouping

/-! ### The laws of merging -/

/-- **The laws of merging** for spans that can be made over a source or over no text. -/
structure MergeLaws (source : Source) : Prop where
  /-- merging is associative -/
  assoc : ∀ s t u : Span, s.Over source → t.Over source → u.Over source →
    ((s.merge t).merge u == s.merge (t.merge u)) = true
  /-- merging is commutative -/
  comm : ∀ s t : Span, s.Over source → t.Over source → (s.merge t == t.merge s) = true
  /-- merging is idempotent -/
  idem : ∀ s : Span, s.Over source → (s.merge s == s) = true
  /-- a detached span is an identity on both sides -/
  identity : ∀ d s : Span, d.Over source → d.isDetached = true → s.Over source →
    (d.merge s == s) = true ∧ (s.merge d == s) = true
  /-- two spans of the source merge to the smallest one that contains both -/
  least : ∀ s t : Span, s.Made → t.Made → s.source = source → t.source = source →
    (s.merge t).Made ∧ (s.merge t).Contains s ∧ (s.merge t).Contains t ∧
      ∀ z : Span, z.Contains s → z.Contains t → z.Contains (s.merge t)
  /-- what any number of spans merge to depends neither on their order nor on their grouping -/
  regroup : ∀ g g' : Grouping, (∀ s ∈ g.spans, s.Over source) → g.spans.Perm g'.spans →
    (g.result == g'.result) = true
  /-- of spans of two sources the first one stays -/
  foreign : ∀ s t : Span, s.isDetached = false → t.isDetached = false → s.source ≠ t.source →
    s.merge t = s

/-- **Merging spans is a join**: its laws hold over every source with a text. -/
theorem mergeLaws (source : Source) (hsource : source.text ≠ "") : MergeLaws source where
  assoc s t u hs ht hu := by
    have hall : ∀ r ∈ [s, t, u], r.Over source := by simp [hs, ht, hu]
    exact Grouping.result_beq (.both (.both (.one s) (.one t)) (.one u))
      (.both (.one s) (.both (.one t) (.one u))) hall hall fun _ _ => .rfl
  comm s t hs ht := by
    have hall : ∀ r ∈ [s, t], r.Over source := by simp [hs, ht]
    have hall' : ∀ r ∈ [t, s], r.Over source := by simp [hs, ht]
    exact Grouping.result_beq (.both (.one s) (.one t)) (.both (.one t) (.one s)) hall hall'
      fun _ _ => (List.Perm.swap t s []).mem_iff
  idem s hs := by
    have hall : ∀ r ∈ [s, s], r.Over source := by simp [hs]
    have hall' : ∀ r ∈ [s], r.Over source := by simp [hs]
    exact Grouping.result_beq (.both (.one s) (.one s)) (.one s) hall hall'
      fun r _ => by simp [Grouping.spans]
  identity d s hd hdd hs := by
    have hall : ∀ r ∈ [d, s], r.Over source := by simp [hd, hs]
    have hall' : ∀ r ∈ [s, d], r.Over source := by simp [hd, hs]
    have hone : ∀ r ∈ [s], r.Over source := by simp [hs]
    have hmem (r : Span) (hr : r.isDetached = false) : r ∈ [d, s] ↔ r ∈ [s] := by
      refine List.mem_cons.trans (or_iff_right ?_)
      rintro rfl
      cases hr.symm.trans hdd
    exact ⟨Grouping.result_beq (.both (.one d) (.one s)) (.one s) hall hone hmem,
      Grouping.result_beq (.both (.one s) (.one d)) (.one s) hall' hone
        fun r hr => (List.Perm.swap d s []).mem_iff.trans (hmem r hr)⟩
  least s t hs ht hss hts := by
    have hsd : s.isDetached = false := isDetached_eq_false_iff.mpr (hss ▸ hsource)
    have htd : t.isDetached = false := isDetached_eq_false_iff.mpr (hts ▸ hsource)
    have hull := (isHull_singleton s).merge (isHull_singleton t) ⟨hs, .inr hss⟩ ⟨ht, .inr hts⟩
    have hmd := hull.isDetached_iff.mpr ⟨s, List.mem_cons_self, hsd⟩
    refine ⟨.merge hs ht, hull.contains s List.mem_cons_self hsd,
      hull.contains t (List.mem_cons_of_mem s List.mem_cons_self) htd, fun z hzs hzt => ?_⟩
    refine hull.least hmd z (List.forall_mem_cons.mpr ⟨fun _ => hzs, ?_⟩)
    exact List.forall_mem_singleton.mpr fun _ => hzt
  regroup g g' h hperm :=
    Grouping.result_beq g g' h (fun s hs => h s (hperm.mem_iff.mpr hs)) fun _ _ => hperm.mem_iff
  foreign _ _ hsd _ hne := merge_of_source_ne hsd hne

/-- Spans of one source with a detached one between them, and one of another source. -/
theorem mergeLaws_foreign :
    let source : Source := ⟨0, "a + b"⟩
    let l := within source 0 1
    let r := within source 4 5
    let other := whole ⟨1, "zzz"⟩
    source.text ≠ "" ∧ MergeLaws source ∧
      ((l.merge detached).merge r == (r.merge l).merge detached) = true ∧ l.merge other = l := by
  intro source l r other
  have htext : source.text ≠ "" := by decide
  have hlaws : MergeLaws source := mergeLaws source htext
  have hl : l.Over source := ⟨.within source 0 1, .inr rfl⟩
  have hr : r.Over source := ⟨.within source 4 5, .inr rfl⟩
  have hd : Over source detached := ⟨.detached, .inl rfl⟩
  have hall : ∀ s ∈ [l, detached, r], s.Over source := by simp [hl, hr, hd]
  have hperm : [l, detached, r].Perm [r, l, detached] := @List.perm_append_comm _ [l, detached] [r]
  exact ⟨htext, hlaws, hlaws.regroup (.both (.both (.one l) (.one detached)) (.one r))
    (.both (.both (.one r) (.one l)) (.one detached)) hall hperm,
    hlaws.foreign l other rfl rfl (by decide)⟩

end Span

end EventFilter
