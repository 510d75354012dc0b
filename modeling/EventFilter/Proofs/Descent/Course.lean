import EventFilter.Proofs.Descent
import EventFilter.Proofs.Phrase.Reading

/-!
# The course of a descent

What has happened between two states of a descent is a course if the cursor never goes back, loops
and nested procedures move it on, and the primary phrases that begin are counted
(`Descent.Course`). A procedure follows a reading of the tokens at the cursor if it returns with
what the reading comes to, or stops at its error, after a course that has no more primary phrases
than the cursor has passed tokens (`Descent.Follows`). There is one rule for each step of the cursor
or the log, and one for procedures one after another (`Descent.Follows.bind`), so a procedure is
followed along its text.
-/

namespace EventFilter

namespace Descent

variable {α β : Type} {ts rest : List Lexeme} {ending : Span} {s s' s'' : State}
  {around : Around} {p q : Procedure}

/-! ### Nested procedures -/

/-- How many procedures can be called one inside another at one position. -/
def Procedure.rank : Procedure → Nat
  | list => 9
  | expression => 8
  | phrase level => level.rank
  | pattern | set | call => 0

/-- **A procedure can be called at a position**: each of those that have not returned began before
it, or there with a larger rank. -/
def Nests (around : Around) (p : Procedure) (position : Nat) : Prop :=
  ∀ a ∈ around, a.start ≤ position ∧ (a.start = position → p.rank < a.procedure.rank)

/-- Nothing is around the first procedure. -/
theorem nests_nil (p : Procedure) (i : Nat) : Nests [] p i := nofun

/-- Procedures nest in others that began before. -/
theorem nests_of_lt {i : Nat} (h : ∀ a ∈ around, a.start < i) : Nests around p i :=
  fun a ha => ⟨Nat.le_of_lt (h a ha), fun heq => absurd heq (Nat.ne_of_lt (h a ha))⟩

/-- A procedure of a smaller rank can be called at once. -/
theorem Nests.inner {i : Nat} (h : Nests around p i) (hrank : q.rank < p.rank) :
    Nests (⟨p, i⟩ :: around) q i := by
  refine List.forall_mem_cons.mpr ⟨⟨Nat.le_refl i, fun _ => hrank⟩, fun a ha => ?_⟩
  exact ⟨(h a ha).1, fun heq => Nat.lt_trans hrank ((h a ha).2 heq)⟩

/-- Procedures around one that is called have begun. -/
theorem Nests.start_le {i : Nat} (h : Nests around p i) :
    ∀ a ∈ (⟨p, i⟩ :: around : Around), a.start ≤ i :=
  List.forall_mem_cons.mpr ⟨Nat.le_refl i, fun a ha => (h a ha).1⟩

/-- Procedures behind the start of others nest in them. -/
theorem nests_of_start_le {i j : Nat} (h : ∀ a ∈ around, a.start ≤ i) (hlt : i < j) :
    Nests around p j :=
  nests_of_lt fun a ha => Nat.lt_of_le_of_lt (h a ha) hlt

/-! ### Courses -/

/-- **What moves the cursor on does so**: a procedure begins behind each one of its kind that is
around it, and a loop ends behind where it began. -/
def Moment.Progresses : Moment → Prop
  | entered activation around =>
    ∀ a ∈ around, a.procedure = activation.procedure → a.start < activation.start
  | moved _ => True
  | turned _ start stop => start < stop

/-- **The course of a descent** from one position to another, with a number of primary phrases that
begin. -/
structure Course (start stop count : Nat) (ms : List Moment) : Prop where
  start_le_stop : start ≤ stop
  between : ∀ m ∈ ms, start ≤ m.position ∧ m.position ≤ stop
  sorted : ms.Pairwise fun m m' => m.position ≤ m'.position
  progresses : ∀ m ∈ ms, m.Progresses
  countP_isPrimary : ms.countP Moment.isPrimary = count

/-- Nothing happens at a position. -/
theorem Course.nil (i : Nat) : Course i i 0 [] := ⟨Nat.le_refl i, nofun, .nil, nofun, rfl⟩

/-- One moment at the end of a course. -/
theorem Course.single {i : Nat} (m : Moment) (hle : i ≤ m.position) (hm : m.Progresses) :
    Course i m.position ([m].countP Moment.isPrimary) [m] where
  start_le_stop := hle
  between := List.forall_mem_singleton.mpr ⟨hle, Nat.le_refl _⟩
  sorted := List.pairwise_singleton _ m
  progresses := List.forall_mem_singleton.mpr hm
  countP_isPrimary := rfl

/-- One course after another. -/
theorem Course.append {i j k m n : Nat} {ms ms' : List Moment} (h : Course i j m ms)
    (h' : Course j k n ms') : Course i k (m + n) (ms ++ ms') where
  start_le_stop := Nat.le_trans h.start_le_stop h'.start_le_stop
  between := List.forall_mem_append.mpr
    ⟨fun x hx => ⟨(h.between x hx).1, Nat.le_trans (h.between x hx).2 h'.start_le_stop⟩,
      fun x hx => ⟨Nat.le_trans h.start_le_stop (h'.between x hx).1, (h'.between x hx).2⟩⟩
  sorted := List.pairwise_append.mpr ⟨h.sorted, h'.sorted,
    fun x hx y hy => Nat.le_trans (h.between x hx).2 (h'.between y hy).1⟩
  progresses := List.forall_mem_append.mpr ⟨h.progresses, h'.progresses⟩
  countP_isPrimary := by rw [List.countP_append, h.countP_isPrimary, h'.countP_isPrimary]

/-- **A state comes from another one** by a course with a number of primary phrases. -/
def Comes (s s' : State) (count : Nat) : Prop :=
  ∃ ms, s'.log = s.log ++ ms ∧ Course s.position s'.position count ms

/-- Every state comes from itself. -/
theorem Comes.refl (s : State) : Comes s s 0 := ⟨[], (List.append_nil _).symm, .nil _⟩

/-- One course after another. -/
theorem Comes.trans {m n : Nat} (h : Comes s s' m) (h' : Comes s' s'' n) :
    Comes s s'' (m + n) := by
  obtain ⟨ms, hlog, hcourse⟩ := h
  obtain ⟨ms', hlog', hcourse'⟩ := h'
  exact ⟨ms ++ ms', by rw [hlog', hlog, List.append_assoc], hcourse.append hcourse'⟩

/-- The state behind a token. -/
def State.next (s : State) : State := ⟨s.position + 1, s.log ++ [.moved (s.position + 1)]⟩

/-- The state in which a procedure begins. -/
def State.inside (s : State) (p : Procedure) (around : Around) : State :=
  { s with log := s.log ++ [.entered ⟨p, s.position⟩ around] }

/-- The state in which a loop has gone around. -/
def State.turned (s : State) (p : Procedure) (start : Nat) : State :=
  { s with log := s.log ++ [.turned p start s.position] }

/-- The cursor moves on. -/
theorem comes_next (s : State) : Comes s s.next 0 :=
  ⟨_, rfl, .single (.moved (s.position + 1)) (Nat.le_succ _) trivial⟩

/-- A procedure begins where it can be called. -/
theorem comes_inside (h : Nests around p s.position) :
    Comes s (s.inside p around) (if p = .phrase .primary then 1 else 0) := by
  have hprogresses : (Moment.entered ⟨p, s.position⟩ around).Progresses := by
    intro a ha heq
    refine Nat.lt_of_le_of_ne (h a ha).1 fun hstart => ?_
    have hrank := (h a ha).2 hstart
    rw [heq] at hrank
    exact Nat.lt_irrefl _ hrank
  refine ⟨_, rfl, ?_⟩
  have hcourse := Course.single _ (Nat.le_refl s.position) hprogresses
  simp only [List.countP_singleton, Moment.isPrimary, decide_eq_true_eq] at hcourse
  exact hcourse

/-- A loop goes around over some tokens. -/
theorem comes_turned {start : Nat} (h : start < s.position) : Comes s (s.turned p start) 0 :=
  ⟨_, rfl, .single (.turned p start s.position) (Nat.le_refl _) h⟩

/-! ### The cursor in a list of tokens -/

/-- **The cursor is before the rest of some tokens.** -/
def At (ts rest : List Lexeme) (s : State) : Prop :=
  ∃ front, ts = front ++ rest ∧ s.position = front.length

/-- What lies before the cursor and what lies behind it make up the tokens. -/
theorem At.add_length (h : At ts rest s) : s.position + rest.length = ts.length := by
  obtain ⟨front, rfl, hposition⟩ := h
  rw [hposition, List.length_append]

/-- The cursor is further on before fewer tokens. -/
theorem At.position_lt {rest' : List Lexeme} (h : At ts rest s) (h' : At ts rest' s')
    (hlt : rest'.length < rest.length) : s.position < s'.position := by
  have hlength := h.add_length
  have hlength' := h'.add_length
  omega

/-- The cursor moves behind the token before which it is. -/
theorem At.next {t : Lexeme} (h : At ts (t :: rest) s) : At ts rest s.next := by
  obtain ⟨front, rfl, hposition⟩ := h
  refine ⟨front ++ [t], by rw [List.append_assoc]; rfl, ?_⟩
  rw [State.next, hposition, List.length_append]
  rfl

/-- The cursor stays when a procedure begins. -/
theorem At.inside (h : At ts rest s) (p : Procedure) (around : Around) :
    At ts rest (s.inside p around) := h

/-- The cursor stays when a loop goes around. -/
theorem At.turned (h : At ts rest s) (p : Procedure) (start : Nat) :
    At ts rest (s.turned p start) := h

/-- The tokens from the cursor on are those of the rest. -/
theorem At.getElem?_marksOf (h : At ts rest s) (i : Nat) :
    (marksOf ts ending)[s.position + i]? = (marksOf rest ending)[i]? := by
  obtain ⟨front, rfl, hposition⟩ := h
  have hlength : (front.map fun t => (⟨some t.token, t.span⟩ : Mark)).length = front.length :=
    List.length_map _
  rw [hposition, marksOf, List.map_append, List.append_assoc, List.getElem?_append_right (by omega),
    hlength, Nat.add_sub_cancel_left]
  rfl

/-- There is one mark more than there are tokens. -/
theorem length_marksOf (ts : List Lexeme) (ending : Span) :
    (marksOf ts ending).length = ts.length + 1 := by
  rw [marksOf, List.length_append, List.length_map, List.length_singleton]

/-! ### Following a reading -/

/-- **A procedure follows a reading** of the tokens: from a state in which a number of primary
phrases have begun that no token is counted for, it returns with the expression that the reading
comes to, the cursor before the tokens that the reading leaves, or it stops at the error of the
reading. There is a token for each primary phrase that begins, but for one at an error. -/
def Follows (ts : List Lexeme) (owed : Nat) (x : Descent α) (s : State) :
    Except SyntaxError (α × List Lexeme) → Prop
  | .ok (a, rest) => ∃ s' n, x s = some (.ok a, s') ∧ At ts rest s' ∧ Comes s s' n ∧
      s.position + (n + owed) ≤ s'.position
  | .error e => ∃ s' n, x s = some (.error (.refused e), s') ∧ s'.position ≤ ts.length ∧
      Comes s s' n ∧ s.position + (n + owed) ≤ s'.position + 1

variable {owed owed' m : Nat} {x x' : Descent α} {a : α}
  {r : Except SyntaxError (α × List Lexeme)} {f : α → Descent β}
  {g : α × List Lexeme → Except SyntaxError (β × List Lexeme)}

/-- What follows a procedure that returns goes on from where it does. -/
theorem bind_of_ok (h : x s = some (.ok a, s')) : (x >>= f) s = f a s' := by
  show (x s >>= fun y => ExceptT.bindCont f y.1 y.2) = f a s'
  rw [h]
  rfl

/-- Nothing follows a procedure that stops. -/
theorem bind_of_error {e : Fault} (h : x s = some (.error e, s')) :
    (x >>= f) s = some (.error e, s') := by
  show (x s >>= fun y => ExceptT.bindCont f y.1 y.2) = _
  rw [h]
  rfl

/-- **A step first**, and what follows it. -/
theorem Follows.step (h : x s = x' s') (hcomes : Comes s s' m)
    (hcount : s.position + (m + owed) ≤ s'.position + owed') (hx' : Follows ts owed' x' s' r) :
    Follows ts owed x s r := by
  match r, hx' with
  | .error e, ⟨s'', n, hx', hend, hcomes', hcount'⟩ =>
    exact ⟨s'', m + n, h.trans hx', hend, hcomes.trans hcomes', by omega⟩
  | .ok (a, rest), ⟨s'', n, hx', hat, hcomes', hcount'⟩ =>
    exact ⟨s'', m + n, h.trans hx', hat, hcomes.trans hcomes', by omega⟩

/-- A procedure that stops is the last one. -/
theorem Follows.stop {e : SyntaxError} (hx : Follows ts owed x s (.error e)) :
    Follows ts owed (x >>= f) s (.error e) := by
  obtain ⟨s', n, hx, hend, hcomes, hcount⟩ := hx
  exact ⟨s', n, bind_of_error hx, hend, hcomes, hcount⟩

/-- **One procedure after another** follows one reading after another. -/
theorem Follows.bind (hx : Follows ts owed x s r)
    (hf : ∀ a rest s', r = .ok (a, rest) → At ts rest s' → Follows ts 0 (f a) s' (g (a, rest))) :
    Follows ts owed (x >>= f) s (r >>= g) := by
  match r, hx with
  | .error e, hx => exact hx.stop
  | .ok (a, rest), ⟨s', n, hx, hat, hcomes, hcount⟩ =>
    exact .step (bind_of_ok hx) hcomes hcount (hf a rest s' rfl hat)

/-- What has been read is returned. -/
theorem Follows.pure (h : At ts rest s) (a : α) : Follows ts 0 (Pure.pure a) s (.ok (a, rest)) :=
  ⟨s, 0, rfl, h, .refl s, Nat.le_refl _⟩

/-- What is read of a token may be refused. -/
theorem Follows.ofOutcome (h : At ts rest s) (o : Except SyntaxError α) :
    Follows ts 0 (ofOutcome o) s (o >>= fun a => .ok (a, rest)) := by
  cases o with
  | error e => exact ⟨s, 0, rfl, by have := h.add_length; omega, .refl s, Nat.le_succ _⟩
  | ok a => exact .pure h a

/-! ### Steps -/

/-- **A procedure is called** where it can be. -/
theorem Follows.enter {f : Around → Descent α} (h : Nests around p s.position)
    (hp : p ≠ .phrase .primary)
    (hf : Follows ts owed (f (⟨p, s.position⟩ :: around)) (s.inside p around) r) :
    Follows ts owed (enter p around >>= f) s r := by
  have hcount : s.position + ((if p = .phrase .primary then 1 else 0) + owed) ≤
      s.position + owed := by
    rw [if_neg hp]
    omega
  exact .step (bind_of_ok rfl) (comes_inside h) hcount hf

/-- A primary phrase begins, and a token is owed for it. -/
theorem Follows.enter_primary {f : Around → Descent α}
    (h : Nests around (.phrase .primary) s.position)
    (hf : Follows ts 1 (f (⟨.phrase .primary, s.position⟩ :: around))
      (s.inside (.phrase .primary) around) r) :
    Follows ts 0 (Descent.enter (.phrase .primary) around >>= f) s r :=
  .step (bind_of_ok rfl) (comes_inside h) (Nat.le_refl _) hf

/-- The loop of a procedure goes around. -/
theorem Follows.turn {f : Unit → Descent α} {start : Nat} (h : start < s.position)
    (hf : Follows ts owed (f ()) (s.turned p start) r) :
    Follows ts owed (turn p start >>= f) s r :=
  .step (bind_of_ok rfl) (comes_turned h)
    (Nat.add_le_add_left (Nat.le_of_eq (Nat.zero_add owed)) _) hf

/-- A look that leaves the state. -/
theorem Follows.look {a : α} {f : α → Descent β} {r : Except SyntaxError (β × List Lexeme)}
    (hx : x s = some (.ok a, s)) (hf : Follows ts owed (f a) s r) :
    Follows ts owed (x >>= f) s r :=
  .step (bind_of_ok hx) (.refl s) (Nat.add_le_add_left (Nat.le_of_eq (Nat.zero_add owed)) _) hf

/-- The position of the cursor. -/
theorem Follows.position {f : Nat → Descent β} {r : Except SyntaxError (β × List Lexeme)}
    (hf : Follows ts owed (f s.position) s r) :
    Follows ts owed (Descent.position >>= f) s r :=
  .look rfl hf

/-- What is at the cursor, as it is looked at. -/
theorem At.current_eq (h : At ts rest s) :
    current (marksOf ts ending) s = some (.ok (rest.head?.map (·.token)), s) := by
  rw [current, ← Nat.add_zero s.position, h.getElem?_marksOf]
  cases rest <;> rfl

/-- What is behind the token at the cursor, as it is looked at. -/
theorem At.upcoming_eq (h : At ts rest s) :
    upcoming (marksOf ts ending) s = some (.ok (rest[1]?.map (·.token)), s) := by
  rw [upcoming, h.getElem?_marksOf]
  match rest with
  | [] => rfl
  | [_] => rfl
  | _ :: _ :: _ => rfl

/-- The place at the cursor, as it is looked at. -/
theorem At.currentSpan_eq (h : At ts rest s) : currentSpan (marksOf ts ending) s =
    some (.ok ((rest.head?.map (·.span)).getD ending), s) := by
  rw [currentSpan, ← Nat.add_zero s.position, h.getElem?_marksOf]
  cases rest <;> rfl

/-- The token at the cursor. -/
theorem Follows.current {f : Option Token → Descent β} {r : Except SyntaxError (β × List Lexeme)}
    (h : At ts rest s) (hf : Follows ts owed (f (rest.head?.map (·.token))) s r) :
    Follows ts owed (Descent.current (marksOf ts ending) >>= f) s r :=
  .look h.current_eq hf

/-- The place of the token at the cursor. -/
theorem Follows.currentSpan {f : Span → Descent β} {r : Except SyntaxError (β × List Lexeme)}
    (h : At ts rest s) (hf : Follows ts owed (f ((rest.head?.map (·.span)).getD ending)) s r) :
    Follows ts owed (Descent.currentSpan (marksOf ts ending) >>= f) s r :=
  .look h.currentSpan_eq hf

/-- Behind a token, as the cursor moves there. -/
theorem At.advance_eq {t : Lexeme} (h : At ts (t :: rest) s) :
    advance (marksOf ts ending) s = some (.ok (), s.next) := by
  have hlength := h.add_length
  rw [List.length_cons] at hlength
  rw [advance, if_pos (by rw [length_marksOf]; omega)]
  rfl

/-- **The cursor moves behind a token**, which counts for a primary phrase. -/
theorem Follows.advance {t : Lexeme} {f : Unit → Descent β}
    {r : Except SyntaxError (β × List Lexeme)} (h : At ts (t :: rest) s) (howed : owed ≤ 1)
    (hf : Follows ts 0 (f ()) s.next r) :
    Follows ts owed (Descent.advance (marksOf ts ending) >>= f) s r := by
  refine .step (bind_of_ok h.advance_eq) (comes_next s) ?_ hf
  show s.position + (0 + owed) ≤ s.position + 1
  omega

/-- A token that cannot stand at the cursor is refused. -/
theorem Follows.refuse (h : At ts rest s) (howed : owed ≤ 1) (expected : Expected) :
    Follows ts owed (Descent.refuse (marksOf ts ending) expected : Descent α) s
      (.error (Parse.unexpected ending expected rest)) := by
  refine .current h (.currentSpan h ?_)
  have hend := h.add_length
  refine ⟨s, 0, ?_, by omega, .refl s, by omega⟩
  cases rest <;> rfl

/-- The token at the cursor is a given one if the rest begins with it. -/
theorem head?_map_token_eq_some_iff {t : Token} : rest.head?.map (·.token) = some t ↔
    ∃ span rest', rest = ⟨t, span⟩ :: rest' := by
  cases rest with
  | nil => simp
  | cons u rest =>
    constructor
    · rintro ⟨⟩
      exact ⟨u.span, rest, rfl⟩
    · rintro ⟨span, rest', ⟨⟩⟩
      rfl

/-- **A symbol at the cursor is taken**, and the place that it is taken from is in bounds. -/
theorem Follows.expect {symbol : Symbol} {span : Span} {f : Mark → Descent β}
    {r : Except SyntaxError (β × List Lexeme)} (h : At ts (⟨.symbol symbol, span⟩ :: rest) s)
    (hf : Follows ts 0 (f ⟨some (.symbol symbol), span⟩) s.next r) :
    Follows ts 0 (Descent.expect (marksOf ts ending) symbol >>= f) s r := by
  have hmark : (marksOf ts ending)[s.position]? = some ⟨some (.symbol symbol), span⟩ := by
    rw [← Nat.add_zero s.position, h.getElem?_marksOf]
    rfl
  have hexpect : Descent.expect (marksOf ts ending) symbol s =
      some (.ok ⟨some (.symbol symbol), span⟩, s.next) := by
    rw [Descent.expect, bind_of_ok h.current_eq, List.head?_cons, Option.map_some, if_pos rfl,
      bind_of_ok (show Descent.position s = some (.ok s.position, s) from rfl), hmark]
    exact bind_of_ok h.advance_eq
  exact .step (bind_of_ok hexpect) (comes_next s) (Nat.le_succ _) hf

/-- A symbol that is not at the cursor is missed. -/
theorem Follows.expect_of_not {symbol : Symbol} {f : Mark → Descent β} (h : At ts rest s)
    (hrest : ¬∃ span rest', rest = ⟨.symbol symbol, span⟩ :: rest') :
    Follows ts 0 (Descent.expect (marksOf ts ending) symbol >>= f) s
      (.error (Parse.unexpected ending (.symbol symbol) rest)) := by
  refine .stop (.current h ?_)
  rw [if_neg (mt head?_map_token_eq_some_iff.mp hrest)]
  exact .refuse h (Nat.zero_le _) _

/-- A name at the cursor is taken. -/
theorem Follows.expectIdentifier {name : String} {span : Span} {f : String × Span → Descent β}
    {r : Except SyntaxError (β × List Lexeme)} (h : At ts (⟨.identifier name, span⟩ :: rest) s)
    (hf : Follows ts 0 (f (name, span)) s.next r) :
    Follows ts 0 (Descent.expectIdentifier (marksOf ts ending) >>= f) s r := by
  have hexpect : Descent.expectIdentifier (marksOf ts ending) s =
      some (.ok (name, span), s.next) := by
    rw [Descent.expectIdentifier, bind_of_ok h.currentSpan_eq, bind_of_ok h.current_eq]
    exact bind_of_ok h.advance_eq
  exact .step (bind_of_ok hexpect) (comes_next s) (Nat.le_succ _) hf

/-- A name that is not at the cursor is missed. -/
theorem Follows.expectIdentifier_of_not {f : String × Span → Descent β} (h : At ts rest s)
    (hrest : ¬∃ name span rest', rest = ⟨.identifier name, span⟩ :: rest') :
    Follows ts 0 (Descent.expectIdentifier (marksOf ts ending) >>= f) s
      (.error (Parse.unexpected ending .identifier rest)) := by
  refine .stop (.currentSpan h (.current h ?_))
  split
  · rename_i name heq
    exact absurd ⟨name, head?_map_token_eq_some_iff.mp heq⟩ hrest
  · exact .refuse h (Nat.zero_le _) _

/-- **A closing parenthesis is taken** as it is read. -/
theorem Follows.closing {f : Mark → Descent β}
    {g : Span × List Lexeme → Except SyntaxError (β × List Lexeme)} (h : At ts rest s)
    (hf : ∀ span rest', rest = ⟨.symbol .rightParen, span⟩ :: rest' →
      Follows ts 0 (f ⟨some (.symbol .rightParen), span⟩) s.next (g (span, rest'))) :
    Follows ts 0 (Descent.expect (marksOf ts ending) .rightParen >>= f) s
      (Parsed.plain (Parse.closing ending rest) >>= g) := by
  by_cases hclosing : ∃ span rest', rest = ⟨.symbol .rightParen, span⟩ :: rest'
  · obtain ⟨span, rest', rfl⟩ := hclosing
    exact .expect h (hf span rest' rfl)
  · have hread : Parse.closing ending rest =
        .error (Parse.unexpected ending (.symbol .rightParen) rest) := by
      unfold Parse.closing
      split
      · exact absurd ⟨_, _, rfl⟩ hclosing
      · rfl
    rw [hread]
    exact .expect_of_not h hclosing

end Descent

end EventFilter
