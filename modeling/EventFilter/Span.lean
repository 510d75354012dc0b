import EventFilter.Text.Quoted
import EventFilter.Text.Utf8

/-!
# Sources and spans

A span is a stretch of a source, given by two byte offsets into its text. Every node of an
expression and every error carries one. Spans over one source are joined by `Span.merge`, the
smallest stretch that covers both; spans over different sources cannot be joined, and a span over an
empty text, which is what nodes built by hand begin with, gives way to the other.
Main statement: `Span.within` clamps whatever offsets it is given to two boundaries of the text in
order (`Span.start_le_stop_within`, `Span.isBoundary_start_within`,
`Span.isBoundary_stop_within`).
-/

namespace EventFilter

/-- A text that spans point into. Two sources with the same text are told apart by their `id`. -/
structure Source where
  id : Nat
  text : String
  deriving DecidableEq, Inhabited

/-- The characters of a source. -/
def Source.chars (source : Source) : List Char := source.text.toList

/-- The number of bytes of a source. -/
def Source.length (source : Source) : Nat := Text.byteLength source.chars

/-- **A span**: the stretch of a source between two byte offsets. -/
structure Span where
  source : Source
  start : Nat
  stop : Nat
  deriving DecidableEq, Inhabited

namespace Span

/-- The span between two offsets, each moved down to a boundary, the second one first. -/
def within (source : Source) (start stop : Nat) : Span :=
  let stop' := Text.floorBoundary stop source.chars
  { source, start := Text.floorBoundary (min start stop') source.chars, stop := stop' }

/-- The span of a whole source. -/
def whole (source : Source) : Span := within source 0 source.length

/-- The empty span of a node that no text stands for. -/
def detached : Span := { source := { id := 0, text := "" }, start := 0, stop := 0 }

/-- Whether no text stands behind a span. -/
def isDetached (s : Span) : Bool := s.source.text.isEmpty

/-- The text at a span. -/
def text (s : Span) : String :=
  String.ofList (Text.takeBytes (s.stop - s.start) (Text.dropBytes s.start s.source.chars))

/-- **The smallest span covering two**: of spans over different sources the first one stays, unless
it is detached. -/
def merge (s t : Span) : Span :=
  if s.isDetached then t
  else if s.source = t.source then
    { s with start := min s.start t.start, stop := max s.stop t.stop }
  else s

/-- Spans are the same if they have the same offsets and show the same text, in whatever source. -/
instance : BEq Span where
  beq s t := s.start == t.start && s.stop == t.stop && s.text == t.text

/-- The two offsets of a span. -/
def render (s : Span) : String := s!"{s.start}..{s.stop}"

/-- The two offsets of a span and its text in quotes. -/
def renderQuoted (s : Span) : String :=
  s.render ++ " " ++ String.ofList (Text.quote s.text.toList)

/-- The span that is made from two offsets begins before it ends. -/
theorem start_le_stop_within (source : Source) (start stop : Nat) :
    (within source start stop).start ≤ (within source start stop).stop :=
  Nat.le_trans (Text.floorBoundary_le _ _) (Nat.min_le_right _ _)

/-- The span that is made from two offsets begins at a boundary. -/
theorem isBoundary_start_within (source : Source) (start stop : Nat) :
    Text.IsBoundary source.chars (within source start stop).start :=
  Text.isBoundary_floorBoundary _ _

/-- The span that is made from two offsets ends at a boundary. -/
theorem isBoundary_stop_within (source : Source) (start stop : Nat) :
    Text.IsBoundary source.chars (within source start stop).stop :=
  Text.isBoundary_floorBoundary _ _

end Span

end EventFilter
