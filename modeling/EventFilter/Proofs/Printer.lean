import EventFilter.Proofs.Grammar
import EventFilter.Proofs.Token.Spelling

/-!
# Writing trees

How a tree is written as a text of the language. A tree has the level of its outermost operator
(`Tree.level`), and every operand stands in a place that takes trees up to some level: the left
operand of a chain may be of the same level, the right one must be tighter, the operands of a
comparison and the value before LIKE and IN must be sums at least, and items of lists may be
anything. An operand is put in parentheses if it is looser than its place allows, and only then,
except that a minus is kept away from a number (`Tree.layout`).

A text is laid out first, as tokens with blanks between some of them, so that the tokens of the text
and its characters are two views of one thing.
-/

namespace EventFilter

/-! ### Layouts -/

/-- **A layout**: tokens in order, with `none` for a blank. -/
abbrev Layout := List (Option Token)

namespace Layout

/-- The tokens of a layout. -/
def tokens (l : Layout) : List Token := l.filterMap id

/-- How a token or a blank is written. -/
def piece : Option Token → List Char
  | none => [' ']
  | some token => token.spelling

/-- The characters of a layout. -/
def text (l : Layout) : List Char := l.flatMap piece

/-- A layout in parentheses. -/
def parenthesized (l : Layout) : Layout :=
  some (.symbol .leftParen) :: (l ++ [some (.symbol .rightParen)])

/-- Layouts one after the other, with a comma and a blank between each and the next. -/
def listed (ls : List Layout) : Layout := [some (.symbol .comma), none].intercalate ls

end Layout

/-! ### Levels -/

/-- The token that an operator is written as. -/
def BinaryOp.token : BinaryOp → Token
  | .arithmetic .add => .symbol .plus
  | .arithmetic .sub => .symbol .minus
  | .arithmetic .mul => .symbol .star
  | .arithmetic .div => .symbol .slash
  | .arithmetic .mod => .symbol .percent
  | .comparison op => .symbol op.sign
  | .logical .and => .keyword .and
  | .logical .or => .keyword .or
  | .logical .xor => .keyword .xor

/-- The level of the trees that an operator makes. -/
def BinaryOp.level : BinaryOp → Level
  | .arithmetic .add | .arithmetic .sub => .chain .sum
  | .arithmetic .mul | .arithmetic .div | .arithmetic .mod => .chain .product
  | .comparison _ => .comparison
  | .logical .and => .chain .conjunction
  | .logical .or | .logical .xor => .chain .disjunction

/-- The place of a left operand takes the level of the operator, and that of a comparison takes
sums. -/
def BinaryOp.leftPlace (op : BinaryOp) : Level :=
  match op.level with
  | .chain c => .chain c
  | _ => .chain .sum

/-- The place of a right operand takes the level that is one tighter, and that of a comparison takes
sums. -/
def BinaryOp.rightPlace (op : BinaryOp) : Level :=
  match op.level with
  | .chain c => c.operand
  | _ => .chain .sum

namespace Tree

/-- **The level of a tree** is that of its outermost operator. A negative number is written with a
minus. -/
def level : Tree → Level
  | literal (.integer n) => if n.toInt < 0 then .sign else .primary
  | literal (.boolean _) | literal (.string _) => .primary
  | attr _ | present _ | call _ _ => .primary
  | unary .not _ => .negation
  | unary .negate _ => .sign
  | binary op _ _ => op.level
  | among _ _ | like _ _ => .comparison

/-- Whether a tree is written as a number without a minus. -/
def isNumeral : Tree → Bool
  | literal (.integer n) => 0 ≤ n.toInt
  | _ => false

/-- **The layout of a tree in a place**: in parentheses if the tree is looser than the place
allows. -/
def inPlace (t : Tree) (place : Level) (l : Layout) : Layout :=
  if t.level.rank ≤ place.rank then l else l.parenthesized

end Tree

/-- The layout of a constant. -/
def Value.layout : Value → Layout
  | .boolean true => [some (.keyword .true)]
  | .boolean false => [some (.keyword .false)]
  | .integer n =>
    let digits := some (.number (String.ofList (Nat.toDigits 10 n.toInt.natAbs)))
    if n.toInt < 0 then [some (.symbol .minus), digits] else [digits]
  | .string s => [some (.string s)]

namespace Tree

mutual

/-- **The layout of a tree.** -/
def layout : Tree → Layout
  | literal v => v.layout
  | attr name => [some (.identifier name)]
  | present name => [some (.keyword .present), none, some (.identifier name)]
  | unary .not x => some (.keyword .not) :: none :: x.inPlace .negation x.layout
  | unary .negate x =>
    some (.symbol .minus) ::
      if x.isNumeral then x.layout.parenthesized else x.inPlace .sign x.layout
  | binary op l r =>
    l.inPlace op.leftPlace l.layout ++ none :: some op.token :: none ::
      r.inPlace op.rightPlace r.layout
  | among x set =>
    x.inPlace (.chain .sum) x.layout ++ none :: some (.keyword .among) :: none ::
      (Layout.listed (layouts set)).parenthesized
  | like x p =>
    x.inPlace (.chain .sum) x.layout ++
      [none, some (.keyword .like), none, some (.string p.text)]
  | call name args => some (.identifier name) :: (Layout.listed (layouts args)).parenthesized

/-- The layouts of a list of trees. -/
def layouts : List Tree → List Layout
  | [] => []
  | t :: ts => t.layout :: layouts ts

end

@[simp] theorem layouts_eq_map (ts : List Tree) : layouts ts = ts.map layout := by
  induction ts with
  | nil => rfl
  | cons t ts ih => rw [layouts, ih, List.map_cons]

/-- **The text of a tree.** -/
def print (t : Tree) : String := String.ofList t.layout.text

end Tree

end EventFilter
