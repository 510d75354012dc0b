import EventFilter.Value

/-!
# Operators

The operators of the language and what they compute on operands that already have the right kind.
Arithmetic wraps around in 32 bits, and only a division or remainder by zero fails. A comparison is
decided from the order of its operands. A connective may be decided by its left operand alone
(`LogicalOp.decidedBy`), in which case the right one plays no part
(`LogicalOp.apply_of_decidedBy`).
-/

namespace EventFilter

/-- The operators with one operand. -/
inductive UnaryOp
  | not
  | negate
  deriving DecidableEq, Inhabited

/-- The operators on integers. -/
inductive ArithmeticOp
  | add
  | sub
  | mul
  | div
  | mod
  deriving DecidableEq, Inhabited

/-- The comparison operators. -/
inductive ComparisonOp
  | eq
  | ne
  | lt
  | le
  | gt
  | ge
  deriving DecidableEq, Inhabited

/-- The connectives. -/
inductive LogicalOp
  | and
  | or
  | xor
  deriving DecidableEq, Inhabited

/-- The operators with two operands. -/
inductive BinaryOp
  | arithmetic (op : ArithmeticOp)
  | comparison (op : ComparisonOp)
  | logical (op : LogicalOp)
  deriving DecidableEq, Inhabited

/-- How an operator is written. -/
def UnaryOp.symbol : UnaryOp → String
  | .not => "NOT"
  | .negate => "-"

/-- How an operator is written. -/
def ArithmeticOp.symbol : ArithmeticOp → String
  | .add => "+"
  | .sub => "-"
  | .mul => "*"
  | .div => "/"
  | .mod => "%"

/-- How an operator is written. -/
def ComparisonOp.symbol : ComparisonOp → String
  | .eq => "="
  | .ne => "<>"
  | .lt => "<"
  | .le => "<="
  | .gt => ">"
  | .ge => ">="

/-- How an operator is written. -/
def LogicalOp.symbol : LogicalOp → String
  | .and => "AND"
  | .or => "OR"
  | .xor => "XOR"

/-- How an operator is written. -/
def BinaryOp.symbol : BinaryOp → String
  | .arithmetic op => op.symbol
  | .comparison op => op.symbol
  | .logical op => op.symbol

/-- **Arithmetic in 32 bits**, `none` on a division or remainder by zero. Quotients are truncated
toward zero, and a remainder has the sign of the dividend. -/
def ArithmeticOp.apply? (op : ArithmeticOp) (a b : Int32) : Option Int32 :=
  match op with
  | .add => some (a + b)
  | .sub => some (a - b)
  | .mul => some (a * b)
  | .div => if b = 0 then none else some (a / b)
  | .mod => if b = 0 then none else some (a % b)

/-- **A comparison**, decided from the order of its operands. -/
def ComparisonOp.test : ComparisonOp → Ordering → Bool
  | .eq, o => o.isEq
  | .ne, o => o.isNe
  | .lt, o => o.isLT
  | .le, o => o.isLE
  | .gt, o => o.isGT
  | .ge, o => o.isGE

/-- The comparisons that are defined between truth values. -/
def ComparisonOp.isEquality : ComparisonOp → Bool
  | .eq | .ne => true
  | .lt | .le | .gt | .ge => false

/-- **A connective** on truth values. -/
def LogicalOp.apply : LogicalOp → Bool → Bool → Bool
  | .and, a, b => a && b
  | .or, a, b => a || b
  | .xor, a, b => a != b

/-- The left operand that decides a connective alone. -/
def LogicalOp.decidedBy : LogicalOp → Option Bool
  | .and => some false
  | .or => some true
  | .xor => none

/-- A left operand that decides a connective is its result. -/
theorem LogicalOp.apply_of_decidedBy {op : LogicalOp} {a : Bool} (h : op.decidedBy = some a)
    (b : Bool) : op.apply a b = a := by
  cases op <;> cases h <;> rfl

/-- The operators of each sort, for looking one up by how it is written. -/
def ArithmeticOp.all : List ArithmeticOp := [.add, .sub, .mul, .div, .mod]

/-- The operators of each sort, for looking one up by how it is written. -/
def ComparisonOp.all : List ComparisonOp := [.eq, .ne, .lt, .le, .gt, .ge]

/-- The operators of each sort, for looking one up by how it is written. -/
def LogicalOp.all : List LogicalOp := [.and, .or, .xor]

/-- The operator with two operands that is written in a given way. -/
def BinaryOp.ofSymbol? (symbol : String) : Option BinaryOp :=
  (ArithmeticOp.all.map BinaryOp.arithmetic ++ ComparisonOp.all.map BinaryOp.comparison ++
    LogicalOp.all.map BinaryOp.logical).find? (·.symbol == symbol)

end EventFilter
