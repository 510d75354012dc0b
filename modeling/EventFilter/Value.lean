import EventFilter.Text.Decimal

/-!
# Values and coercion

The three kinds of values an expression can have, and the implicit conversions between them. Every
value has a text; only a text that is a decimal number turns into an integer; nothing turns into a
boolean, and a boolean never into an integer. Main statement: a conversion yields a value of the
wanted kind (`Value.kind_of_coerce`).
-/

namespace EventFilter

/-- The kinds of values. -/
inductive Kind
  | boolean
  | integer
  | string
  deriving DecidableEq, Inhabited

/-- The name of a kind. -/
def Kind.name : Kind → String
  | .boolean => "Boolean"
  | .integer => "Integer"
  | .string => "String"

/-- The kind with a given name. -/
def Kind.ofName? (name : String) : Option Kind :=
  [Kind.boolean, .integer, .string].find? (·.name == name)

/-- **A value** of the filter language: a truth value, a 32-bit integer or a text. -/
inductive Value
  | boolean (b : Bool)
  | integer (n : Int32)
  | string (s : String)
  deriving DecidableEq, Inhabited

/-- A value that does not turn into the kind that is asked for. -/
structure CoercionError where
  value : Value
  target : Kind
  deriving DecidableEq

namespace Value

/-- The kind of a value. -/
def kind : Value → Kind
  | .boolean _ => .boolean
  | .integer _ => .integer
  | .string _ => .string

/-- The text of a value. -/
def text : Value → String
  | .boolean true => "true"
  | .boolean false => "false"
  | .integer n => String.ofList (Text.writeInt32 n)
  | .string s => s

/-- **A value as an integer**: itself, or the number that its text is. -/
def toInteger : Value → Except CoercionError Int32
  | .integer n => .ok n
  | .string s =>
    match Text.readInt32? s.toList with
    | some n => .ok n
    | none => .error ⟨.string s, .integer⟩
  | .boolean b => .error ⟨.boolean b, .integer⟩

/-- **A value as a truth value**: only itself. -/
def toBoolean : Value → Except CoercionError Bool
  | .boolean b => .ok b
  | v => .error ⟨v, .boolean⟩

/-- **A value as one of a given kind.** -/
def coerce (v : Value) : Kind → Except CoercionError Value
  | .boolean => v.toBoolean.map .boolean
  | .integer => v.toInteger.map .integer
  | .string => .ok (.string v.text)

/-- A conversion yields a value of the kind that is asked for. -/
theorem kind_of_coerce {v w : Value} {k : Kind} (h : v.coerce k = .ok w) : w.kind = k := by
  cases k with
  | boolean =>
    simp only [coerce] at h
    cases hb : v.toBoolean with
    | error e => rw [hb] at h; cases h
    | ok b => rw [hb] at h; cases h; rfl
  | integer =>
    simp only [coerce] at h
    cases hn : v.toInteger with
    | error e => rw [hn] at h; cases h
    | ok n => rw [hn] at h; cases h; rfl
  | string => cases h; rfl

end Value

/-- What a failed conversion says. -/
def CoercionError.message (e : CoercionError) : String :=
  s!"cannot convert {e.value.kind.name} value '{e.value.text}' to {e.target.name}"

end EventFilter
