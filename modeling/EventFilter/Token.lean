import EventFilter.Text.Case

/-!
# Tokens

The words of the filter language: names, numbers and string literals, which carry a text, and the
keywords and symbols, which do not. Keywords are recognised whatever the case of their ASCII
letters (`Keyword.ofText?`); a symbol may have more than one spelling (`Symbol.spellings`).
-/

namespace EventFilter

/-- The words that cannot be attribute names. -/
inductive Keyword
  | and
  | or
  | xor
  | not
  | like
  | among
  | present
  | true
  | false
  deriving DecidableEq, Inhabited

/-- A keyword as it is written in upper case. -/
def Keyword.text : Keyword → String
  | .and => "AND"
  | .or => "OR"
  | .xor => "XOR"
  | .not => "NOT"
  | .like => "LIKE"
  | .among => "IN"
  | .present => "EXISTS"
  | .true => "TRUE"
  | .false => "FALSE"

/-- All keywords. -/
def Keyword.all : List Keyword :=
  [.and, .or, .xor, .not, .like, .among, .present, .true, .false]

/-- **The keyword that a word spells**, in whatever case. -/
def Keyword.ofText? (word : String) : Option Keyword :=
  Keyword.all.find? fun k => k.text == Text.asciiUpper word

/-- The operators and delimiters that are not words. -/
inductive Symbol
  | plus
  | minus
  | star
  | slash
  | percent
  | equal
  | notEqual
  | less
  | lessEqual
  | greater
  | greaterEqual
  | leftParen
  | rightParen
  | comma
  deriving DecidableEq, Inhabited

/-- The usual spelling of a symbol. -/
def Symbol.text : Symbol → String
  | .plus => "+"
  | .minus => "-"
  | .star => "*"
  | .slash => "/"
  | .percent => "%"
  | .equal => "="
  | .notEqual => "<>"
  | .less => "<"
  | .lessEqual => "<="
  | .greater => ">"
  | .greaterEqual => ">="
  | .leftParen => "("
  | .rightParen => ")"
  | .comma => ","

/-- **All spellings of symbols**, each before those that it begins with. -/
def Symbol.spellings : List (List Char × Symbol) := [
  (['<', '='], .lessEqual), (['<', '>'], .notEqual), (['>', '='], .greaterEqual),
  (['!', '='], .notEqual), (['<'], .less), (['>'], .greater), (['='], .equal), (['+'], .plus),
  (['-'], .minus), (['*'], .star), (['/'], .slash), (['%'], .percent), (['('], .leftParen),
  ([')'], .rightParen), ([','], .comma)]

/-- **A token** of the filter language. -/
inductive Token
  | identifier (name : String)
  | number (digits : String)
  | string (text : String)
  | keyword (k : Keyword)
  | symbol (s : Symbol)
  deriving DecidableEq, Inhabited

/-- How a token is named in a message. -/
def Token.describe : Token → String
  | .identifier name => s!"identifier '{name}'"
  | .number digits => s!"number {digits}"
  | .string text => s!"string '{text}'"
  | .keyword k => k.text
  | .symbol s => s!"'{s.text}'"

/-- How the place after the last token is named in a message. -/
def endOfInput : String := "end of input"

/-- How a token, or the end of the input, is named in a message. -/
def Token.describeFound : Option Token → String
  | some token => token.describe
  | none => endOfInput

/-- Whether a token is a keyword. -/
def Token.isKeyword : Token → Bool
  | .keyword _ => true
  | _ => false

end EventFilter
