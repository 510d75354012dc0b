import EventFilter.Proofs.Eval.Arithmetic
import EventFilter.Proofs.Phrase.Parentheses
import EventFilter.Proofs.Phrase.Signs

/-!
# Integer literals of a source

Digits are a literal for the number that they denote, with a minus before them for its negative, and
the range of integers has one negative number more than positive ones. So it matters whether a minus
belongs to a literal. It does at the beginning of an operand, where the whole source is then one
literal (`Source.parse_minus_digits`), and it does not behind an operand or before a parenthesis,
where the number has to fit by itself.
Main statement: digits of any length are read as their number exactly if it is in range, in each of
these places (`Source.integerLaws`).
-/

namespace EventFilter

/-! ### Digits as tokens -/

namespace Token

variable {c : Char} {digits blanks : List Char}

/-- A minus is a token of its own. -/
theorem scan_minus (cs : List Char) : scan '-' cs = ⟨.ok (.symbol .minus), ['-'], cs⟩ := rfl

/-- A minus is read by itself. -/
theorem lex_minus (cs : List Char) : lex ('-' :: cs) = .ok (.symbol .minus) :: lex cs := by
  rw [lex_cons (by decide), scan_minus]

/-- Digits alone are one token. -/
theorem lex_of_digits (hne : digits ≠ []) (hdigits : digits.all Char.isDigit = true) :
    lex digits = [.ok (.number (String.ofList digits))] := by
  obtain ⟨c, cs, rfl⟩ := List.exists_cons_of_ne_nil hne
  rw [List.all_cons, Bool.and_eq_true] at hdigits
  have hlex : lex (c :: (cs ++ [])) = .ok (.number (String.ofList (c :: cs))) :: lex [] :=
    lex_digits hdigits.1 hdigits.2 nofun
  rwa [List.append_nil, lex_nil] at hlex

/-- A minus goes on no token. -/
theorem closes_minus : Closes '-' where
  isNamePart := by decide +kernel
  isDigit := by decide
  isQuote := by decide
  ne_equal := by decide
  ne_greater := by decide

/-- Blanks and then a character that goes on no token. -/
theorem closed_blanks_append (hblanks : blanks.all Text.isBlank = true) (hc : Closes c)
    (rest : List Char) : Closed (blanks ++ c :: rest) := by
  cases blanks with
  | nil =>
    rintro _ ⟨⟩
    exact hc
  | cons b blanks =>
    rw [List.all_cons, Bool.and_eq_true] at hblanks
    rintro _ ⟨⟩
    exact closes_of_isBlank hblanks.1

/-- Digits that are subtracted from something. -/
theorem lex_subtracted {front blanks' : List Char} {tokens : List Token}
    (hfront : lex front = tokens.map .ok) (hblanks : blanks.all Text.isBlank = true)
    (hblanks' : blanks'.all Text.isBlank = true) (hne : digits ≠ [])
    (hdigits : digits.all Char.isDigit = true) :
    lex (front ++ (blanks ++ '-' :: (blanks' ++ digits))) =
      (tokens ++ ([.symbol .minus, .number (String.ofList digits)] : List Token)).map .ok := by
  rw [lex_append hfront (closed_blanks_append hblanks closes_minus _), lex_blanks_append hblanks,
    lex_minus, lex_blanks_append hblanks', lex_of_digits hne hdigits, hfront, List.map_append]
  rfl

/-- Digits in parentheses behind a minus. -/
theorem lex_minus_parenthesized {b₁ b₂ b₃ : List Char} (h₁ : b₁.all Text.isBlank = true)
    (h₂ : b₂.all Text.isBlank = true) (h₃ : b₃.all Text.isBlank = true) (hne : digits ≠ [])
    (hdigits : digits.all Char.isDigit = true) :
    lex ('-' :: (b₁ ++ '(' :: (b₂ ++ (digits ++ (b₃ ++ [')']))))) =
      ([.symbol .minus, .symbol .leftParen, .number (String.ofList digits),
        .symbol .rightParen] : List Token).map .ok := by
  have hnumber : lex digits = [Token.number (String.ofList digits)].map .ok :=
    lex_of_digits hne hdigits
  have hclosed : Closed (b₃ ++ [')']) :=
    closed_blanks_append h₃ (closes_of_mem_delimiters (by decide)) []
  rw [lex_minus, lex_blanks_append h₁, lex_leftParen, lex_blanks_append h₂,
    lex_append hnumber hclosed, lex_blanks_append h₃, lex_rightParen, lex_nil, hnumber]
  rfl

end Token

/-- A sum is an expression. -/
theorem Derives.top_of_sum {functions : Registry} {tokens : List Token} {t : Tree}
    (h : Derives functions (.chain .sum) tokens t) : Derives functions .top tokens t :=
  .conjunction (.negation (.comparison (.sum h)))

/-- An expression that is written as the negation of an integer comes to that negation. -/
theorem Expr.eval_of_tree_eq_negate {e : Expr} {n : Int32}
    (h : e.tree = .unary .negate (.literal (.integer n))) (env : Environment) :
    e.eval env = .ok (.integer (-n)) := by
  have hnegation : (unary .negate (literal (.integer n) .detached) .detached).eval env =
      .ok (.integer (-n)) := eval_negate ⟨_, rfl, .integer n⟩ _
  have htree : e.tree = (unary .negate (literal (.integer n) .detached) .detached).tree := h
  have hcause := eval_of_tree_eq htree env
  rw [hnegation] at hcause
  exact mapError_eq_ok_iff.mp hcause

/-! ### Reading all tokens -/

namespace Parse

variable {functions : Registry} {ending : Span} {ts : List Lexeme} {x : Except SyntaxError Expr}

/-- **What is read at the level of signs and leaves no tokens** is read at every looser level. -/
theorem read_top_of_sign (hnot : ∀ s us, ts ≠ ⟨.keyword .not, s⟩ :: us)
    (h : read functions ending .sign ts = x.map (·, [])) :
    read functions ending .top ts = x.map (·, []) := by
  -- Nothing is left to go on with, so each level hands on what the next tighter one has read.
  have hchain (c : Chain) (hc : read functions ending c.operand ts = x.map (·, [])) :
      read functions ending (.chain c) ts = x.map (·, []) := by
    rw [read_chain, hc]
    cases x with
    | error err => rfl
    | ok e => exact readChain_eq c e []
  have hcomparison (hsum : read functions ending (.chain .sum) ts = x.map (·, [])) :
      read functions ending .comparison ts = x.map (·, []) := by
    rw [read_comparison, hsum]
    cases x with
    | error err => rfl
    | ok e => exact readComparison_eq e []
  have hnegation (hc : read functions ending .comparison ts = x.map (·, [])) :
      read functions ending .negation ts = x.map (·, []) := by
    rw [read_negation]
    split
    · rename_i s us
      exact absurd rfl (hnot s us)
    · exact hc
  exact hchain _ (hchain _ (hnegation (hcomparison (hchain _ (hchain _ h)))))

end Parse

namespace Source

variable {functions : Registry} {source : Source} {digits : List Char}

/-- Digits behind blanks are one token. -/
theorem tiles_digits {blanks : List Char} {offset : Nat} (hne : digits ≠ [])
    (hdigits : digits.all Char.isDigit = true) (hblanks : blanks.all Text.isBlank = true) :
    source.Tiles offset (blanks ++ digits)
      [⟨.number (String.ofList digits), source, offset + Text.byteLength blanks,
        offset + Text.byteLength blanks + Text.byteLength digits⟩] := by
  obtain ⟨c, cs, rfl⟩ := List.exists_cons_of_ne_nil hne
  rw [List.all_cons, Bool.and_eq_true] at hdigits
  have hscan : Token.scan c (cs ++ []) = ⟨.ok (.number (String.ofList (c :: cs))), c :: cs, []⟩ :=
    Token.scan_digits hdigits.1 hdigits.2 nofun
  have htiles : source.Tiles offset (blanks ++ (c :: cs ++ [])) _ :=
    .token hblanks (Token.of_isDigit hdigits.1).1 hscan (.nil rfl)
  rwa [List.append_nil] at htiles

/-- Tokens that are read to the last one make up the source. -/
theorem parse_eq_of_read {ts : List Lexeme} {x : Except SyntaxError Expr}
    (hts : source.tokens = .ok ts)
    (h : Parse.read functions source.ending .top ts = x.map (·, [])) :
    source.parse functions = x := by
  cases x with
  | error err => exact (parse_eq_error_iff_read hts).mpr (.inl h)
  | ok e => exact parse_eq_ok_iff_read.mpr ⟨ts, hts, h⟩

/-! ### Sources that are one literal -/

/-- **Digits are parsed** as one literal. -/
theorem parse_digits (hne : digits ≠ []) (hdigits : digits.all Char.isDigit = true)
    (hchars : source.chars = digits) :
    source.parse functions =
      Parse.integer (String.ofList digits) ⟨source, 0, source.length⟩ := by
  have htiles : source.Tiles 0 ([] ++ digits) _ := tiles_digits hne hdigits rfl
  have htokens : source.tokens =
      .ok [⟨.number (String.ofList digits), source, 0, source.length⟩] := by
    rw [tokens_eq_ok_iff_tiles, length, hchars]
    simpa using htiles
  refine parse_eq_of_read htokens (Parse.read_top_of_sign (by simp) ?_)
  simp only [Parse.read_sign, Parse.read_primary]
  cases Parse.integer (String.ofList digits) ⟨source, 0, source.length⟩ <;> rfl

/-- **A minus, blanks and digits are parsed** as one literal. -/
theorem parse_minus_digits {blanks : List Char} (hne : digits ≠ [])
    (hdigits : digits.all Char.isDigit = true) (hblanks : blanks.all Text.isBlank = true)
    (hchars : source.chars = '-' :: (blanks ++ digits)) :
    source.parse functions =
      Parse.integer ("-" ++ String.ofList digits) ⟨source, 0, source.length⟩ := by
  have htiles : source.Tiles 0 ([] ++ ('-' :: [] ++ (blanks ++ digits))) _ :=
    .token rfl (by decide) (Token.scan_minus _) (tiles_digits hne hdigits hblanks)
  have hminus : Text.byteLength ['-'] = 1 := rfl
  have hlength : source.length = 1 + Text.byteLength blanks + Text.byteLength digits := by
    rw [length, hchars, ← List.singleton_append, Text.byteLength_append, Text.byteLength_append,
      hminus, Nat.add_assoc]
  have htokens : source.tokens = .ok [⟨.symbol .minus, source, 0, 1⟩,
      ⟨.number (String.ofList digits), source, 1 + Text.byteLength blanks, source.length⟩] := by
    rw [tokens_eq_ok_iff_tiles, hlength, hchars]
    simpa [hminus] using htiles
  have hsource : source.text ≠ "" := text_ne_empty_of_tokens htokens (List.cons_ne_nil _ _)
  have hmerge : Span.merge ⟨source, 0, 1⟩ ⟨source, 1 + Text.byteLength blanks, source.length⟩ =
      ⟨source, 0, source.length⟩ := by
    have hle : 1 ≤ source.length := by omega
    rw [Span.merge_eq hsource rfl rfl, Nat.zero_min, Nat.max_eq_right hle]
  refine parse_eq_of_read htokens (Parse.read_top_of_sign (by simp) ?_)
  rw [Parse.read_sign]
  simp only [hmerge]
  cases Parse.integer ("-" ++ String.ofList digits) ⟨source, 0, source.length⟩ <;> rfl

/-- **A source is a literal for an integer** exactly under a condition. -/
structure IsIntegerIff (functions : Registry) (source : Source) (text : String) (k : Int)
    (fits : Prop) : Prop where
  /-- under the condition the whole source is parsed as the integer -/
  accepted : fits → ∃ n : Int32, n.toInt = k ∧
    source.parse functions = .ok (.literal (.integer n) ⟨source, 0, source.length⟩)
  /-- otherwise the whole source is blamed for being out of range -/
  refused : ¬fits → source.parse functions =
    .error ⟨.integerOutOfRange text, ⟨source, 0, source.length⟩⟩

/-- A source that is parsed as one literal is one for the integer that the literal is read as. -/
theorem IsIntegerIff.of_parse {text : String} {k : Int} {fits : Prop}
    (hparse : source.parse functions = Parse.integer text ⟨source, 0, source.length⟩)
    (hread : ∀ n : Int32, Text.readInt32? text.toList = some n ↔ n.toInt = k)
    (hfits : fits ↔ -2147483648 ≤ k ∧ k ≤ 2147483647) :
    IsIntegerIff functions source text k fits where
  accepted h := by
    obtain ⟨hle, hge⟩ := hfits.mp h
    obtain ⟨n, hn⟩ := Text.exists_toInt_eq hle hge
    exact ⟨n, hn, hparse.trans (Parse.integer_eq_ok_iff.mpr ⟨n, (hread n).mpr hn, rfl⟩)⟩
  refused h := by
    have hnone : Text.readInt32? text.toList = none := by
      rw [Option.eq_none_iff_forall_ne_some]
      intro n hn
      rw [hread] at hn
      have hle := n.le_toInt
      have hlt := n.toInt_lt
      exact h (hfits.mpr (by omega))
    rw [hparse, Parse.integer, hnone]

/-! ### Sources with a literal in them -/

/-- What a source parses to derives from its tokens. -/
theorem derives_of_parse {ts : List Lexeme} {e : Expr} (he : source.parse functions = .ok e)
    (hts : source.tokens = .ok ts) : Derives functions .top (ts.map (·.token)) e.tree := by
  obtain ⟨ts', hts', h⟩ := exists_parse_iff.mp ⟨e, he, rfl⟩
  rw [hts] at hts'
  cases hts'
  exact h

/-- **A source with digits in it** that have to fit without a sign is parsed if they do. -/
theorem parse_iff_of_derives {tokens : List Token} {m : Nat} {tree : Int32 → Tree}
    (hlex : Token.lex source.chars = tokens.map .ok) (hfits : Settles tokens → m ≤ 2147483647)
    (hderives : ∀ n : Int32, n.toInt = m → Derives functions .top tokens (tree n)) :
    ((∃ e, source.parse functions = .ok e) ↔ m ≤ 2147483647) ∧
      ∀ e, source.parse functions = .ok e → ∃ n : Int32, n.toInt = m ∧ e.tree = tree n := by
  obtain ⟨ts, hts, hmap⟩ := exists_tokens_iff.mpr hlex
  have hparsed {e : Expr} (he : source.parse functions = .ok e) :
      Derives functions .top tokens e.tree := hmap ▸ derives_of_parse he hts
  have hnumber (hm : m ≤ 2147483647) : ∃ n : Int32, n.toInt = m :=
    Text.exists_toInt_eq (by omega) (by omega)
  refine ⟨⟨?_, ?_⟩, ?_⟩
  · rintro ⟨e, he⟩
    exact hfits (hparsed he).settles
  · intro hm
    obtain ⟨n, hn⟩ := hnumber hm
    have h := hderives n hn
    rw [← hmap] at h
    obtain ⟨e, he, -⟩ := exists_parse_iff.mpr ⟨ts, hts, h⟩
    exact ⟨e, he⟩
  · intro e he
    obtain ⟨n, hn⟩ := hnumber (hfits (hparsed he).settles)
    exact ⟨n, hn, (hparsed he).unique (hderives n hn)⟩

section digits

variable (hne : digits ≠ []) (hdigits : digits.all Char.isDigit = true)

include hne hdigits

/-- One or more digits are read as the number that they denote. -/
theorem readDigits?_ofList :
    Text.readDigits? (String.ofList digits).toList = some (Text.digitsValue digits) := by
  rw [String.toList_ofList]
  exact Text.readDigits?_eq_some_iff.mpr ⟨hne, hdigits, rfl⟩

/-- **Digits that are subtracted** from a sum have to fit without a sign. -/
theorem parse_subtracted {front blanks blanks' : List Char} {tokens : List Token} {t : Tree}
    (hblanks : blanks.all Text.isBlank = true) (hblanks' : blanks'.all Text.isBlank = true)
    (hfront : Token.lex front = tokens.map .ok) (ht : Derives functions (.chain .sum) tokens t)
    (hchars : source.chars = front ++ (blanks ++ '-' :: (blanks' ++ digits))) :
    ((∃ e, source.parse functions = .ok e) ↔ Text.digitsValue digits ≤ 2147483647) ∧
      ∀ e, source.parse functions = .ok e → ∃ n : Int32, n.toInt = Text.digitsValue digits ∧
        e.tree = .binary (.arithmetic .sub) t (.literal (.integer n)) := by
  have hlex := Token.lex_subtracted hfront hblanks hblanks' hne hdigits
  refine parse_iff_of_derives (hchars ▸ hlex) (fun h => ?_) fun n hn => ?_
  · have hle := h.digitsValue_le_of_subtracted (ht.settles .elsewhere nofun).2
    rwa [String.toList_ofList] at hle
  · exact .top_of_sum (.sub ht (.sign (.primary (.number (readDigits?_ofList hne hdigits) hn))))

/-- **Digits in parentheses behind a minus** have to fit without it. -/
theorem parse_minus_parenthesized {b₁ b₂ b₃ : List Char} (h₁ : b₁.all Text.isBlank = true)
    (h₂ : b₂.all Text.isBlank = true) (h₃ : b₃.all Text.isBlank = true)
    (hchars : source.chars = '-' :: (b₁ ++ '(' :: (b₂ ++ (digits ++ (b₃ ++ [')']))))) :
    ((∃ e, source.parse functions = .ok e) ↔ Text.digitsValue digits ≤ 2147483647) ∧
      ∀ e, source.parse functions = .ok e → ∃ n : Int32, n.toInt = Text.digitsValue digits ∧
        e.tree = .unary .negate (.literal (.integer n)) := by
  have hlex := Token.lex_minus_parenthesized h₁ h₂ h₃ hne hdigits
  refine parse_iff_of_derives (hchars ▸ hlex) (fun h => ?_) fun n hn => ?_
  · obtain ⟨⟨-, -, hnumber, -⟩, -⟩ := h .elsewhere nofun
    have hle := hnumber _ rfl
    rwa [String.toList_ofList] at hle
  · have hinner : Derives functions .top [.number (String.ofList digits)] (.literal (.integer n)) :=
      .top_of_sum (.product (.sign (.primary (.number (readDigits?_ofList hne hdigits) hn))))
    exact .top_of_sum (.product (.sign (.negate (.primary (.parenthesized hinner)) nofun)))

end digits

/-- **The laws of integer literals** for digits. -/
structure IntegerLaws (functions : Registry) (digits : List Char) : Prop where
  /-- digits alone are the number that they denote -/
  alone : ∀ source : Source, source.chars = digits →
    IsIntegerIff functions source (String.ofList digits) (Text.digitsValue digits)
      (Text.digitsValue digits ≤ 2147483647)
  /-- behind a minus they are its negative, and there is one more of these -/
  signed : ∀ (source : Source) (blanks : List Char), blanks.all Text.isBlank = true →
    source.chars = '-' :: (blanks ++ digits) →
    IsIntegerIff functions source ("-" ++ String.ofList digits) (-Text.digitsValue digits)
      (Text.digitsValue digits ≤ 2147483648)
  /-- behind a sum and a minus they are subtracted -/
  subtracted : ∀ (source : Source) (front blanks blanks' : List Char) (tokens : List Token)
    (t : Tree), blanks.all Text.isBlank = true → blanks'.all Text.isBlank = true →
    Token.lex front = tokens.map .ok → Derives functions (.chain .sum) tokens t →
    source.chars = front ++ (blanks ++ '-' :: (blanks' ++ digits)) →
    ((∃ e, source.parse functions = .ok e) ↔ Text.digitsValue digits ≤ 2147483647) ∧
      ∀ e, source.parse functions = .ok e → ∃ n : Int32, n.toInt = Text.digitsValue digits ∧
        e.tree = .binary (.arithmetic .sub) t (.literal (.integer n))
  /-- behind any operand and a minus they have to fit by themselves -/
  behindOperand : ∀ (source : Source) (e : Expr) (ts : List Lexeme) (pre post : List Token)
    (token : Token), source.parse functions = .ok e → source.tokens = .ok ts →
    ts.map (·.token) =
      pre ++ token :: .symbol .minus :: .number (String.ofList digits) :: post →
    token.endsOperand = true → Text.digitsValue digits ≤ 2147483647
  /-- in parentheses they are negated, which comes to the same as the literal with the minus -/
  parenthesized : ∀ (source source' : Source) (b₁ b₂ b₃ blanks : List Char),
    b₁.all Text.isBlank = true → b₂.all Text.isBlank = true → b₃.all Text.isBlank = true →
    blanks.all Text.isBlank = true →
    source.chars = '-' :: (b₁ ++ '(' :: (b₂ ++ (digits ++ (b₃ ++ [')'])))) →
    source'.chars = '-' :: (blanks ++ digits) →
    ((∃ e, source.parse functions = .ok e) ↔ Text.digitsValue digits ≤ 2147483647) ∧
      ∀ e, source.parse functions = .ok e → ∃ e', source'.parse functions = .ok e' ∧
        ∀ env, e.eval env = e'.eval env

/-- **Integer literals denote their number**, however many digits they have. -/
theorem integerLaws (hne : digits ≠ []) (hdigits : digits.all Char.isDigit = true) :
    IntegerLaws functions digits := by
  have hread := readDigits?_ofList hne hdigits
  have hsigned (source : Source) (blanks : List Char) (hblanks : blanks.all Text.isBlank = true)
      (hchars : source.chars = '-' :: (blanks ++ digits)) :
      IsIntegerIff functions source ("-" ++ String.ofList digits) (-Text.digitsValue digits)
        (Text.digitsValue digits ≤ 2147483648) := by
    refine .of_parse (parse_minus_digits hne hdigits hblanks hchars) (fun n => ?_) (by omega)
    rw [String.toList_append]
    exact Text.readInt32?_minus_eq_some_iff hread
  refine ⟨?_, hsigned, ?_, ?_, ?_⟩
  · intro source hchars
    refine .of_parse (parse_digits hne hdigits hchars) (fun n => ?_) (by omega)
    exact Text.readInt32?_digits_eq_some_iff hread
  · intro source front blanks blanks' tokens t hblanks hblanks' hfront ht hchars
    exact parse_subtracted hne hdigits hblanks hblanks' hfront ht hchars
  · intro source e ts pre post token he hts hmap htoken
    have hsettles := (derives_of_parse he hts).settles
    rw [hmap, ← List.singleton_append, ← List.append_assoc] at hsettles
    have hafter : Stance.elsewhere.after (pre ++ [token]) = .behindOperand := by
      rw [Stance.after_append]
      exact Stance.next_of_endsOperand htoken
    have hle := hsettles.digitsValue_le_of_subtracted hafter
    rwa [String.toList_ofList] at hle
  · intro source source' b₁ b₂ b₃ blanks h₁ h₂ h₃ hblanks hchars hchars'
    obtain ⟨hiff, htrees⟩ := parse_minus_parenthesized hne hdigits h₁ h₂ h₃ hchars
    refine ⟨hiff, fun e he => ?_⟩
    obtain ⟨n, hn, htree⟩ := htrees e he
    have hfits : Text.digitsValue digits ≤ 2147483647 := hiff.mp ⟨e, he⟩
    obtain ⟨n', hn', he'⟩ := (hsigned source' blanks hblanks hchars').accepted (by omega)
    refine ⟨_, he', fun env => ?_⟩
    have hopposite : n' = -n := by
      rw [← Int32.ofInt_toInt n', hn', Int32.ofInt_neg, ← hn, Int32.ofInt_toInt]
    rw [Expr.eval_of_tree_eq_negate htree, ← hopposite]
    rfl

/-- The smallest integer, with zeros in front and a tab behind its minus. -/
theorem integerLaws_smallest :
    let digits := "0002147483648".toList
    let alone : Source := ⟨0, "0002147483648"⟩
    let signed : Source := ⟨1, "-\t0002147483648"⟩
    digits ≠ [] ∧ digits.all Char.isDigit = true ∧ IntegerLaws .empty digits ∧
      alone.parse .empty = .error ⟨.integerOutOfRange "0002147483648", ⟨alone, 0, 13⟩⟩ ∧
      signed.parse .empty = .ok (.literal (.integer (-2147483648)) ⟨signed, 0, 15⟩) := by
  intro digits alone signed
  have hne : digits ≠ [] := by decide
  have hdigits : digits.all Char.isDigit = true := by decide
  have hlaws : IntegerLaws .empty digits := integerLaws hne hdigits
  have htext : String.ofList digits = "0002147483648" := String.ofList_toList
  have halone := (hlaws.alone alone rfl).refused (by decide)
  have hblank : ['\t'].all Text.isBlank = true := by decide
  obtain ⟨n, hn, hsigned⟩ := (hlaws.signed signed ['\t'] hblank (by decide)).accepted (by decide)
  obtain rfl : n = -2147483648 := Int32.toInt_inj.mp hn
  rw [htext] at halone
  have hlengths : alone.length = 13 ∧ signed.length = 15 := by decide
  rw [hlengths.1] at halone
  rw [hlengths.2] at hsigned
  exact ⟨hne, hdigits, hlaws, halone, hsigned⟩

end Source

end EventFilter
