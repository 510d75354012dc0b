import EventFilter.Proofs.Phrase.Calls
import EventFilter.Proofs.Phrase.Parsing
import EventFilter.Proofs.Text.Decimal
import EventFilter.Proofs.Token.Lexing
import EventFilter.Proofs.Tree

/-!
# The grammar of the filter language

The grammar on tokens and trees, with nothing said of places: one rule for each alternative of each
nonterminal (`Derives`). Besides the tokens it asks that number literals fit 32 bits with their
sign, that the text behind LIKE is a valid pattern, and that the registry offers each call.
A phrase is a derivation with spans, so the parser answers to this grammar through phrases.
Main statement: a source parses exactly if its tokens have a derivation, the parsed expression is
then the derived one up to spans, and no tokens have two derivations of different trees
(`Source.parse_iff_derives`).
-/

namespace EventFilter

/-- How a comparison operator is written. -/
def ComparisonOp.sign : ComparisonOp → Symbol
  | .eq => .equal
  | .ne => .notEqual
  | .lt => .less
  | .le => .lessEqual
  | .gt => .greater
  | .ge => .greaterEqual

/-- Lists of tokens one after the other, with a comma between each and the next. -/
def commaSeparated (tss : List (List Token)) : List Token := [.symbol .comma].intercalate tss

/-- **The grammar**: a list of tokens derives from the nonterminal of a level, and stands for a
tree. Repetitions associate to the left. -/
inductive Derives (functions : Registry) : Level → List Token → Tree → Prop
  -- `expr = and {(OR | XOR) and}`
  | conjunction {ts t} : Derives functions (.chain .conjunction) ts t →
      Derives functions (.chain .disjunction) ts t
  | or {ts us l r} : Derives functions (.chain .disjunction) ts l →
      Derives functions (.chain .conjunction) us r →
      Derives functions (.chain .disjunction) (ts ++ .keyword .or :: us)
        (.binary (.logical .or) l r)
  | xor {ts us l r} : Derives functions (.chain .disjunction) ts l →
      Derives functions (.chain .conjunction) us r →
      Derives functions (.chain .disjunction) (ts ++ .keyword .xor :: us)
        (.binary (.logical .xor) l r)
  -- `and = not {AND not}`
  | negation {ts t} : Derives functions .negation ts t →
      Derives functions (.chain .conjunction) ts t
  | and {ts us l r} : Derives functions (.chain .conjunction) ts l →
      Derives functions .negation us r →
      Derives functions (.chain .conjunction) (ts ++ .keyword .and :: us)
        (.binary (.logical .and) l r)
  -- `not = NOT not | cmp`
  | not {ts t} : Derives functions .negation ts t →
      Derives functions .negation (.keyword .not :: ts) (.unary .not t)
  | comparison {ts t} : Derives functions .comparison ts t → Derives functions .negation ts t
  -- `cmp = add | add (= | <> | < | <= | > | >=) add`
  | sum {ts t} : Derives functions (.chain .sum) ts t → Derives functions .comparison ts t
  | compare {ts us l r} (op : ComparisonOp) : Derives functions (.chain .sum) ts l →
      Derives functions (.chain .sum) us r →
      Derives functions .comparison (ts ++ .symbol op.sign :: us) (.binary (.comparison op) l r)
  -- `    | add [NOT] LIKE string`
  | like {ts t} (p : Pattern) : Derives functions (.chain .sum) ts t →
      Derives functions .comparison (ts ++ [.keyword .like, .string p.text]) (.like t p)
  | notLike {ts t} (p : Pattern) : Derives functions (.chain .sum) ts t →
      Derives functions .comparison (ts ++ [.keyword .not, .keyword .like, .string p.text])
        (.unary .not (.like t p))
  -- `    | add [NOT] IN (expr {, expr})`
  | among {ts t} {set : List (List Token × Tree)} : Derives functions (.chain .sum) ts t →
      set ≠ [] → (∀ i ∈ set, Derives functions (.chain .disjunction) i.1 i.2) →
      Derives functions .comparison
        (ts ++ .keyword .among :: .symbol .leftParen ::
          (commaSeparated (set.map (·.1)) ++ [.symbol .rightParen]))
        (.among t (set.map (·.2)))
  | notAmong {ts t} {set : List (List Token × Tree)} : Derives functions (.chain .sum) ts t →
      set ≠ [] → (∀ i ∈ set, Derives functions (.chain .disjunction) i.1 i.2) →
      Derives functions .comparison
        (ts ++ .keyword .not :: .keyword .among :: .symbol .leftParen ::
          (commaSeparated (set.map (·.1)) ++ [.symbol .rightParen]))
        (.unary .not (.among t (set.map (·.2))))
  -- `add = mul {(+ | -) mul}`
  | product {ts t} : Derives functions (.chain .product) ts t → Derives functions (.chain .sum) ts t
  | add {ts us l r} : Derives functions (.chain .sum) ts l →
      Derives functions (.chain .product) us r →
      Derives functions (.chain .sum) (ts ++ .symbol .plus :: us) (.binary (.arithmetic .add) l r)
  | sub {ts us l r} : Derives functions (.chain .sum) ts l →
      Derives functions (.chain .product) us r →
      Derives functions (.chain .sum) (ts ++ .symbol .minus :: us) (.binary (.arithmetic .sub) l r)
  -- `mul = unary {(* | / | %) unary}`
  | sign {ts t} : Derives functions .sign ts t → Derives functions (.chain .product) ts t
  | mul {ts us l r} : Derives functions (.chain .product) ts l → Derives functions .sign us r →
      Derives functions (.chain .product) (ts ++ .symbol .star :: us)
        (.binary (.arithmetic .mul) l r)
  | div {ts us l r} : Derives functions (.chain .product) ts l → Derives functions .sign us r →
      Derives functions (.chain .product) (ts ++ .symbol .slash :: us)
        (.binary (.arithmetic .div) l r)
  | mod {ts us l r} : Derives functions (.chain .product) ts l → Derives functions .sign us r →
      Derives functions (.chain .product) (ts ++ .symbol .percent :: us)
        (.binary (.arithmetic .mod) l r)
  -- `unary = - number | - unary | primary`, the second not before a number
  | negativeNumber {digits m} {n : Int32} : Text.readDigits? digits.toList = some m →
      n.toInt = -m →
      Derives functions .sign [.symbol .minus, .number digits] (.literal (.integer n))
  | negate {ts t} : Derives functions .sign ts t → (∀ digits us, ts ≠ .number digits :: us) →
      Derives functions .sign (.symbol .minus :: ts) (.unary .negate t)
  | primary {ts t} : Derives functions .primary ts t → Derives functions .sign ts t
  -- `primary = number | string | TRUE | FALSE | EXISTS ident | ident`
  | number {digits m} {n : Int32} : Text.readDigits? digits.toList = some m → n.toInt = m →
      Derives functions .primary [.number digits] (.literal (.integer n))
  | string (text : String) : Derives functions .primary [.string text] (.literal (.string text))
  | true : Derives functions .primary [.keyword .true] (.literal (.boolean true))
  | false : Derives functions .primary [.keyword .false] (.literal (.boolean false))
  | present (name : String) :
      Derives functions .primary [.keyword .present, .identifier name] (.present name)
  | attr (name : String) : Derives functions .primary [.identifier name] (.attr name)
  -- `        | ident ([expr {, expr}]) | (expr)`
  | call {name} {args : List (List Token × Tree)} : functions.Offers name args.length →
      (∀ i ∈ args, Derives functions (.chain .disjunction) i.1 i.2) →
      Derives functions .primary
        (.identifier name :: .symbol .leftParen ::
          (commaSeparated (args.map (·.1)) ++ [.symbol .rightParen]))
        (.call (Text.asciiUpper name) (args.map (·.2)))
  | parenthesized {ts t} : Derives functions (.chain .disjunction) ts t →
      Derives functions .primary (.symbol .leftParen :: (ts ++ [.symbol .rightParen])) t

/-! ### Phrases are derivations -/

/-- The comparison operators are the tokens that they are written as. -/
theorem ComparisonOp.ofToken?_eq_some_iff {token : Token} {op : ComparisonOp} :
    ofToken? token = some op ↔ token = .symbol op.sign := by
  constructor
  · intro h
    unfold ofToken? at h
    split at h <;> cases h <;> rfl
  · rintro rfl
    cases op <;> rfl

namespace Derives

variable {functions : Registry} {c : Chain} {token : Token} {ts us : List Token} {t l r : Tree}

/-- An operand alone is a chain. -/
theorem operand (h : Derives functions c.operand ts t) : Derives functions (.chain c) ts t := by
  cases c with
  | disjunction => exact .conjunction h
  | conjunction => exact .negation h
  | sum => exact .product h
  | product => exact .sign h

/-- **A chain goes on** with each operator of its level. -/
theorem chained {op : BinaryOp} (hl : Derives functions (.chain c) ts l)
    (hop : c.operator? token = some op) (hr : Derives functions c.operand us r) :
    Derives functions (.chain c) (ts ++ token :: us) (.binary op l r) := by
  unfold Chain.operator? at hop
  split at hop <;> cases hop
  · exact .or hl hr
  · exact .xor hl hr
  · exact .and hl hr
  · exact .add hl hr
  · exact .sub hl hr
  · exact .mul hl hr
  · exact .div hl hr
  · exact .mod hl hr

end Derives

/-- What is separated by commas has its parts in a list. -/
theorem Separated.map_token {us : List Lexeme} {tss : List (List Lexeme)} (h : Separated us tss) :
    us.map (·.token) = commaSeparated (tss.map (·.map (·.token))) := by
  induction h with
  | none => rfl
  | one ts => simp [commaSeparated]
  | more ts comma _ ih =>
    rw [List.map_append, List.map_cons, ih]
    simp [commaSeparated, List.intercalate]

/-- A number token is written in digits. -/
def Lexeme.Legible (t : Lexeme) : Prop :=
  ∀ digits, t.token = .number digits → ∃ m, Text.readDigits? digits.toList = some m

/-- The number at the end of tokens that are written in digits. -/
theorem exists_readDigits?_of_forall_legible {ts : List Lexeme} {digits : String} {s : Span}
    (h : ∀ t ∈ ts, t.Legible) (hmem : ⟨.number digits, s⟩ ∈ ts) :
    ∃ m, Text.readDigits? digits.toList = some m :=
  h _ hmem digits rfl

/-- A phrase of a list and its expression, both without their spans. -/
def withoutSpans (i : List Lexeme × Expr) : List Token × Tree := (i.1.map (·.token), i.2.tree)

/-- The trees of a list of phrases. -/
theorem map_snd_withoutSpans (items : List (List Lexeme × Expr)) :
    (items.map withoutSpans).map (·.2) = Expr.trees (items.map (·.2)) := by
  simp [withoutSpans]

/-- The tokens of a list of phrases. -/
theorem Separated.map_token_items {us : List Lexeme} {items : List (List Lexeme × Expr)}
    (h : Separated us (items.map (·.1))) :
    us.map (·.token) = commaSeparated ((items.map withoutSpans).map (·.1)) := by
  rw [h.map_token, List.map_map, List.map_map]
  rfl

/-- **A phrase is a derivation** once its spans are taken away. -/
theorem Phrase.derives {functions : Registry} {level : Level} {ts : List Lexeme} {e : Expr}
    (h : Phrase functions level ts e) (hts : ∀ t ∈ ts, t.Legible) :
    Derives functions level (ts.map (·.token)) e.tree := by
  -- The rules on lists ask for each phrase of the list, and legible tokens are a matter of the list.
  have hlist {us : List Lexeme} {items : List (List Lexeme × Expr)}
      (hus : Separated us (items.map (·.1))) (hlegible : ∀ t ∈ us, t.Legible)
      (ih : ∀ i ∈ items, (∀ t ∈ i.1, t.Legible) →
        Derives functions .top (i.1.map (·.token)) i.2.tree) :
      ∀ i ∈ items.map withoutSpans, Derives functions .top i.1 i.2 := by
    intro _ hmem
    obtain ⟨i, hi, rfl⟩ := List.mem_map.mp hmem
    exact ih i hi fun t ht => hlegible t ((hus.isInfix i.1 (List.mem_map_of_mem hi)).subset ht)
  induction h with
  | operand _ ih => exact .operand (ih hts)
  | chained _ hop _ ihl ihr =>
    obtain ⟨hl, hr⟩ := List.forall_mem_append.mp hts
    rw [List.map_append, List.map_cons]
    exact .chained (ihl hl) hop (ihr (List.forall_mem_cons.mp hr).2)
  | comparison _ ih => exact .comparison (ih hts)
  | not _ ih => exact .not (ih (List.forall_mem_cons.mp hts).2)
  | sum _ ih => exact .sum (ih hts)
  | compare _ hop _ ihl ihr =>
    obtain ⟨hl, hr⟩ := List.forall_mem_append.mp hts
    rw [List.map_append, List.map_cons, ComparisonOp.ofToken?_eq_some_iff.mp hop]
    exact .compare _ (ihl hl) (ihr (List.forall_mem_cons.mp hr).2)
  | like _ hp ih =>
    rw [List.map_append]
    cases Pattern.text_of_ofText hp
    exact .like _ (ih (List.forall_mem_append.mp hts).1)
  | notLike _ hp ih =>
    rw [List.map_append]
    cases Pattern.text_of_ofText hp
    exact .notLike _ (ih (List.forall_mem_append.mp hts).1)
  | among _ hne hus _ ih ihitems =>
    simp only [List.forall_mem_append, List.forall_mem_cons] at hts
    obtain ⟨hvalue, -, -, hset, -⟩ := hts
    simp only [List.map_append, List.map_cons, List.map_nil, hus.map_token_items, Expr.tree,
      ← map_snd_withoutSpans]
    exact .among (ih hvalue) (mt List.map_eq_nil_iff.mp hne) (hlist hus hset ihitems)
  | notAmong _ hne hus _ ih ihitems =>
    simp only [List.forall_mem_append, List.forall_mem_cons] at hts
    obtain ⟨hvalue, -, -, -, hset, -⟩ := hts
    simp only [List.map_append, List.map_cons, List.map_nil, hus.map_token_items, Parse.negated,
      Expr.tree, ← map_snd_withoutSpans]
    exact .notAmong (ih hvalue) (mt List.map_eq_nil_iff.mp hne) (hlist hus hset ihitems)
  | primary _ ih => exact .primary (ih hts)
  | negativeNumber hn =>
    obtain ⟨n, hread, rfl⟩ := Parse.integer_eq_ok_iff.mp hn
    obtain ⟨m, hm⟩ := exists_readDigits?_of_forall_legible hts
      (List.mem_cons_of_mem _ List.mem_cons_self)
    rw [String.toList_append] at hread
    exact .negativeNumber hm ((Text.readInt32?_minus_eq_some_iff hm).mp hread)
  | negate _ hnumber ih =>
    refine .negate (ih (List.forall_mem_cons.mp hts).2) ?_
    intro digits us heq
    obtain ⟨⟨token, s⟩, us, rfl, htoken, -⟩ := List.map_eq_cons_iff.mp heq
    cases htoken
    exact hnumber digits s us rfl
  | number hn =>
    obtain ⟨n, hread, rfl⟩ := Parse.integer_eq_ok_iff.mp hn
    obtain ⟨m, hm⟩ := exists_readDigits?_of_forall_legible hts List.mem_cons_self
    exact .number hm ((Text.readInt32?_digits_eq_some_iff hm).mp hread)
  | string => exact .string _
  | true => exact .true
  | false => exact .false
  | present => exact .present _
  | attr => exact .attr _
  | call hus _ hcall ihitems =>
    obtain ⟨hoffers, rfl⟩ := Parse.checkedCall_eq_ok_iff.mp hcall
    simp only [List.forall_mem_append, List.forall_mem_cons] at hts
    obtain ⟨-, -, hargs, -⟩ := hts
    simp only [List.map_append, List.map_cons, List.map_nil, hus.map_token_items, Expr.tree,
      ← map_snd_withoutSpans]
    refine .call ?_ (hlist hus hargs ihitems)
    rwa [List.length_map, ← List.length_map]
  | parenthesized _ ih =>
    simp only [List.forall_mem_append, List.forall_mem_cons] at hts
    obtain ⟨-, hinner, -⟩ := hts
    rw [List.map_cons, List.map_append, Expr.tree_withSpan]
    exact .parenthesized (ih hinner)

/-! ### Derivations are phrases -/

/-- **Tokens are a phrase for a tree wherever they stand.** -/
def Placed (functions : Registry) (level : Level) (tokens : List Token) (t : Tree) : Prop :=
  ∀ ts : List Lexeme, ts.map (·.token) = tokens → ∃ e, Phrase functions level ts e ∧ e.tree = t

namespace Placed

variable {functions : Registry} {c : Chain} {op : BinaryOp} {token : Token}
  {ts us : List Token} {t l r : Tree}

/-- An operand alone is a chain. -/
theorem operand (h : Placed functions c.operand ts t) : Placed functions (.chain c) ts t := by
  intro ls hls
  obtain ⟨e, he, rfl⟩ := h ls hls
  exact ⟨e, .operand he, rfl⟩

/-- A chain goes on with each operator of its level. -/
theorem chained (hl : Placed functions (.chain c) ts l) (hop : c.operator? token = some op)
    (hr : Placed functions c.operand us r) :
    Placed functions (.chain c) (ts ++ token :: us) (.binary op l r) := by
  intro ls hls
  obtain ⟨vs, ws, rfl, hvs, hws⟩ := List.map_eq_append_iff.mp hls
  obtain ⟨x, ws, rfl, rfl, htail⟩ := List.map_eq_cons_iff.mp hws
  obtain ⟨e, he, rfl⟩ := hl vs hvs
  obtain ⟨e', he', rfl⟩ := hr ws htail
  exact ⟨_, .chained he hop he', rfl⟩

/-- The phrases of a list between which commas stand. -/
theorem exists_separated {items : List (List Token × Tree)}
    (h : ∀ i ∈ items, Placed functions .top i.1 i.2) {ls : List Lexeme}
    (hls : ls.map (·.token) = commaSeparated (items.map (·.1))) :
    ∃ located : List (List Lexeme × Expr), located.map withoutSpans = items ∧
      Separated ls (located.map (·.1)) ∧ ∀ i ∈ located, Phrase functions .top i.1 i.2 := by
  induction items generalizing ls with
  | nil =>
    obtain rfl := List.map_eq_nil_iff.mp hls
    exact ⟨[], rfl, .none, List.forall_mem_nil _⟩
  | cons i is ih =>
    obtain ⟨hi, his⟩ := List.forall_mem_cons.mp h
    cases is with
    | nil =>
      have hone : ls.map (·.token) = i.1 := by simpa [commaSeparated] using hls
      obtain ⟨e, he, htree⟩ := hi ls hone
      refine ⟨[(ls, e)], ?_, .one ls, List.forall_mem_singleton.mpr he⟩
      rw [List.map_singleton, withoutSpans, hone, htree]
    | cons j js =>
      have hmore : ls.map (·.token) =
          i.1 ++ .symbol .comma :: commaSeparated ((j :: js).map (·.1)) := by
        rw [hls]
        simp [commaSeparated, List.intercalate]
      obtain ⟨vs, ws, rfl, hvs, hws⟩ := List.map_eq_append_iff.mp hmore
      obtain ⟨⟨_, comma⟩, ws, rfl, rfl, htail⟩ := List.map_eq_cons_iff.mp hws
      obtain ⟨e, he, htree⟩ := hi vs hvs
      obtain ⟨located, hlocated, hsep, hphrases⟩ := ih his htail
      obtain ⟨k, ks, rfl⟩ : ∃ k ks, located = k :: ks := by
        cases located with
        | nil => cases hlocated
        | cons k ks => exact ⟨k, ks, rfl⟩
      refine ⟨(vs, e) :: k :: ks, ?_, .more vs comma hsep,
        List.forall_mem_cons.mpr ⟨he, hphrases⟩⟩
      rw [List.map_cons, hlocated, withoutSpans, hvs, htree]

/-- The phrases of a list in parentheses. -/
theorem exists_inParens {items : List (List Token × Tree)}
    (h : ∀ i ∈ items, Placed functions .top i.1 i.2) {ls : List Lexeme}
    (hls : ls.map (·.token) =
      .symbol .leftParen :: (commaSeparated (items.map (·.1)) ++ [.symbol .rightParen])) :
    ∃ (located : List (List Lexeme × Expr)) (s s' : Span) (us : List Lexeme),
      ls = ⟨.symbol .leftParen, s⟩ :: (us ++ [⟨.symbol .rightParen, s'⟩]) ∧
      located.map withoutSpans = items ∧ Separated us (located.map (·.1)) ∧
      ∀ i ∈ located, Phrase functions .top i.1 i.2 := by
  obtain ⟨⟨_, s⟩, ls, rfl, rfl, htail⟩ := List.map_eq_cons_iff.mp hls
  obtain ⟨us, ws, rfl, hus, hws⟩ := List.map_eq_append_iff.mp htail
  obtain ⟨⟨_, s'⟩, rfl, rfl⟩ := List.map_eq_singleton_iff.mp hws
  obtain ⟨located, hlocated, hsep, hphrases⟩ := exists_separated h hus
  exact ⟨located, s, s', us, rfl, hlocated, hsep, hphrases⟩

end Placed

open Placed (exists_inParens)

/-- **A derivation is a phrase** wherever its tokens stand. -/
theorem Derives.placed {functions : Registry} {level : Level} {tokens : List Token} {t : Tree}
    (h : Derives functions level tokens t) : Placed functions level tokens t := by
  induction h with
  | conjunction _ ih | negation _ ih | product _ ih | sign _ ih => exact .operand ih
  | or _ _ ihl ihr | xor _ _ ihl ihr | and _ _ ihl ihr | add _ _ ihl ihr | sub _ _ ihl ihr
  | mul _ _ ihl ihr | div _ _ ihl ihr | mod _ _ ihl ihr => exact .chained ihl rfl ihr
  | not _ ih =>
    intro ls hls
    obtain ⟨⟨_, s⟩, ls, rfl, rfl, htail⟩ := List.map_eq_cons_iff.mp hls
    obtain ⟨e, he, rfl⟩ := ih ls htail
    exact ⟨_, .not he, rfl⟩
  | comparison _ ih =>
    intro ls hls
    obtain ⟨e, he, rfl⟩ := ih ls hls
    exact ⟨e, .comparison he, rfl⟩
  | sum _ ih =>
    intro ls hls
    obtain ⟨e, he, rfl⟩ := ih ls hls
    exact ⟨e, .sum he, rfl⟩
  | compare op _ _ ihl ihr =>
    intro ls hls
    obtain ⟨vs, ws, rfl, hvs, hws⟩ := List.map_eq_append_iff.mp hls
    obtain ⟨⟨token, s⟩, ws, rfl, htoken, htail⟩ := List.map_eq_cons_iff.mp hws
    obtain ⟨e, he, rfl⟩ := ihl vs hvs
    obtain ⟨e', he', rfl⟩ := ihr ws htail
    exact ⟨_, .compare he (ComparisonOp.ofToken?_eq_some_iff.mpr htoken) he', rfl⟩
  | like p _ ih =>
    intro ls hls
    obtain ⟨vs, ws, rfl, hvs, hws⟩ := List.map_eq_append_iff.mp hls
    obtain ⟨⟨_, s⟩, ws, rfl, rfl, htail⟩ := List.map_eq_cons_iff.mp hws
    obtain ⟨⟨_, s'⟩, rfl, rfl⟩ := List.map_eq_singleton_iff.mp htail
    obtain ⟨e, he, rfl⟩ := ih vs hvs
    exact ⟨_, .like he p.ofText_text, rfl⟩
  | notLike p _ ih =>
    intro ls hls
    obtain ⟨vs, ws, rfl, hvs, hws⟩ := List.map_eq_append_iff.mp hls
    obtain ⟨⟨_, s₀⟩, ws, rfl, rfl, htail⟩ := List.map_eq_cons_iff.mp hws
    obtain ⟨⟨_, s⟩, xs, rfl, rfl, hxs⟩ := List.map_eq_cons_iff.mp htail
    obtain ⟨⟨_, s'⟩, rfl, rfl⟩ := List.map_eq_singleton_iff.mp hxs
    obtain ⟨e, he, rfl⟩ := ih vs hvs
    exact ⟨_, .notLike he p.ofText_text, rfl⟩
  | among _ hne _ ih ihset =>
    intro ls hls
    obtain ⟨vs, ws, rfl, hvs, hws⟩ := List.map_eq_append_iff.mp hls
    obtain ⟨⟨_, s⟩, ws, rfl, rfl, htail⟩ := List.map_eq_cons_iff.mp hws
    obtain ⟨items, s', s'', us, rfl, hitems, hsep, hphrases⟩ := exists_inParens ihset htail
    obtain ⟨e, he, rfl⟩ := ih vs hvs
    subst hitems
    refine ⟨_, .among he (mt List.map_eq_nil_iff.mpr hne) hsep hphrases, ?_⟩
    rw [Expr.tree, map_snd_withoutSpans]
  | notAmong _ hne _ ih ihset =>
    intro ls hls
    obtain ⟨vs, ws, rfl, hvs, hws⟩ := List.map_eq_append_iff.mp hls
    obtain ⟨⟨_, s₀⟩, ws, rfl, rfl, htail⟩ := List.map_eq_cons_iff.mp hws
    obtain ⟨⟨_, s⟩, xs, rfl, rfl, hxs⟩ := List.map_eq_cons_iff.mp htail
    obtain ⟨items, s', s'', us, rfl, hitems, hsep, hphrases⟩ := exists_inParens ihset hxs
    obtain ⟨e, he, rfl⟩ := ih vs hvs
    subst hitems
    refine ⟨_, .notAmong he (mt List.map_eq_nil_iff.mpr hne) hsep hphrases, ?_⟩
    rw [Parse.negated, Expr.tree, Expr.tree, map_snd_withoutSpans]
  | primary _ ih =>
    intro ls hls
    obtain ⟨e, he, rfl⟩ := ih ls hls
    exact ⟨e, .primary he, rfl⟩
  | @negativeNumber digits m n hm hn =>
    intro ls hls
    obtain ⟨⟨_, s⟩, ls, rfl, rfl, htail⟩ := List.map_eq_cons_iff.mp hls
    obtain ⟨⟨_, s'⟩, rfl, rfl⟩ := List.map_eq_singleton_iff.mp htail
    have hread : Text.readInt32? ("-" ++ digits).toList = some n := by
      rw [String.toList_append]
      exact (Text.readInt32?_minus_eq_some_iff hm).mpr hn
    exact ⟨_, .negativeNumber (Parse.integer_eq_ok_iff.mpr ⟨n, hread, rfl⟩), rfl⟩
  | negate _ hnumber ih =>
    intro ls hls
    obtain ⟨⟨_, s⟩, ls, rfl, rfl, htail⟩ := List.map_eq_cons_iff.mp hls
    obtain ⟨e, he, rfl⟩ := ih ls htail
    refine ⟨_, .negate he ?_, rfl⟩
    intro digits s' us heq
    rw [heq] at htail
    exact hnumber digits _ htail.symm
  | number hm hn =>
    intro ls hls
    obtain ⟨⟨_, s⟩, rfl, rfl⟩ := List.map_eq_singleton_iff.mp hls
    have hread := (Text.readInt32?_digits_eq_some_iff hm).mpr hn
    exact ⟨_, .number (Parse.integer_eq_ok_iff.mpr ⟨_, hread, rfl⟩), rfl⟩
  | string text =>
    intro ls hls
    obtain ⟨⟨_, s⟩, rfl, rfl⟩ := List.map_eq_singleton_iff.mp hls
    exact ⟨_, .string, rfl⟩
  | true =>
    intro ls hls
    obtain ⟨⟨_, s⟩, rfl, rfl⟩ := List.map_eq_singleton_iff.mp hls
    exact ⟨_, .true, rfl⟩
  | false =>
    intro ls hls
    obtain ⟨⟨_, s⟩, rfl, rfl⟩ := List.map_eq_singleton_iff.mp hls
    exact ⟨_, .false, rfl⟩
  | present name =>
    intro ls hls
    obtain ⟨⟨_, s⟩, ls, rfl, rfl, htail⟩ := List.map_eq_cons_iff.mp hls
    obtain ⟨⟨_, s'⟩, rfl, rfl⟩ := List.map_eq_singleton_iff.mp htail
    exact ⟨_, .present, rfl⟩
  | attr name =>
    intro ls hls
    obtain ⟨⟨_, s⟩, rfl, rfl⟩ := List.map_eq_singleton_iff.mp hls
    exact ⟨_, .attr, rfl⟩
  | call hoffers _ ihargs =>
    intro ls hls
    obtain ⟨⟨_, s⟩, ls, rfl, rfl, htail⟩ := List.map_eq_cons_iff.mp hls
    obtain ⟨items, s', s'', us, rfl, hitems, hsep, hphrases⟩ := exists_inParens ihargs htail
    subst hitems
    rw [List.length_map, ← List.length_map (·.2)] at hoffers
    refine ⟨_, .call hsep hphrases (Parse.checkedCall_eq_ok_iff.mpr ⟨hoffers, rfl⟩), ?_⟩
    rw [Expr.tree, map_snd_withoutSpans]
  | parenthesized _ ih =>
    intro ls hls
    obtain ⟨⟨_, s⟩, ls, rfl, rfl, htail⟩ := List.map_eq_cons_iff.mp hls
    obtain ⟨vs, ws, rfl, hvs, hws⟩ := List.map_eq_append_iff.mp htail
    obtain ⟨⟨_, s'⟩, rfl, rfl⟩ := List.map_eq_singleton_iff.mp hws
    obtain ⟨e, he, rfl⟩ := ih vs hvs
    exact ⟨_, .parenthesized he, e.tree_withSpan _⟩

/-! ### Sources and derivations -/

/-- **No tokens have two derivations of different trees**: both are read as the same expression. -/
theorem Derives.unique {functions : Registry} {level : Level} {tokens : List Token} {t t' : Tree}
    (h : Derives functions level tokens t) (h' : Derives functions level tokens t') : t = t' := by
  -- Any places will do, so all tokens are put at the same one.
  have hts : (tokens.map (⟨·, .detached⟩ : Token → Lexeme)).map (·.token) = tokens := by
    rw [List.map_map]
    exact List.map_id _
  obtain ⟨e, he, rfl⟩ := h.placed _ hts
  obtain ⟨e', he', rfl⟩ := h'.placed _ hts
  rw [he.unique he']

/-- The tokens of a source are legible. -/
theorem Source.legible_of_tokens {source : Source} {ts : List Lexeme}
    (h : source.tokens = .ok ts) : ∀ t ∈ ts, t.Legible := by
  intro t ht digits htoken
  have hlex := Source.exists_tokens_iff.mp ⟨ts, h, rfl⟩
  have hmem : .ok (.number digits) ∈ Token.lex source.chars := by
    rw [hlex, List.map_map]
    exact List.mem_map.mpr ⟨t, ht, congrArg Except.ok htoken⟩
  exact Token.exists_readDigits?_of_mem_lex hmem

/-- A source parses to a tree if and only if its tokens have a derivation of it. -/
theorem Source.exists_parse_iff {functions : Registry} {source : Source} {t : Tree} :
    (∃ e, source.parse functions = .ok e ∧ e.tree = t) ↔
      ∃ ts, source.tokens = .ok ts ∧ Derives functions .top (ts.map (·.token)) t := by
  simp only [Source.parse_eq_ok_iff_phrase]
  constructor
  · rintro ⟨e, ⟨ts, hts, he⟩, rfl⟩
    exact ⟨ts, hts, he.derives (Source.legible_of_tokens hts)⟩
  · rintro ⟨ts, hts, h⟩
    obtain ⟨e, he, htree⟩ := h.placed ts rfl
    exact ⟨e, ⟨ts, hts, he⟩, htree⟩

/-- **The parser accepts exactly its grammar**: a source parses if and only if its tokens have a
derivation, the parsed expression is the derived tree with spans, and there is no other tree that
they derive. -/
theorem Source.parse_iff_derives (functions : Registry) (source : Source) :
    (∀ t, (∃ e, source.parse functions = .ok e ∧ e.tree = t) ↔
      ∃ ts, source.tokens = .ok ts ∧ Derives functions .top (ts.map (·.token)) t) ∧
    ∀ tokens t t', Derives functions .top tokens t → Derives functions .top tokens t' → t = t' :=
  ⟨fun _ => Source.exists_parse_iff, fun _ _ _ => Derives.unique⟩

end EventFilter
