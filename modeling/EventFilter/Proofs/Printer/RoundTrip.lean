import EventFilter.Proofs.Printer

/-!
# Written trees are read back

A tree is printable if all that it holds can be written: names that are read as names, strings that
have a literal, lists that are not empty, and calls that the registry offers (`Tree.Printable`). The
tokens of a printable tree have a derivation of it at its level (`Tree.Printable.derives`), and its
text is read as these tokens (`Tree.Printable.isRead`). The derivation is where the places of
operands matter: a tree that is tight enough for its place derives there because derivations carry
over to looser levels, and any other one is in parentheses.
Main statement: the text of a printable tree parses to that tree (`Tree.parse_print`).
-/

namespace EventFilter

/-! ### Derivations in places -/

namespace Derives

variable {functions : Registry} {level level' : Level} {ts us : List Token} {t l r : Tree}

/-- **A derivation carries over to every looser level.** -/
theorem loosen (h : Derives functions level ts t) (hr : level.rank ≤ level'.rank) :
    Derives functions level' ts t :=
  Level.loosen (motive := fun level => Derives functions level ts t)
    .operand .comparison .sum .primary h hr

/-- An operator derives between operands in their places. -/
theorem binary (op : BinaryOp) (hl : Derives functions op.leftPlace ts l)
    (hr : Derives functions op.rightPlace us r) :
    Derives functions op.level (ts ++ op.token :: us) (.binary op l r) := by
  cases op with
  | arithmetic op =>
    cases op with
    | add => exact .add hl hr
    | sub => exact .sub hl hr
    | mul => exact .mul hl hr
    | div => exact .div hl hr
    | mod => exact .mod hl hr
  | comparison op => exact .compare op hl hr
  | logical op =>
    cases op with
    | and => exact .and hl hr
    | or => exact .or hl hr
    | xor => exact .xor hl hr

end Derives

/-! ### Tokens of layouts -/

namespace Layout

variable {l l' : Layout}

@[simp] theorem tokens_nil : tokens [] = [] := rfl

@[simp] theorem tokens_blank : tokens (none :: l) = l.tokens := rfl

@[simp] theorem tokens_cons (token : Token) : tokens (some token :: l) = token :: l.tokens := rfl

@[simp] theorem tokens_append : tokens (l ++ l') = l.tokens ++ l'.tokens :=
  List.filterMap_append

@[simp] theorem tokens_parenthesized :
    l.parenthesized.tokens = .symbol .leftParen :: (l.tokens ++ [.symbol .rightParen]) := by
  simp [parenthesized]

/-- The tokens of a list are those of its items with commas between them. -/
theorem tokens_listed (ls : List Layout) :
    (listed ls).tokens = commaSeparated (ls.map tokens) := by
  unfold listed commaSeparated
  match ls with
  | [] => rfl
  | [l] => simp
  | l :: l' :: ls =>
    have ih := tokens_listed (l' :: ls)
    unfold listed commaSeparated at ih
    rw [List.intercalate_cons_cons, tokens_append, tokens_append, ih]
    simp only [List.map_cons, List.intercalate_cons_cons]
    rfl

end Layout

/-! ### Derivations of written trees -/

/-- **A tree that can be written**, and whose calls the registry offers. -/
inductive Tree.Printable (functions : Registry) : Tree → Prop
  /-- a truth value or an integer -/
  | literal {v : Value} : v.kind ≠ .string → Printable functions (.literal v)
  /-- a text that some string literal denotes -/
  | string {text cs} : Token.lex cs = [.ok (.string text)] →
      Printable functions (.literal (.string text))
  /-- an attribute with a name that is read as a name -/
  | attr {name} : Token.lex name.toList = [.ok (.identifier name)] →
      Printable functions (.attr name)
  /-- EXISTS with a name that is read as a name -/
  | present {name} : Token.lex name.toList = [.ok (.identifier name)] →
      Printable functions (.present name)
  /-- an operator before its operand -/
  | unary {op x} : Printable functions x → Printable functions (.unary op x)
  /-- an operator between its operands -/
  | binary {op l r} : Printable functions l → Printable functions r →
      Printable functions (.binary op l r)
  /-- IN with a list that is not empty -/
  | among {x set} : Printable functions x → set ≠ [] → (∀ t ∈ set, Printable functions t) →
      Printable functions (.among x set)
  /-- LIKE -/
  | like {x p} : Printable functions x → Printable functions (.like x p)
  /-- a call that the registry offers, of a name in upper case that is read as a name -/
  | call {name args} : Token.lex name.toList = [.ok (.identifier name)] →
      Text.asciiUpper name = name → functions.Offers name args.length →
      (∀ t ∈ args, Printable functions t) → Printable functions (.call name args)

variable {functions : Registry}

/-- **A tree derives in every place**, in parentheses if need be. -/
theorem Derives.inPlace {t : Tree} {l : Layout} (h : Derives functions t.level l.tokens t)
    (place : Level) : Derives functions place (t.inPlace place l).tokens t := by
  unfold Tree.inPlace
  split
  · rename_i hr
    exact h.loosen hr
  · have hany : Derives functions .top l.tokens t := h.loosen t.level.rank_le
    rw [Layout.tokens_parenthesized]
    exact (Derives.parenthesized hany).loosen (Nat.zero_le _)

/-- Every operator with two operands is looser than a minus. -/
theorem BinaryOp.rank_sign_lt (op : BinaryOp) : Level.sign.rank < op.level.rank := by
  cases op with
  | arithmetic op => cases op <;> decide
  | comparison op => exact (by decide : (1 : Nat) < 4)
  | logical op => cases op <;> decide

/-- A tree that is no numeral is not written with a number in front, if it is tight enough to stand
behind a minus. -/
theorem Tree.tokens_layout_ne_number {t : Tree} (h : t.isNumeral = false)
    (hr : t.level.rank ≤ Level.sign.rank) (digits : String) (us : List Token) :
    t.layout.tokens ≠ .number digits :: us := by
  cases t with
  | literal v =>
    cases v with
    | boolean b => cases b <;> exact nofun
    | integer n =>
      have hneg : n.toInt < 0 := by simpa [isNumeral] using h
      rw [layout, Value.layout, if_pos hneg]
      exact nofun
    | string s => exact nofun
  | attr name | present name | call name args => exact nofun
  | unary op x =>
    cases op with
    | not => exact absurd (show 5 ≤ 1 from hr) (by decide)
    | negate => exact nofun
  | binary op l r => exact absurd hr (Nat.not_le_of_lt op.rank_sign_lt)
  | among x set | like x p => exact absurd (show 4 ≤ 1 from hr) (by decide)

/-- A number is written in digits. -/
theorem readDigits?_toDigits_toList (n : Nat) :
    Text.readDigits? (String.ofList (Nat.toDigits 10 n)).toList = some n := by
  rw [String.toList_ofList, Text.readDigits?_toDigits]

/-- The tokens that a tree is written with, and the tree. -/
def Tree.written (t : Tree) : List Token × Tree := (t.layout.tokens, t)

/-- The items of a list derive as items of a list. -/
theorem Derives.items {set : List Tree}
    (h : ∀ t ∈ set, Derives functions t.level t.layout.tokens t) :
    ∀ i ∈ set.map Tree.written, Derives functions .top i.1 i.2 := by
  intro _ hi
  obtain ⟨t, ht, rfl⟩ := List.mem_map.mp hi
  exact (h t ht).loosen t.level.rank_le

/-- The trees of the items are those of the list. -/
theorem Tree.map_snd_written (set : List Tree) : (set.map written).map (·.2) = set := by
  rw [List.map_map]
  exact List.map_id _

/-- The tokens of a list in parentheses. -/
theorem Layout.tokens_listed_parenthesized (set : List Tree) :
    (listed (Tree.layouts set)).parenthesized.tokens =
      .symbol .leftParen ::
        (commaSeparated ((set.map Tree.written).map (·.1)) ++ [.symbol .rightParen]) := by
  rw [tokens_parenthesized, tokens_listed, Tree.layouts_eq_map, List.map_map, List.map_map]
  rfl

/-- **The tokens of a printable tree derive it** at its level. -/
theorem Tree.Printable.derives {t : Tree} (h : t.Printable functions) :
    Derives functions t.level t.layout.tokens t := by
  induction h with
  | @literal v hv =>
    cases v with
    | boolean b =>
      cases b with
      | true => exact .true
      | false => exact .false
    | integer n =>
      rw [level, layout, Value.layout]
      split
      · exact .negativeNumber (readDigits?_toDigits_toList _) (by omega)
      · exact .number (readDigits?_toDigits_toList _) (by omega)
    | string s => exact absurd rfl hv
  | string _ => exact .string _
  | attr _ => exact .attr _
  | present _ => exact .present _
  | @unary op x _ ih =>
    cases op with
    | not => exact .not (ih.inPlace .negation)
    | negate =>
      rw [layout]
      split
      · have hany : Derives functions .top x.layout.tokens x := ih.loosen x.level.rank_le
        rw [Layout.tokens_cons, Layout.tokens_parenthesized]
        exact .negate (.primary (.parenthesized hany)) nofun
      · rename_i hnumeral
        refine .negate (ih.inPlace .sign) ?_
        unfold inPlace
        split
        · rename_i hr
          exact tokens_layout_ne_number (Bool.eq_false_iff.mpr hnumeral) hr
        · exact nofun
  | @binary op l r _ _ ihl ihr =>
    have hbinary := Derives.binary op (ihl.inPlace op.leftPlace) (ihr.inPlace op.rightPlace)
    rw [layout, Layout.tokens_append]
    exact hbinary
  | @among x set _ hne _ ih ihset =>
    have hamong := Derives.among (ih.inPlace (.chain .sum)) (mt List.map_eq_nil_iff.mp hne)
      (Derives.items ihset)
    rw [map_snd_written] at hamong
    rw [layout, Layout.tokens_append, Layout.tokens_blank, Layout.tokens_cons,
      Layout.tokens_blank, Layout.tokens_listed_parenthesized]
    exact hamong
  | @like x p _ ih =>
    rw [layout, Layout.tokens_append]
    exact .like p (ih.inPlace _)
  | @call name args _ hupper hoffers _ ihargs =>
    rw [← List.length_map written] at hoffers
    have hcall := Derives.call hoffers (Derives.items ihargs)
    rw [map_snd_written, hupper] at hcall
    rw [layout, Layout.tokens_cons, Layout.tokens_listed_parenthesized]
    exact hcall

/-! ### Texts of layouts -/

namespace Layout

variable {l l' : Layout} {token : Token}

/-- **The text of a layout is read as its tokens** wherever it stands before a delimiter. -/
def IsRead (l : Layout) : Prop :=
  ∀ rest, Token.Delimited rest →
    Token.lex (l.text ++ rest) = l.tokens.map .ok ++ Token.lex rest

/-- A text that begins with a delimiter. -/
theorem delimited_cons {c : Char} {cs : List Char} (h : c ∈ Token.delimiters) :
    Token.Delimited (c :: cs) := by
  rintro _ ⟨⟩
  exact h

/-- Nothing is read as nothing. -/
theorem IsRead.nil : IsRead [] := fun _ _ => rfl

/-- A token that can be written. -/
theorem IsRead.single (h : token.IsWritable) : IsRead [some token] := by
  intro rest hrest
  have htext : text [some token] = token.spelling := List.append_nil _
  rw [htext, Token.lex_spelling h hrest]
  rfl

/-- A blank before anything. -/
theorem IsRead.blank (h : l.IsRead) : IsRead (none :: l) := by
  intro rest hrest
  have htext : text (none :: l) ++ rest = ' ' :: (l.text ++ rest) := rfl
  rw [htext, Token.lex_blank (by decide), h rest hrest, tokens_blank]

/-- **A layout before one that begins with a delimiter.** -/
theorem IsRead.append (h : l.IsRead) (h' : l'.IsRead)
    (hl' : ∀ rest, Token.Delimited (l'.text ++ rest)) : IsRead (l ++ l') := by
  intro rest hrest
  have htext : text (l ++ l') = l.text ++ l'.text := List.flatMap_append
  rw [htext, List.append_assoc, h _ (hl' rest), h' rest hrest, tokens_append, List.map_append,
    List.append_assoc]

/-- A token before a blank. -/
theorem IsRead.beforeBlank (h : token.IsWritable) (hl : l.IsRead) :
    IsRead (some token :: none :: l) :=
  (IsRead.single h).append hl.blank fun _ => delimited_cons (by decide)

/-- A token between two blanks. -/
theorem IsRead.spaced (hl : l.IsRead) (h : token.IsWritable) (hl' : l'.IsRead) :
    IsRead (l ++ none :: some token :: none :: l') :=
  hl.append (IsRead.beforeBlank h hl').blank fun _ => delimited_cons (by decide)

/-- An opening parenthesis needs nothing behind it. -/
theorem IsRead.leftParen (h : l.IsRead) : IsRead (some (.symbol .leftParen) :: l) := by
  intro rest hrest
  have htext : text (some (.symbol .leftParen) :: l) ++ rest = '(' :: (l.text ++ rest) := rfl
  have hscan (cs : List Char) : Token.scan '(' cs = ⟨.ok (.symbol .leftParen), ['('], cs⟩ := rfl
  rw [htext, Token.lex_cons (by decide), hscan, h rest hrest, tokens_cons]
  rfl

/-- A minus needs nothing behind it. -/
theorem IsRead.minus (h : l.IsRead) : IsRead (some (.symbol .minus) :: l) := by
  intro rest hrest
  have htext : text (some (.symbol .minus) :: l) ++ rest = '-' :: (l.text ++ rest) := rfl
  have hscan (cs : List Char) : Token.scan '-' cs = ⟨.ok (.symbol .minus), ['-'], cs⟩ := rfl
  rw [htext, Token.lex_cons (by decide), hscan, h rest hrest, tokens_cons]
  rfl

/-- **A layout in parentheses.** -/
theorem IsRead.parenthesized (h : l.IsRead) : l.parenthesized.IsRead := by
  have hclose : IsRead [some (.symbol .rightParen)] := .single trivial
  exact (h.append hclose fun _ => delimited_cons (by decide)).leftParen

/-- Layouts with commas between them. -/
theorem IsRead.listed {ls : List Layout} (h : ∀ l ∈ ls, l.IsRead) : (listed ls).IsRead := by
  induction ls with
  | nil => exact .nil
  | cons l ls ih =>
    obtain ⟨hl, hls⟩ := List.forall_mem_cons.mp h
    cases ls with
    | nil =>
      rw [Layout.listed, List.intercalate_singleton]
      exact hl
    | cons l' ls =>
      rw [Layout.listed, List.intercalate_cons_cons, List.append_assoc]
      exact hl.append (IsRead.beforeBlank trivial (ih hls)) fun _ => delimited_cons (by decide)

/-- A tree in a place. -/
theorem IsRead.inPlace (h : l.IsRead) (t : Tree) (place : Level) : (t.inPlace place l).IsRead := by
  unfold Tree.inPlace
  split
  · exact h
  · exact h.parenthesized

end Layout

open Layout (IsRead)

/-- The token of an operator can be written. -/
theorem BinaryOp.isWritable_token (op : BinaryOp) : op.token.IsWritable := by
  cases op with
  | arithmetic op => cases op <;> trivial
  | comparison op => trivial
  | logical op => cases op <;> trivial

/-- The text of a pattern can be written. -/
theorem Pattern.isWritable_text (p : Pattern) : (Token.string p.text).IsWritable :=
  .inl (PatternItem.isQuotable_of_read rfl p.read_text)

/-- **The text of a printable tree is read as its tokens.** -/
theorem Tree.Printable.isRead {t : Tree} (h : t.Printable functions) : t.layout.IsRead := by
  have hlist {set : List Tree} (ih : ∀ t ∈ set, t.layout.IsRead) :
      (Layout.listed (layouts set)).parenthesized.IsRead := by
    apply IsRead.parenthesized
    apply IsRead.listed
    intro l hl
    rw [layouts_eq_map] at hl
    obtain ⟨t, ht, rfl⟩ := List.mem_map.mp hl
    exact ih t ht
  induction h with
  | @literal v hv =>
    cases v with
    | boolean b => cases b <;> exact .single trivial
    | integer n =>
      have hnumber : IsRead [some (.number (String.ofList (Nat.toDigits 10 n.toInt.natAbs)))] :=
        .single ⟨_, readDigits?_toDigits_toList _⟩
      rw [layout, Value.layout]
      split
      · exact hnumber.minus
      · exact hnumber
    | string s => exact absurd rfl hv
  | @string text cs htext =>
    have hmem : .ok (.string text) ∈ Token.lex cs := by rw [htext]; exact List.mem_cons_self
    exact .single (Token.isWritable_string_of_mem_lex hmem)
  | attr hname => exact .single hname
  | present hname => exact .beforeBlank trivial (.single hname)
  | @unary op x _ ih =>
    cases op with
    | not => exact .beforeBlank trivial (ih.inPlace x .negation)
    | negate =>
      rw [layout]
      split
      · exact ih.parenthesized.minus
      · exact (ih.inPlace x .sign).minus
  | @binary op l r _ _ ihl ihr =>
    exact (ihl.inPlace l _).spaced op.isWritable_token (ihr.inPlace r _)
  | @among x set _ _ _ ih ihset => exact (ih.inPlace x _).spaced trivial (hlist ihset)
  | @like x p _ ih => exact (ih.inPlace x _).spaced trivial (.single p.isWritable_text)
  | @call name args hname _ _ _ ihargs =>
    have hcall : IsRead [some (.identifier name)] := .single hname
    exact hcall.append (hlist ihargs) fun _ => Layout.delimited_cons (by decide)

/-- **The text of a printable tree parses to that tree**, whatever source it is. -/
theorem Tree.parse_print {t : Tree} (h : t.Printable functions) (id : Nat) :
    ∃ e, Source.parse functions ⟨id, t.print⟩ = .ok e ∧ e.tree = t := by
  have htext : (Source.mk id t.print).chars = t.layout.text := String.toList_ofList
  have hlex := h.isRead [] nofun
  rw [List.append_nil, Token.lex_nil, List.append_nil, ← htext] at hlex
  obtain ⟨ts, hts, htokens⟩ := Source.exists_tokens_iff.mpr hlex
  refine Source.exists_parse_iff.mpr ⟨ts, hts, ?_⟩
  rw [htokens]
  exact h.derives.loosen t.level.rank_le

/-- A tree in which parentheses are needed and others are not. -/
theorem Tree.parse_print_nested :
    let functions := Registry.ofList
      [.define "f" [] (some .string) .string fun _ => .ok (.string "")]
    let percent : Pattern := ⟨"50\\%", [.char '5', .char '0', .char '%'], rfl⟩
    let difference : Tree := .binary (.arithmetic .sub) (.attr "a")
      (.binary (.arithmetic .sub) (.attr "b") (.unary .negate (.literal (.integer 5))))
    let call : Tree := .call "F" [.literal (.string "it's"), .like difference percent]
    let t : Tree := .unary .not
      (.binary (.logical .or) (.present "c") (.among call [.literal (.integer (-1))]))
    t.print = "NOT (EXISTS c OR F('it''s', a - (b - -(5)) LIKE '50\\%') IN (-1))" ∧
      ∃ e, Source.parse functions ⟨0, t.print⟩ = .ok e ∧ e.tree = t := by
  intro functions percent difference call t
  have hname {c : Char} (hblank : Text.isBlank c = false) (hstart : Token.isNameStart c = true)
      (hword : Token.ofWord [c] = .identifier (String.ofList [c])) :
      Token.lex [c] = [.ok (.identifier (String.ofList [c]))] := by
    have hread : Token.lex (c :: ([] ++ [])) = .ok (Token.ofWord [c]) :: Token.lex [] :=
      Token.lex_word hblank hstart rfl nofun
    rw [hword, Token.lex_nil] at hread
    exact hread
  have ha : Token.lex ['a'] = [.ok (.identifier "a")] := hname rfl rfl (by decide)
  have hb : Token.lex ['b'] = [.ok (.identifier "b")] := hname rfl rfl (by decide)
  have hc : Token.lex ['c'] = [.ok (.identifier "c")] := hname rfl rfl (by decide)
  have hf : Token.lex ['F'] = [.ok (.identifier "F")] := hname rfl rfl (by decide)
  have hstring : Token.lex ((Token.string "it's").spelling ++ []) = [.ok (.string "it's")] := by
    have hwritable : (Token.string "it's").IsWritable := .inl (by decide)
    have hend : Token.Delimited [] := nofun
    rw [Token.lex_spelling hwritable hend, Token.lex_nil]
  have hdifference : difference.Printable functions :=
    .binary (.attr ha) (.binary (.attr hb) (.unary (.literal nofun)))
  have hcall : call.Printable functions := by
    refine .call hf rfl ⟨_, List.mem_cons_self, rfl, rfl⟩ ?_
    exact List.forall_mem_cons.mpr
      ⟨.string hstring, List.forall_mem_singleton.mpr (.like hdifference)⟩
  have ht : t.Printable functions := by
    refine .unary (.binary (.present hc) (.among hcall nofun ?_))
    exact List.forall_mem_singleton.mpr (.literal nofun)
  exact ⟨by decide +kernel, Tree.parse_print ht 0⟩

end EventFilter
