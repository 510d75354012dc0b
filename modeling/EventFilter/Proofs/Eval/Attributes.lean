import EventFilter.Proofs.Eval.Blame

/-!
# The attributes that an expression reads

Evaluation asks an environment for no other attributes than those listed for the expression: in
environments with the same functions that agree on these attributes (`Environment.AgreeOn`) the
runs are the same (`Expr.run_eq_of_agreeOn`), and where all of them are there, no attribute is
missing (`Expr.eval_ne_missingAttribute`). The list has each name once, in the order in which the
nodes of the expression first read them. Main statement: all of this
(`Expr.attributes_determine_eval`).
-/

namespace EventFilter

/-! ### The order of values without repetitions -/

section firsts

variable {α β : Type} [BEq β] [LawfulBEq β]

/-- What does not appear at the head of a list is one place further on than in its tail. -/
theorem findIdx_cons_of_ne {f : α → Option β} {x : α} {xs : List α} {b : β} (h : f x ≠ some b) :
    (x :: xs).findIdx (fun y => f y == some b) = xs.findIdx (fun y => f y == some b) + 1 := by
  rw [List.findIdx_cons, beq_eq_false_iff_ne.mpr h, cond_false]

/-- **Without repetitions the values of a list are in the order of their first appearance.** -/
theorem pairwise_eraseDups_filterMap (f : α → Option β) (l : List α) :
    (l.filterMap f).eraseDups.Pairwise fun a b =>
      l.findIdx (fun x => f x == some a) < l.findIdx fun x => f x == some b := by
  induction l generalizing f with
  | nil => exact .nil
  | cons x xs ih =>
    cases hx : f x with
    | none =>
      rw [List.filterMap_cons_none hx]
      have hne (b : β) : f x ≠ some b := by
        rw [hx]
        nofun
      refine (ih f).imp fun {a b} hab => ?_
      rw [findIdx_cons_of_ne (hne a), findIdx_cons_of_ne (hne b)]
      exact Nat.succ_lt_succ hab
    | some c =>
      -- Behind the first value only the others count, so the rest is read as one without it.
      let others (y : α) : Option β := (f y).filter fun b => !b == c
      have hothers {b : β} (hb : b ≠ c) (y : α) : (others y == some b) = (f y == some b) := by
        cases hy : f y <;> grind
      have hrest : (xs.filterMap f).filter (fun b => !b == c) = xs.filterMap others :=
        List.filter_filterMap
      have hne (b : β) (hb : b ∈ (xs.filterMap others).eraseDups) : b ≠ c := by
        rw [List.mem_eraseDups, ← hrest] at hb
        simpa using (List.mem_filter.mp hb).2
      have hhead (b : β) (hb : b ≠ c) : f x ≠ some b := by
        rw [hx]
        exact fun h => hb (Option.some.inj h).symm
      rw [List.filterMap_cons_some hx, List.eraseDups_cons, hrest, List.pairwise_cons]
      constructor
      · intro b hb
        rw [findIdx_cons_of_ne (hhead b (hne b hb)), List.findIdx_cons, hx, beq_self_eq_true]
        exact Nat.succ_pos _
      · refine (ih others).imp_of_mem fun {a b} ha hb hab => ?_
        rw [findIdx_cons_of_ne (hhead a (hne a ha)), findIdx_cons_of_ne (hhead b (hne b hb))]
        simp only [hothers (hne a ha), hothers (hne b hb)] at hab
        exact Nat.succ_lt_succ hab

end firsts

/-! ### Environments that agree -/

/-- **Two environments agree on attributes**: they have the same functions, and these attributes
have the same values or are missing in both. -/
structure Environment.AgreeOn (names : List String) (env env' : Environment) : Prop where
  overloads : env.overloads = env'.overloads
  valueOf : ∀ name ∈ names, env.valueOf name = env'.valueOf name

namespace Expr

open Environment (AgreeOn)

variable {e c : Expr} {env env' : Environment} {name : String}

/-- The attributes of an expression are those that its nodes read. -/
theorem mem_attributes_iff : name ∈ e.attributes ↔ ∃ n ∈ e.nodes, n.attributeRead? = some name := by
  rw [attributes, List.mem_eraseDups, List.mem_filterMap]

/-- The attributes of an operand are attributes of the expression. -/
theorem mem_attributes_of_child (hc : c ∈ e.children) (h : name ∈ c.attributes) :
    name ∈ e.attributes := by
  obtain ⟨n, hn, hread⟩ := mem_attributes_iff.mp h
  exact mem_attributes_iff.mpr ⟨n, mem_nodes_of_child hc hn, hread⟩

/-- Environments that agree for an expression agree for its operands. -/
theorem agreeOn_of_child (hc : c ∈ e.children) (h : AgreeOn e.attributes env env') :
    AgreeOn c.attributes env env' :=
  ⟨h.overloads, fun name hname => h.valueOf name (mem_attributes_of_child hc hname)⟩

/-- Environments that agree for an expression agree on what it reads itself. -/
theorem valueOf_eq_of_agreeOn (h : AgreeOn e.attributes env env')
    (hread : e.attributeRead? = some name) : env.valueOf name = env'.valueOf name :=
  h.valueOf name (mem_attributes_iff.mpr ⟨e, e.self_mem_nodes, hread⟩)

/-- A search is the same if its elements run in the same way. -/
theorem runAmong_congr {needle : Value} {valueSpan span : Span} {set : List Expr}
    (h : ∀ c ∈ set, c.run env = c.run env') :
    runAmong env needle valueSpan span set = runAmong env' needle valueSpan span set := by
  induction set with
  | nil => rfl
  | cons c cs ih =>
    obtain ⟨hc, hcs⟩ := List.forall_mem_cons.mp h
    rw [runAmong, runAmong, hc, ih hcs]

/-- Arguments are the same if they run in the same way. -/
theorem runArguments_congr {f : Overload} {index : Nat} {args : List Expr}
    (h : ∀ c ∈ args, c.run env = c.run env') :
    runArguments env f index args = runArguments env' f index args := by
  induction args generalizing index with
  | nil => rfl
  | cons c cs ih =>
    obtain ⟨hc, hcs⟩ := List.forall_mem_cons.mp h
    rw [runArguments, runArguments, hc, ih hcs]

/-- **Where the attributes are the same, so is the run.** -/
theorem run_eq_of_agreeOn (h : AgreeOn e.attributes env env') : e.run env = e.run env' := by
  induction e using childInduction with
  | node e ih =>
    have hrun (c : Expr) (hc : c ∈ e.children) : c.run env = c.run env' :=
      ih c hc (agreeOn_of_child hc h)
    cases e with
    | literal => rfl
    | attr name s => rw [run, run, valueOf_eq_of_agreeOn h rfl]
    | present name ns s => rw [run, run, valueOf_eq_of_agreeOn h rfl]
    | unary op x s => rw [run, run, hrun x List.mem_cons_self]
    | like x p s => rw [run, run, hrun x List.mem_cons_self]
    | binary op l r s =>
      have hl := hrun l List.mem_cons_self
      have hr := hrun r (List.mem_cons_of_mem l List.mem_cons_self)
      cases op <;> rw [run, run, hl, hr]
    | among x set s =>
      obtain ⟨hx, hset⟩ := List.forall_mem_cons.mp hrun
      rw [run, run, hx]
      congr 1
      funext needle
      exact runAmong_congr hset
    | call name args s =>
      have hsame : env'.resolve name args.length = env.resolve name args.length := by
        rw [Environment.resolve, Environment.resolve, h.overloads]
      cases hresolve : env.resolve name args.length with
      | none =>
        have hresolve' := hsame.trans hresolve
        rw [run_call_of_resolve_eq_none hresolve, run_call_of_resolve_eq_none hresolve',
          h.overloads]
      | some f =>
        have hargs : runArguments env f 0 args = runArguments env' f 0 args :=
          runArguments_congr hrun
        rw [run_call hresolve, run_call (hsame.trans hresolve), hargs]

/-- **Where all attributes are there, none is missing.** -/
theorem eval_ne_missingAttribute (h : ∀ name ∈ e.attributes, (env.valueOf name).isSome)
    (span : Span) : e.eval env ≠ .error ⟨.missingAttribute name, span⟩ := by
  intro herror
  obtain ⟨n, hn, -, hcause⟩ := isBlamed_of_eval_eq_error herror
  cases hcause with
  | missing hnone =>
    have hsome := h name (mem_attributes_iff.mpr ⟨_, hn, rfl⟩)
    rw [hnone] at hsome
    cases hsome

/-- Where in the preorder of its nodes an expression first reads an attribute. -/
def firstRead (e : Expr) (name : String) : Nat :=
  e.nodes.findIdx fun n => n.attributeRead? == some name

/-- The attributes of an expression are listed in the order in which it first reads them. -/
theorem pairwise_attributes (e : Expr) :
    e.attributes.Pairwise fun a b => e.firstRead a < e.firstRead b :=
  pairwise_eraseDups_filterMap attributeRead? e.nodes

/-- **The attributes of an expression determine its value**, together with the functions: whatever
else two environments hold, the value or the error is the same. If the attributes are there,
evaluation finds none missing. Each attribute that a node reads is listed once, and the list is in
the order in which the nodes first read them. -/
theorem attributes_determine_eval (e : Expr) :
    (∀ env env', AgreeOn e.attributes env env' → e.eval env = e.eval env') ∧
    (∀ env, (∀ name ∈ e.attributes, (env.valueOf name).isSome) →
      ∀ name span, e.eval env ≠ .error ⟨.missingAttribute name, span⟩) ∧
    (∀ name, name ∈ e.attributes ↔ ∃ n ∈ e.nodes, n.attributeRead? = some name) ∧
    e.attributes.Nodup ∧ e.attributes.Pairwise fun a b => e.firstRead a < e.firstRead b := by
  refine ⟨fun env env' h => ?_, fun env h name => eval_ne_missingAttribute h,
    fun name => mem_attributes_iff, ?_, e.pairwise_attributes⟩
  · rw [eval, eval, run_eq_of_agreeOn h]
  · exact e.pairwise_attributes.imp fun hlt heq => by rw [heq] at hlt; exact Nat.lt_irrefl _ hlt

/-- A connective and two environments that differ on all attributes but its two. -/
theorem attributes_determine_eval_or :
    let e := Expr.binary (.logical .or) (.attr "flag" .detached) (.present "n" .detached .detached)
      .detached
    let env (other : Value) : Environment :=
      ⟨fun name => if name ∈ e.attributes then some (.boolean true) else some other, fun _ => none⟩
    AgreeOn e.attributes (env (.integer 1)) (env (.string "a")) ∧
      e.eval (env (.integer 1)) = e.eval (env (.string "a")) ∧
      (∀ name ∈ e.attributes, ((env (.integer 1)).valueOf name).isSome) ∧
      ∀ name span, e.eval (env (.integer 1)) ≠ .error ⟨.missingAttribute name, span⟩ := by
  intro e env
  have hagree : AgreeOn e.attributes (env (.integer 1)) (env (.string "a")) :=
    ⟨rfl, fun name hname => by simp only [env, if_pos hname]⟩
  have hthere (name : String) (hname : name ∈ e.attributes) :
      ((env (.integer 1)).valueOf name).isSome := by
    simp only [env, if_pos hname, Option.isSome_some]
  obtain ⟨hsame, hpresent, -⟩ := attributes_determine_eval e
  exact ⟨hagree, hsame _ _ hagree, hthere, hpresent _ hthere⟩

end Expr

end EventFilter
