import Summand.Proofs.Evaluation.Operands
import Summand.Proofs.Evaluation.Preservation
import Summand.Proofs.Evaluation.Sums
import Summand.Proofs.Program.Shape
import Summand.Proofs.Program.Spelled

/-!
# Running what has been read

An addition needs two slots on the stack, and the formula of a chain always has them there: an operand
is pushed right in front of each operator, and below it there is a slot from the operands before
(`neverShort_of_shaped`).  The value of a formula is the slot at the bottom, which is missing only if
the formula is empty (`eq_nil_of_bottom?_eq_none`).

Every statement that is run comes from the program or from the body of a function, and functions get
into an environment only by running programs.  So whatever holds of all statements of programs, at any
depth, holds of all statements that are run (`Runs.of_within`).  Here it is the shape that they get
when they are read.  The main statement is `well_formed_when_run`.
-/

namespace Summand

open Token.Kind

/-! ## Shapes on the stack -/

namespace Formula

variable {env : Environment}

/-- Every addition finds two slots on the stack. -/
def NeverShort (env : Environment) (entries : List Entry) : Prop :=
  ∀ before after, entries = before ++ .operator .plus :: after →
    2 ≤ (Machine.run env before).stack.length

namespace Machine

/-- Behind an operand and its operator the stack is not empty. -/
lemma stack_join_ne_nil (m : Machine) (pair : Operator × Operand) : (m.join env pair).stack ≠ [] := by
  obtain ⟨p, x⟩ := pair
  cases p <;> simp [join, step, add]

/-- Behind a chain neither. -/
lemma stack_run_entries_ne_nil (env : Environment) (chain : Chain) :
    (run env chain.entries).stack ≠ [] := by
  rw [run_entries]
  induction chain.joined using List.reverseRecOn with
  | nil => simp
  | append_singleton joined pair _ =>
    rw [List.foldl_append]
    exact stack_join_ne_nil _ pair

/-- With a slot on the stack, the additions among further operands find two. -/
lemma two_le_length_of_joined {joined : List (Operator × Operand)} {m : Machine} (hm : m.stack ≠ [])
    {before after : List Entry}
    (h : joined.flatMap (fun (p, x) => [.operand x, .operator p]) =
      before ++ .operator .plus :: after) :
    2 ≤ (before.foldl (step env) m).stack.length := by
  induction joined generalizing m before with
  | nil => simp at h
  | cons pair joined ih =>
    obtain ⟨p, x⟩ := pair
    simp only [List.flatMap_cons, List.cons_append, List.nil_append] at h
    -- The operator is the one of this pair, or it stands further behind.
    rcases before with - | ⟨entry, - | ⟨operator, before⟩⟩
    · simp at h
    · simp only [List.cons_append, List.nil_append, List.cons.injEq] at h
      obtain ⟨rfl, -⟩ := h
      exact Nat.succ_le_succ (List.length_pos_of_ne_nil hm)
    · simp only [List.cons_append, List.cons.injEq] at h
      obtain ⟨rfl, rfl, h⟩ := h
      exact ih (stack_join_ne_nil m (p, x)) h

end Machine

variable {entries : List Entry}

/-- In a formula of the right shape, every addition finds two slots on the stack. -/
lemma neverShort_of_shaped (h : (Expr.formula entries).Shaped) : NeverShort env entries := by
  rintro before after hsplit
  rcases h with rfl | ⟨chain, rfl⟩
  · simp at hsplit
  · cases before with
    | nil => simp [Chain.entries] at hsplit
    | cons entry before =>
      obtain ⟨rfl, hjoined⟩ := List.cons.inj hsplit
      have hstart : ({ stack := [.pending chain.first] } : Machine).stack ≠ [] := by simp
      exact Machine.two_le_length_of_joined hstart hjoined

/-- Only an empty formula of the right shape leaves nothing on the stack. -/
lemma eq_nil_of_bottom?_eq_none (h : (Expr.formula entries).Shaped)
    (hbottom : (Machine.run env entries).bottom? = none) : entries = [] := by
  rcases h with rfl | ⟨chain, rfl⟩
  · rfl
  · exact absurd (List.getLast?_eq_none_iff.1 hbottom) (Machine.stack_run_entries_ne_nil env chain)

end Formula

/-- An expression that starts with a name has the right shape. -/
lemma Expr.StartsAtName.shaped {e : Expr} (h : e.StartsAtName) : e.Shaped := by
  cases e with
  | call callee => trivial
  | formula entries =>
    obtain ⟨name, joined, rfl⟩ := h
    exact Or.inr ⟨_, rfl⟩

/-- The expression of a statement that is read has the right shape. -/
lemma Stmt.Formed.shaped {named : String → Prop} {s : Stmt} (h : s.Formed named) {e : Expr}
    (he : s.expr? = some e) : e.Shaped := by
  cases s with
  | function name body => simp [expr?] at he
  | expression value =>
    obtain rfl := Option.some.inj he
    exact Expr.StartsAtName.shaped h
  | binding name value | ret value =>
    obtain rfl := Option.some.inj he
    exact h

/-- Only bindings and results are read with an empty formula. -/
lemma Stmt.Formed.cases_of_empty {named : String → Prop} {s : Stmt} (h : s.Formed named)
    (he : s.expr? = some (.formula [])) :
    (∃ name, s = .binding name (.formula [])) ∨ s = .ret (.formula []) := by
  cases s with
  | function name body => simp [expr?] at he
  | binding name value =>
    obtain rfl := Option.some.inj he
    exact Or.inl ⟨name, rfl⟩
  | ret value =>
    obtain rfl := Option.some.inj he
    exact Or.inr rfl
  | expression value =>
    obtain rfl := Option.some.inj he
    obtain ⟨name, joined, hentries⟩ := h
    simp [Chain.entries] at hentries

/-! ## Numerals -/

/-- Digits, with a point and digits behind them or without, denote a number. -/
lemma Literal.isSome_decimal? {cs : List Char} (h : IsNumeral cs) : (decimal? cs).isSome := by
  rcases isNumeral_iff.1 h with ⟨hne, hdigits⟩ | ⟨⟨hne, -⟩, hpoint, -, hfraction⟩
  · simp [decimal?, List.takeWhile_eq_self_iff.2 hdigits, List.dropWhile_eq_nil_iff.2 hdigits, hne,
      exponent?]
  · obtain ⟨fraction, hdrop⟩ := List.head?_eq_some_iff.1 hpoint
    rw [hdrop, List.tail_cons] at hfraction
    simp [decimal?, hdrop, List.dropWhile_eq_nil_iff.2 hfraction, hne, exponent?]

/-- A numeral has no sign. -/
lemma Literal.splitSign_of_isNumeral {cs : List Char} (h : IsNumeral cs) :
    splitSign cs = (false, cs) := by
  unfold splitSign
  split
  · rcases h.isDigit_or_point '-' List.mem_cons_self with hc | hc <;> simp at hc
  · rcases h.isDigit_or_point '+' List.mem_cons_self with hc | hc <;> simp at hc
  · rfl

/-- Every numeral denotes a number. -/
lemma Literal.isSome_number? {text : String} (h : IsNumeral text.toList) :
    (number? text).isSome := by
  rw [number?, splitSign_of_isNumeral h]
  simp [isSome_decimal? h]

/-! ## What is run -/

namespace Stmt

/-- A statement stands in itself. -/
lemma mem_within_self (s : Stmt) : s ∈ s.within := by
  cases s <;> simp [within]

/-- A statement of a block is one of its statements at any depth. -/
lemma mem_withinAll_of_mem {body : List Stmt} {s : Stmt} (h : s ∈ body) : s ∈ withinAll body := by
  obtain ⟨before, after, rfl⟩ := List.append_of_mem h
  rw [withinAll_append, withinAll]
  exact List.mem_append_right _ (List.mem_append_left _ s.mem_within_self)

end Stmt

/-- While the statements are run in the environment, one of them is run in the second environment:
those in front of it have come to a value, and this is what they have left. -/
def RunsAt (enter : Enter) (env : Environment) (body : List Stmt) (place : Environment) (s : Stmt) :
    Prop :=
  ∃ before after v, body = before ++ s :: after ∧ (runBlock enter env before).result = .ok v ∧
    (runBlock enter env before).environment = place

/-- While the statements are run in the environment, with a depth of calls left, the statement is run
in the second environment.  It is one of them, or it is run by a function that is called. -/
inductive Runs (limit : Nat) : Nat → Environment → List Stmt → Environment → Stmt → Prop
  | own {left : Nat} {env place : Environment} {body : List Stmt} {s : Stmt}
    (here : RunsAt (enterWithin limit left) env body place s) : Runs limit left env body place s
  | called {left : Nat} {env between place : Environment} {body inner : List Stmt} {caller s : Stmt}
    {callee name : String} (here : RunsAt (enterWithin limit (left + 1)) env body between caller)
    (calls : caller.expr? = some (.call callee))
    (bound : between.get? callee = some (.function name inner))
    (inside : Runs limit left between inner place s) : Runs limit (left + 1) env body place s

/-- All statements of a function have the property; other values have none. -/
def Value.AllWithin (P : Stmt → Prop) (v : Value) : Prop :=
  ∀ name body, v = .function name body → Stmt.AllWithin P body

/-- All statements of the functions that are bound have the property. -/
def Environment.AllWithin (P : Stmt → Prop) (env : Environment) : Prop :=
  ∀ key v, env.get? key = some v → v.AllWithin P

section AllWithin

variable {P : Stmt → Prop} {env : Environment}

/-- Only functions have statements. -/
lemma Value.allWithin_of_ne {v : Value} (h : ∀ name body, v ≠ .function name body) :
    v.AllWithin P :=
  fun name body heq => absurd heq (h name body)

lemma Environment.allWithin_empty : Environment.empty.AllWithin P := by
  intro key v hbound
  simp at hbound

lemma Environment.AllWithin.define (henv : env.AllWithin P) (name : String) {v : Value}
    (hv : v.AllWithin P) : (env.define name v).AllWithin P := by
  intro key u hbound
  rw [get?_define] at hbound
  split at hbound
  · obtain rfl := Option.some.inj hbound
    exact hv
  · exact henv key u hbound

/-- A formula comes to a function only if a name in it is bound to it. -/
lemma Formula.allWithin_value (henv : env.AllWithin P) (entries : List Entry) :
    (Formula.value env entries).AllWithin P :=
  value_of_bound (Value.allWithin_of_ne (by simp)) (fun _ => Value.allWithin_of_ne (by simp))
    fun name v _ hbound => henv name v hbound

lemma Stmt.allWithin_cons {s : Stmt} {rest : List Stmt} :
    AllWithin P (s :: rest) ↔ (∀ u ∈ s.within, P u) ∧ AllWithin P rest := by
  rw [AllWithin, withinAll, List.forall_mem_append]
  rfl

/-- A function that is declared has the statements of its body. -/
lemma Value.allWithin_function {name : String} {inner rest : List Stmt}
    (h : Stmt.AllWithin P (.function name inner :: rest)) : (Value.function name inner).AllWithin P := by
  have hfunction := (Stmt.allWithin_cons.1 h).1
  rw [Stmt.within, List.forall_mem_cons] at hfunction
  intro name' body' heq
  cases heq
  exact hfunction.2

/-- Nothing is bound and nothing comes out but functions that are declared in what is run or were
bound before. -/
def Invariant.allWithin (P : Stmt → Prop) : Invariant where
  body := Stmt.AllWithin P
  expr _ := True
  environment := Environment.AllWithin P
  value := Value.AllWithin P
  fault _ := True
  remark _ := True
  body_tail hbody := (Stmt.allWithin_cons.1 hbody).2
  body_expr _ _ := trivial
  undefined := Value.allWithin_of_ne (by simp)
  bound henv hv name := henv.define name hv
  declared henv hbody := henv.define _ (Value.allWithin_function hbody)
  formula henv _ := ⟨Formula.allWithin_value henv _, fun _ _ => trivial⟩
  entered henv _ hbound := henv _ _ hbound _ _ rfl
  unbound _ := trivial
  notFunction _ _ := trivial
  tooDeep _ _ := trivial

/-- A block that is run within a limit binds no functions but those that are declared in it or in what
it calls. -/
lemma allWithin_runBlock (limit left : Nat) (henv : env.AllWithin P) {body : List Stmt}
    (hbody : Stmt.AllWithin P body) :
    (runBlock (enterWithin limit left) env body).environment.AllWithin P :=
  ((Invariant.allWithin P).kept_runBlock limit left henv hbody).1

/-- What holds of all statements of the program and of the functions that are bound holds of all
statements that are run. -/
lemma Runs.of_within {limit left : Nat} {place : Environment} {body : List Stmt} {s : Stmt}
    (h : Runs limit left env body place s) (henv : env.AllWithin P)
    (hbody : Stmt.AllWithin P body) : P s := by
  induction h with
  | own here =>
    obtain ⟨before, after, v, rfl, -, -⟩ := here
    exact hbody _ (Stmt.mem_withinAll_of_mem (by simp))
  | @called left _ _ _ _ inner _ _ callee name here _ bound _ ih =>
    obtain ⟨before, after, v, rfl, -, rfl⟩ := here
    obtain ⟨hbefore, -⟩ := Stmt.allWithin_append.1 hbody
    have hbetween := allWithin_runBlock limit (left + 1) henv hbefore
    exact ih hbetween (hbetween callee _ bound name inner rfl)

end AllWithin

/-! ## What has been read -/

/-- The statement stands, at any depth, in a program that one of the lists of tokens makes. -/
def Stmt.ReadFrom (readings : List (List Token)) (s : Stmt) : Prop :=
  ∃ tokens ∈ readings, s ∈ Stmt.withinAll (Program.ofTokens tokens)

/-- The bindings that are left when programs are read from tokens and run one after the other, each
by an interpreter of its own. -/
def Environment.afterRuns (runs : List (Interpreter × List Token)) : Environment :=
  runs.foldl (fun env (interpreter, tokens) =>
    (interpreter.extend (Program.ofTokens tokens) env).2.1) .empty

/-- Behind programs whose statements have a property, no functions with other statements are bound. -/
lemma Environment.allWithin_afterRuns {P : Stmt → Prop} {runs : List (Interpreter × List Token)}
    (h : ∀ run ∈ runs, Stmt.AllWithin P (Program.ofTokens run.2)) :
    (Environment.afterRuns runs).AllWithin P := by
  induction runs using List.reverseRecOn with
  | nil => exact allWithin_empty
  | append_singleton runs run ih =>
    rw [List.forall_mem_append, List.forall_mem_singleton] at h
    rw [afterRuns, List.foldl_append]
    exact allWithin_runBlock run.1.limit run.1.limit (ih h.1) h.2

/-- Whatever is run has been read: it stands in the program that is running or in one that was run
before. -/
lemma Runs.readFrom {runs : List (Interpreter × List Token)} {limit left : Nat}
    {tokens : List Token} {place : Environment} {s : Stmt}
    (h : Runs limit left (.afterRuns runs) (Program.ofTokens tokens) place s) :
    s.ReadFrom (tokens :: runs.map Prod.snd) := by
  refine h.of_within (Environment.allWithin_afterRuns ?_) ?_
  · intro run hrun u hu
    exact ⟨run.2, List.mem_cons_of_mem _ (List.mem_map_of_mem hrun), hu⟩
  · exact fun u hu => ⟨tokens, List.mem_cons_self, hu⟩

namespace Stmt

mutual

/-- A statement that stands in another one mentions nothing else. -/
lemma mentions_subset_of_mem_within (u : Stmt) {s : Stmt} (h : s ∈ u.within) :
    s.mentions ⊆ u.mentions := by
  cases u with
  | function name body =>
    rw [within, List.mem_cons] at h
    rcases h with rfl | h
    · exact List.Subset.refl _
    · exact mentions_subset_of_mem_withinAll body h
  | binding name e | ret e | expression e =>
    rw [within, List.mem_singleton] at h
    rw [h]
    exact List.Subset.refl _

/-- A statement that stands in a block, at any depth, mentions nothing else than the block. -/
lemma mentions_subset_of_mem_withinAll (body : List Stmt) {s : Stmt} (h : s ∈ withinAll body) :
    s.mentions ⊆ mentionsAll body := by
  cases body with
  | nil => simp [withinAll] at h
  | cons u body =>
    rw [withinAll, List.mem_append] at h
    rw [mentionsAll]
    rcases h with h | h
    · exact List.Subset.trans (mentions_subset_of_mem_within u h) (List.subset_append_left _ _)
    · exact List.Subset.trans (mentions_subset_of_mem_withinAll body h) (List.subset_append_right _ _)

end

end Stmt

/-- Whatever the tokens are, the formulas of a program, at any depth, are empty or have the shape of a
chain, and an expression on its own is a call or starts with a name.  So in every environment each
addition finds two slots on the stack, and only the empty formula of a binding or a result leaves it
without any.  Whatever is run, in calls or not and behind whatever has been run before, stands in a
program that was read.

If the tokens come from a source, numbers and names are spelled as such, callees are numbers or names,
names of functions are trimmed and free of parentheses, and every number denotes one. -/
theorem well_formed_when_run :
    (∀ parser : Parser, Stmt.FormedAll (fun _ => True) parser.readBlock.1 ∧
      ∀ s ∈ Stmt.withinAll parser.readBlock.1, ∀ entries, s.expr? = some (.formula entries) →
        ∀ env, Formula.NeverShort env entries ∧
          ((Formula.Machine.run env entries).bottom? = none →
            (∃ name, s = .binding name (.formula [])) ∨ s = .ret (.formula []))) ∧
    (∀ runs (interpreter : Interpreter) tokens place s,
      Runs interpreter.limit interpreter.limit (.afterRuns runs) (Program.ofTokens tokens) place s →
        s.ReadFrom (tokens :: runs.map Prod.snd)) ∧
    ∀ source policy lexing parsing,
      let tokens := (Lexer.ofSource source policy lexing).readAll.1
      let program := (Parser.ofTokens tokens parsing).readBlock.1
      Stmt.SpelledAll program ∧ Stmt.FormedAll IsFunctionName program ∧
        ∀ s ∈ Stmt.withinAll program, ∀ entries, s.expr? = some (.formula entries) →
          ∀ text, .operand (.number text) ∈ entries → (Literal.number? text).isSome := by
  refine ⟨?_, ?_, ?_⟩
  · intro parser
    refine ⟨formedAll_readBlock parser, ?_⟩
    intro s hs entries he env
    have hformed := formedAll_readBlock parser s hs
    have hshaped := hformed.shaped he
    refine ⟨Formula.neverShort_of_shaped hshaped, fun hbottom => ?_⟩
    obtain rfl := Formula.eq_nil_of_bottom?_eq_none hshaped hbottom
    exact hformed.cases_of_empty he
  · intro runs interpreter tokens place s hruns
    exact hruns.readFrom
  · intro source policy lexing parsing tokens program
    have hspelled : Stmt.SpelledAll program :=
      BlockState.spelledAll_read _ fun t ht => Lexer.spells_of_mem_readAll ht
    refine ⟨hspelled, formedAll_readBlock_of_source source policy lexing parsing, ?_⟩
    intro s hs entries he text htext
    have hmention := Stmt.mentions_subset_of_expr? he (Expr.mem_mentions_of_mem htext)
    have hwhole := Stmt.mentions_subset_of_mem_withinAll program hs hmention
    exact Literal.isSome_number? (hspelled _ hwhole)

/-- A function is read and bound, and another program calls it.  Inside of the call the binding has an
empty formula, and the result has an addition behind a sign that leaves its operand on the stack. -/
theorem well_formed_when_run_in_call :
    let declaring := (Lexer.ofSource "function f() \x7b let a = ; return a = 1.5 + b; \x7d"
      .halt .closed).readAll.1
    let calling := (Lexer.ofSource "f();" .halt .closed).readAll.1
    let entries : List Entry := [.operand (.identifier "a"), .operand (.number "1.5"),
      .operator .equals, .operand (.identifier "b"), .operator .plus]
    let env := Environment.afterRuns [(⟨0, .closed⟩, declaring)]
    .ret (.formula entries) ∈ Stmt.withinAll (Program.ofTokens declaring) ∧
    .binding "a" (.formula []) ∈ Stmt.withinAll (Program.ofTokens declaring) ∧
    (Literal.number? "1.5").isSome ∧
    ∃ place, Runs 1 1 env (Program.ofTokens calling) place (.ret (.formula entries)) ∧
      Stmt.ReadFrom [calling, declaring] (.ret (.formula entries)) ∧
      Formula.NeverShort place entries ∧
      (Formula.Machine.run place []).bottom? = none ∧
      ((∃ name, Stmt.binding "a" (.formula []) = .binding name (.formula [])) ∨
        Stmt.binding "a" (.formula []) = .ret (.formula [])) := by
  intro declaring calling entries env
  have hdeclaring : Program.ofTokens declaring =
      [.function "f" [.binding "a" (.formula []), .ret (.formula entries)]] := by decide +kernel
  have hcalling : Program.ofTokens calling = [.expression (.call "f")] := by decide +kernel
  have hret : .ret (.formula entries) ∈ Stmt.withinAll (Program.ofTokens declaring) := by
    simp [hdeclaring, Stmt.withinAll, Stmt.within]
  have hbinding : .binding "a" (.formula []) ∈ Stmt.withinAll (Program.ofTokens declaring) := by
    simp [hdeclaring, Stmt.withinAll, Stmt.within]
  have hbound : env.get? "f" =
      some (.function "f" [.binding "a" (.formula []), .ret (.formula entries)]) := by
    have henv : env = Environment.empty.define "f"
        (.function "f" [.binding "a" (.formula []), .ret (.formula entries)]) := by
      simp only [env, Environment.afterRuns, List.foldl_cons, List.foldl_nil, hdeclaring]
      rfl
    rw [henv, Environment.get?_define_self]
  have hruns : Runs 1 1 env (Program.ofTokens calling) (env.define "a" .undefined)
      (.ret (.formula entries)) := by
    rw [hcalling]
    refine .called ⟨[], [], .undefined, rfl, rfl, rfl⟩ rfl hbound (.own ?_)
    exact ⟨[.binding "a" (.formula [])], [], .undefined, rfl, rfl, rfl⟩
  obtain ⟨hread, hrun, hsource⟩ := well_formed_when_run
  obtain ⟨-, hstack⟩ := hread (Parser.ofTokens declaring .closed)
  obtain ⟨-, -, hnumber⟩ := hsource "function f() \x7b let a = ; return a = 1.5 + b; \x7d" .halt
    .closed .closed
  refine ⟨hret, hbinding, hnumber _ hret entries rfl "1.5" (by simp [entries]), _, hruns, ?_, ?_, rfl,
    (hstack _ hbinding [] rfl (env.define "a" .undefined)).2 rfl⟩
  · exact hrun [(⟨0, .closed⟩, declaring)] ⟨1, .closed⟩ calling _ _ hruns
  · exact (hstack _ hret entries rfl _).1

end Summand
