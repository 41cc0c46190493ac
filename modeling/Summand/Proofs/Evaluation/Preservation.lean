import Summand.Proofs.Evaluation.Steps

/-!
# What evaluation keeps up

A property of everything that is evaluated is shown in one and the same way: if it holds of what the
bodies of functions come to, then it holds of calls, of expressions and of statements, hence of
blocks, and by induction on the depth of calls that is left it holds of the bodies that are entered
within the limit.  This way is gone here once and for all.

An `Invariant` says which statements may be run and in which environments, and what values, faults
and remarks may come of it.  A `Relation` under it says which environments may take the place of each
other: the same statements come to the same in both.  The laws of both are about single bindings,
formulas and calls only, and then they hold of every two runs within a limit (`holds_runBlock`).  Every
environment may take its own place, so a single run is a special case (`kept_runBlock`).
-/

namespace Summand

/-- Something that evaluation keeps up. -/
structure Invariant where
  /-- These statements may be run one after the other. -/
  body : List Stmt → Prop
  /-- This expression may be evaluated. -/
  expr : Expr → Prop
  /-- This is an environment to run them in. -/
  environment : Environment → Prop
  value : Value → Prop
  fault : Fault → Prop
  remark : Diagnostic → Prop
  body_tail : ∀ {s : Stmt} {rest : List Stmt}, body (s :: rest) → body rest
  body_expr : ∀ {s : Stmt} {rest : List Stmt} {e : Expr}, body (s :: rest) → s.expr? = some e →
    expr e
  undefined : value .undefined
  /-- A value may be bound to any name. -/
  bound : ∀ {env : Environment} {v : Value}, environment env → value v → ∀ name,
    environment (env.define name v)
  /-- A function that is declared may be bound to its own. -/
  declared : ∀ {env : Environment} {name : String} {inner rest : List Stmt}, environment env →
    body (.function name inner :: rest) → environment (env.define name (.function name inner))
  formula : ∀ {env : Environment} {entries : List Entry}, environment env →
    expr (.formula entries) → value (Formula.value env entries) ∧
      ∀ d ∈ Formula.remarks env entries, remark d
  /-- The body of a function that is called may be run. -/
  entered : ∀ {env : Environment} {callee name : String} {inner : List Stmt}, environment env →
    expr (.call callee) → env.get? callee = some (.function name inner) → body inner
  unbound : ∀ {callee : String}, expr (.call callee) →
    remark (notCallable ("`" ++ callee ++ "` is not bound"))
  notFunction : ∀ {callee : String} {v : Value}, expr (.call callee) →
    (∀ name inner, v ≠ .function name inner) →
    remark (notCallable ("`" ++ callee ++ "` is " ++ v.text ++ ", not a function"))
  tooDeep : ∀ {callee : String}, expr (.call callee) → ∀ limit,
    fault (.callDepthExceeded callee limit)

namespace Invariant

variable (inv : Invariant)

/-- Environments that may take the place of each other. -/
structure Relation where
  related : Environment → Environment → Prop
  define : ∀ {env env' : Environment}, related env env' → ∀ name v,
    related (env.define name v) (env'.define name v)
  /-- A formula comes to the same in both. -/
  formula : ∀ {env env' : Environment} {entries : List Entry}, related env env' →
    inv.expr (.formula entries) → Formula.value env entries = Formula.value env' entries ∧
      Formula.remarks env entries = Formula.remarks env' entries
  /-- What is called is bound to the same in both. -/
  callee : ∀ {env env' : Environment} {callee : String}, related env env' →
    inv.expr (.call callee) → env.get? callee = env'.get? callee

/-- Every environment may take its own place. -/
def Relation.same : inv.Relation where
  related := Eq
  define := by
    rintro env _ rfl name v
    rfl
  formula := by
    rintro env _ entries rfl _
    exact ⟨rfl, rfl⟩
  callee := by
    rintro env _ callee rfl _
    rfl

/-- The value or the fault is allowed for, and so are the remarks. -/
structure Allows (o : Outcome) : Prop where
  value : ∀ v, o.result = .ok v → inv.value v
  fault : ∀ fault, o.result = .error fault → inv.fault fault
  remarks : ∀ d ∈ o.remarks, inv.remark d

variable {inv} (r : inv.Relation)

/-- The bodies of functions come to what is allowed for, and to the same in related environments. -/
def Keeps (enter : Enter) : Prop :=
  ∀ callee body env env', inv.expr (.call callee) → inv.body body → inv.environment env →
    r.related env env' →
    enter callee body env = enter callee body env' ∧ inv.Allows (enter callee body env)

/-- The first run has come to what is allowed for and can go on, and the second one has come to the
same. -/
structure Holds (run run' : Run) : Prop where
  environment : inv.environment run.environment
  related : r.related run.environment run'.environment
  same : run.outcome = run'.outcome
  allows : inv.Allows run.outcome

variable {r} {enter : Enter} {env env' : Environment}

lemma allows_ok {v : Value} {remarks : List Diagnostic} (hv : inv.value v)
    (hremarks : ∀ d ∈ remarks, inv.remark d) : inv.Allows ⟨.ok v, remarks⟩ := by
  refine ⟨?_, ?_, hremarks⟩
  · rintro u ⟨⟩
    exact hv
  · rintro fault ⟨⟩

lemma allows_error {fault : Fault} {remarks : List Diagnostic} (hfault : inv.fault fault)
    (hremarks : ∀ d ∈ remarks, inv.remark d) : inv.Allows ⟨.error fault, remarks⟩ := by
  refine ⟨?_, ?_, hremarks⟩
  · rintro v ⟨⟩
  · rintro fault' ⟨⟩
    exact hfault

/-! ## Expressions -/

/-- A call enters a body, or is remarked on. -/
lemma Keeps.call (henter : Keeps r enter) (henv : inv.environment env)
    (hrelated : r.related env env') {callee : String} (hcallee : inv.expr (.call callee)) :
    Summand.call enter callee env = Summand.call enter callee env' ∧
      inv.Allows (Summand.call enter callee env) := by
  unfold Summand.call
  rw [← r.callee hrelated hcallee]
  split
  · rename_i name inner hbound
    exact henter callee inner env env' hcallee (inv.entered henv hcallee hbound) henv hrelated
  · rename_i v hfunction hbound
    exact ⟨rfl, allows_ok inv.undefined
      (List.forall_mem_singleton.2 (inv.notFunction hcallee hfunction))⟩
  · exact ⟨rfl, allows_ok inv.undefined (List.forall_mem_singleton.2 (inv.unbound hcallee))⟩

/-- An expression is a formula or a call. -/
lemma Keeps.evaluate (henter : Keeps r enter) (henv : inv.environment env)
    (hrelated : r.related env env') {e : Expr} (he : inv.expr e) :
    Summand.evaluate enter env e = Summand.evaluate enter env' e ∧
      inv.Allows (Summand.evaluate enter env e) := by
  cases e with
  | formula entries =>
    obtain ⟨hvalue, hremarks⟩ := inv.formula henv he
    obtain ⟨hvalue', hremarks'⟩ := r.formula hrelated he
    refine ⟨?_, allows_ok hvalue hremarks⟩
    rw [Summand.evaluate, Summand.evaluate, hvalue', hremarks']
  | call callee => exact henter.call henv hrelated he

/-! ## Statements -/

section Statements

variable {run run' : Run}

/-- The same value can be bound to a name in both runs. -/
lemma Holds.bind (h : Holds r run run') (name : String) {o : Outcome} (ho : inv.Allows o) :
    Holds r (run.bind name o) (run'.bind name o) := by
  obtain ⟨env, result, remarks⟩ := run
  obtain ⟨env', result', remarks'⟩ := run'
  obtain ⟨rfl, rfl⟩ := Outcome.mk.inj h.same
  have hremarks : ∀ d ∈ remarks ++ o.remarks, inv.remark d :=
    List.forall_mem_append.2 ⟨h.allows.remarks, ho.remarks⟩
  unfold Run.bind
  cases hresult : o.result with
  | ok v =>
    exact ⟨inv.bound h.environment (ho.value v hresult) name, r.define h.related name v,
      rfl, h.allows.value, h.allows.fault, hremarks⟩
  | error fault =>
    exact ⟨h.environment, h.related, rfl, allows_error (ho.fault fault hresult) hremarks⟩

/-- The same value can be taken for that of the block in both runs. -/
lemma Holds.yield (h : Holds r run run') {o : Outcome} (ho : inv.Allows o) :
    Holds r (run.yield o) (run'.yield o) := by
  have hremarks : run.remarks = run'.remarks := congrArg Outcome.remarks h.same
  refine ⟨h.environment, h.related, ?_, ho.value, ho.fault, ?_⟩
  · simp only [Run.outcome, Run.yield, hremarks]
  · exact List.forall_mem_append.2 ⟨h.allows.remarks, ho.remarks⟩

/-- One statement keeps the invariant up. -/
lemma Holds.step (henter : Keeps r enter) (h : Holds r run run') {s : Stmt} {rest : List Stmt}
    (hbody : inv.body (s :: rest)) : Holds r (run.step enter s) (run'.step enter s) := by
  have hvalue {e : Expr} (he : s.expr? = some e) :=
    henter.evaluate h.environment h.related (inv.body_expr hbody he)
  obtain ⟨env, result, remarks⟩ := run
  obtain ⟨env', result', remarks'⟩ := run'
  obtain ⟨rfl, rfl⟩ := Outcome.mk.inj h.same
  cases result with
  | error fault => exact h
  | ok v =>
    cases s with
    | function name inner =>
      exact ⟨inv.declared h.environment hbody, r.define h.related name _, rfl, h.allows⟩
    | binding name e =>
      obtain ⟨hsame, hallows⟩ := hvalue rfl
      simp only [Run.step, ← hsame]
      exact h.bind name hallows
    | ret e | expression e =>
      obtain ⟨hsame, hallows⟩ := hvalue rfl
      simp only [Run.step, ← hsame]
      exact h.yield hallows

/-- So do all statements of a block. -/
lemma Holds.steps (henter : Keeps r enter) (h : Holds r run run') {body : List Stmt}
    (hbody : inv.body body) : Holds r (run.steps enter body) (run'.steps enter body) := by
  induction body generalizing run run' with
  | nil => exact h
  | cons s body ih => exact ih (h.step henter hbody) (inv.body_tail hbody)

end Statements

/-! ## Blocks -/

/-- A block starts without a value and without remarks. -/
lemma Keeps.runBlock (henter : Keeps r enter) (henv : inv.environment env)
    (hrelated : r.related env env') {body : List Stmt} (hbody : inv.body body) :
    Holds r (Summand.runBlock enter env body) (Summand.runBlock enter env' body) := by
  have hstart : Holds r { environment := env } { environment := env' } :=
    ⟨henv, hrelated, rfl, allows_ok inv.undefined (List.forall_mem_nil _)⟩
  exact hstart.steps henter hbody

/-- Bodies that are entered within a limit are run as blocks, or the calls are too deep. -/
lemma keeps_enterWithin (limit left : Nat) : Keeps r (enterWithin limit left) := by
  induction left with
  | zero =>
    intro callee body env env' hcallee hbody henv hrelated
    exact ⟨rfl, allows_error (inv.tooDeep hcallee limit) (List.forall_mem_nil _)⟩
  | succ left ih =>
    intro callee body env env' hcallee hbody henv hrelated
    have hrun := Keeps.runBlock ih henv hrelated hbody
    exact ⟨hrun.same, hrun.allows⟩

/-- Every run within a limit keeps the invariant up, and comes to the same in related environments. -/
lemma holds_runBlock (r : inv.Relation) (limit left : Nat) (henv : inv.environment env)
    (hrelated : r.related env env') {body : List Stmt} (hbody : inv.body body) :
    Holds r (runBlock (enterWithin limit left) env body)
      (runBlock (enterWithin limit left) env' body) :=
  (keeps_enterWithin limit left).runBlock henv hrelated hbody

/-- Every run within a limit keeps the invariant up. -/
lemma kept_runBlock (inv : Invariant) (limit left : Nat) (henv : inv.environment env)
    {body : List Stmt} (hbody : inv.body body) :
    inv.environment (runBlock (enterWithin limit left) env body).environment ∧
      inv.Allows (runBlock (enterWithin limit left) env body).outcome := by
  have hrun := holds_runBlock (.same inv) limit left henv rfl hbody
  exact ⟨hrun.environment, hrun.allows⟩

end Invariant

end Summand
