import Mathlib.Data.List.Induction
import Mathlib.Tactic.Common
import Summand.Evaluation.Interpreter

/-!
# Runs statement by statement

Laws of `Run.steps` for any way of entering functions.  A run that a fault has ended stays as it is
(`steps_of_error`).  What a run has remarked so far only stands in front of what it will remark
(`steps_prepend`), so a run can be started afresh at every statement: the first statement of a block
decides the environment and the value with which the others are run (`steps_function`,
`steps_of_expr?`).  A fault comes from one statement, and leaves the bindings that were made in front
of it (`exists_of_runBlock_error`).
-/

namespace Summand

/-- The expression that a statement evaluates. -/
def Stmt.expr? : Stmt → Option Expr
  | .function _ _ => none
  | .binding _ e => some e
  | .ret e => some e
  | .expression e => some e

/-- The bindings and the value of a block behind a statement, from those in front of it and the value
of its expression. -/
def Stmt.settle : Stmt → Environment → Value → Value → Environment × Value
  | .function _ _, env, v, _ => (env, v)
  | .binding name _, env, v, u => (env.define name u, v)
  | .ret _, env, _, u => (env, u)
  | .expression _, env, _, u => (env, u)

/-- The statement gives its block a value. -/
def Stmt.yields : Stmt → Bool
  | .function _ _ => false
  | .binding _ _ => false
  | .ret _ => true
  | .expression _ => true

/-- A statement that evaluates nothing declares a function. -/
lemma Stmt.eq_function_of_expr? {s : Stmt} (h : s.expr? = none) :
    ∃ name inner, s = .function name inner := by
  cases s with
  | function name inner => exact ⟨name, inner, rfl⟩
  | binding name e => simp [expr?] at h
  | ret e => simp [expr?] at h
  | expression e => simp [expr?] at h

namespace Run

variable {enter : Enter}

/-- A run with a value so far and nothing remarked. -/
def ofValue (env : Environment) (v : Value) : Run :=
  { environment := env, result := .ok v }

/-- The run with remarks in front of its own. -/
def prepend (remarks : List Diagnostic) (run : Run) : Run :=
  { run with remarks := remarks ++ run.remarks }

/-- One statement is run the same way whatever was remarked before. -/
lemma step_prepend (enter : Enter) (remarks : List Diagnostic) (run : Run) (s : Stmt) :
    (run.prepend remarks).step enter s = (run.step enter s).prepend remarks := by
  obtain ⟨env, result, own⟩ := run
  cases result with
  | error fault => rfl
  | ok v =>
    cases s with
    | function name body => rfl
    | binding name e =>
      simp only [step, prepend, bind]
      cases (evaluate enter env e).result with
      | ok w => simp [List.append_assoc]
      | error fault => simp [List.append_assoc]
    | ret e => simp [step, prepend, yield, List.append_assoc]
    | expression e => simp [step, prepend, yield, List.append_assoc]

/-- Statements are run the same way whatever was remarked before. -/
lemma steps_prepend (enter : Enter) (remarks : List Diagnostic) (run : Run) (body : List Stmt) :
    (run.prepend remarks).steps enter body = (run.steps enter body).prepend remarks := by
  induction body generalizing run with
  | nil => rfl
  | cons s body ih =>
    have hstep := step_prepend enter remarks run s
    simp only [steps, List.foldl_cons] at ih ⊢
    rw [hstep, ih]

/-- A run that a fault has ended stays as it is. -/
lemma steps_of_error {run : Run} {fault : Fault} (h : run.result = .error fault)
    (body : List Stmt) : run.steps enter body = run := by
  induction body with
  | nil => rfl
  | cons s body ih =>
    have hstep : run.step enter s = run := by simp [step, h]
    simp only [steps, List.foldl_cons] at ih ⊢
    rw [hstep, ih]

/-- Nothing is left to run. -/
@[simp] lemma steps_nil (run : Run) : run.steps enter [] = run := rfl

/-- The first statement is run, and then the others. -/
lemma steps_cons (run : Run) (s : Stmt) (body : List Stmt) :
    run.steps enter (s :: body) = (run.step enter s).steps enter body := rfl

/-- Behind a function declaration the function is bound. -/
lemma steps_function (env : Environment) (v : Value) (name : String) (inner body : List Stmt) :
    (ofValue env v).steps enter (.function name inner :: body) =
      (ofValue (env.define name (.function name inner)) v).steps enter body := rfl

/-- Behind any other statement the value of its expression is taken into account, unless a fault has
ended the run. -/
lemma steps_of_expr? {s : Stmt} {e : Expr} (hs : s.expr? = some e) (env : Environment) (v : Value)
    (body : List Stmt) :
    (ofValue env v).steps enter (s :: body) =
      match (evaluate enter env e).result with
      | .ok u =>
        ((ofValue (s.settle env v u).1 (s.settle env v u).2).steps enter body).prepend
          (evaluate enter env e).remarks
      | .error fault => ⟨env, .error fault, (evaluate enter env e).remarks⟩ := by
  rw [steps_cons]
  cases hresult : (evaluate enter env e).result with
  | ok u =>
    have hstep : (ofValue env v).step enter s =
        (ofValue (s.settle env v u).1 (s.settle env v u).2).prepend
          (evaluate enter env e).remarks := by
      cases s <;> simp only [Stmt.expr?, Option.some.injEq, reduceCtorEq] at hs <;> subst hs <;>
        simp [step, bind, yield, hresult, ofValue, prepend, Stmt.settle]
    rw [hstep, steps_prepend]
  | error fault =>
    have hstep : (ofValue env v).step enter s =
        ⟨env, .error fault, (evaluate enter env e).remarks⟩ := by
      cases s <;> simp only [Stmt.expr?, Option.some.injEq, reduceCtorEq] at hs <;> subst hs <;>
        simp [step, bind, yield, hresult, ofValue]
    rw [hstep]
    exact steps_of_error rfl body

/-- What a run that starts with the evaluation of an expression can come to: a fault in the
expression ends it, or the other statements are run behind the value of the expression. -/
lemma steps_cons_eq_iff {s : Stmt} {e : Expr} (hs : s.expr? = some e) {env last : Environment}
    {v : Value} {body : List Stmt} {result : Except Fault Value} {remarks : List Diagnostic} :
    (ofValue env v).steps enter (s :: body) = ⟨last, result, remarks⟩ ↔
      (∃ fault, result = .error fault ∧ last = env ∧
        evaluate enter env e = ⟨.error fault, remarks⟩) ∨
      ∃ u first second, remarks = first ++ second ∧ evaluate enter env e = ⟨.ok u, first⟩ ∧
        (ofValue (s.settle env v u).1 (s.settle env v u).2).steps enter body =
          ⟨last, result, second⟩ := by
  rw [steps_of_expr? hs]
  cases evaluate enter env e with
  | mk value first =>
    cases value with
    | error fault =>
      constructor
      · intro h
        simp only [Run.mk.injEq] at h
        obtain ⟨rfl, rfl, rfl⟩ := h
        exact Or.inl ⟨fault, rfl, rfl, rfl⟩
      · rintro (⟨fault', rfl, rfl, h⟩ | ⟨u, first', second, -, h, -⟩)
        · simp only [Outcome.mk.injEq, Except.error.injEq] at h
          rw [h.1, h.2]
        · simp at h
    | ok u =>
      constructor
      · intro h
        simp only [prepend, Run.mk.injEq] at h
        obtain ⟨rfl, rfl, rfl⟩ := h
        exact Or.inr ⟨u, first, _, rfl, rfl, rfl⟩
      · rintro (⟨fault', -, -, h⟩ | ⟨u', first', second, rfl, h, hbody⟩)
        · simp at h
        · simp only [Outcome.mk.injEq, Except.ok.injEq] at h
          obtain ⟨rfl, rfl⟩ := h
          simp only [hbody, prepend]

/-- A statement that gives the block a value makes the value before it irrelevant. -/
lemma steps_of_yields {s : Stmt} (hs : s.yields = true) (env : Environment) (v v' : Value)
    (body : List Stmt) :
    (ofValue env v).steps enter (s :: body) = (ofValue env v').steps enter (s :: body) := by
  cases s with
  | function name inner => simp [Stmt.yields] at hs
  | binding name e => simp [Stmt.yields] at hs
  | ret e => rfl
  | expression e => rfl

/-- The value with which statements are started is their value if none of them gives another; nothing
else depends on it. -/
lemma steps_ofValue (env : Environment) (v : Value) (body : List Stmt) :
    (ofValue env v).steps enter body =
      { (ofValue env .undefined).steps enter body with
        result := ((ofValue env .undefined).steps enter body).result.map
          fun w => if body.any Stmt.yields then w else v } := by
  induction body generalizing env with
  | nil => rfl
  | cons s body ih =>
    by_cases hs : s.yields = true
    · rw [steps_of_yields hs env v .undefined body]
      simp only [List.any_cons, hs, Bool.true_or, if_true]
      generalize (ofValue env .undefined).steps enter (s :: body) = run
      obtain ⟨last, result, remarks⟩ := run
      cases result with
      | ok w => rfl
      | error fault => rfl
    · cases s with
      | function name inner =>
        rw [steps_function, steps_function, ih]
        simp [Stmt.yields]
      | binding name e =>
        have hexpr : (Stmt.binding name e).expr? = some e := rfl
        rw [steps_of_expr? hexpr, steps_of_expr? hexpr]
        cases (evaluate enter env e).result with
        | error fault => rfl
        | ok u =>
          simp only [Stmt.settle]
          rw [ih]
          simp [Stmt.yields, prepend]
      | ret e => simp [Stmt.yields] at hs
      | expression e => simp [Stmt.yields] at hs

/-- A run that a statement leaves with a fault keeps its bindings, and either had the fault before or
gets it from the expression of the statement. -/
lemma cases_of_step_error {run : Run} {s : Stmt} {fault : Fault}
    (h : (run.step enter s).result = .error fault) :
    (run.step enter s).environment = run.environment ∧
      (run.result = .error fault ∨ ∃ v e, run.result = .ok v ∧ s.expr? = some e ∧
        (evaluate enter run.environment e).result = .error fault) := by
  obtain ⟨env, result, remarks⟩ := run
  cases result with
  | error fault' => exact ⟨rfl, Or.inl h⟩
  | ok v =>
    cases s with
    | function name inner => simp [step] at h
    | binding name e =>
      cases hresult : (evaluate enter env e).result with
      | ok u => simp [step, bind, hresult] at h
      | error fault' =>
        simp only [step, bind, hresult, Except.error.injEq] at h
        subst h
        exact ⟨by simp [step, bind, hresult], Or.inr ⟨v, e, rfl, rfl, hresult⟩⟩
    | ret e => exact ⟨rfl, Or.inr ⟨v, e, rfl, rfl, h⟩⟩
    | expression e => exact ⟨rfl, Or.inr ⟨v, e, rfl, rfl, h⟩⟩

end Run

/-- A fault that ends a block comes from the expression of one of its statements.  The statements in
front of it have a value, and the block leaves the bindings that they have made. -/
lemma exists_of_runBlock_error {enter : Enter} {env : Environment} {body : List Stmt} {fault : Fault}
    (h : (runBlock enter env body).result = .error fault) :
    ∃ finished s unfinished e v, body = finished ++ s :: unfinished ∧ s.expr? = some e ∧
      (runBlock enter env finished).result = .ok v ∧
      (runBlock enter env finished).environment = (runBlock enter env body).environment ∧
      (evaluate enter (runBlock enter env body).environment e).result = .error fault := by
  induction body using List.reverseRecOn with
  | nil => simp [runBlock] at h
  | append_singleton body s ih =>
    have hstep : runBlock enter env (body ++ [s]) = (runBlock enter env body).step enter s :=
      Run.steps_append enter _ body [s]
    rw [hstep] at h ⊢
    obtain ⟨henv, hbefore | ⟨v, e, hv, he, hfault⟩⟩ := Run.cases_of_step_error h
    · obtain ⟨finished, s', unfinished, e, v, hbody, hrest⟩ := ih hbefore
      rw [henv]
      exact ⟨finished, s', unfinished ++ [s], e, v, by simp [hbody], hrest⟩
    · rw [henv]
      exact ⟨body, s, [], e, v, rfl, he, hv, rfl, hfault⟩

end Summand
