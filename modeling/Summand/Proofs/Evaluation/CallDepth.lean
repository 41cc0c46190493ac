import Summand.Proofs.Evaluation.Steps

/-!
# The limit on the depth of calls

The rules of evaluation without any limit are given as two relations, `Evaluates` for expressions and
`Executes` for blocks.  Their first argument is the depth of the derivation: the number of calls of
functions that it nests within each other.  Another pair of relations, `EvaluationReaches` and
`ExecutionReaches`, follows an evaluation up to a call of a function that stands inside of a given
number of other calls.

The main statement is `extend_eq_iff_executes`: with a limit, a run succeeds if and only if there is
a derivation within the limit, and then comes to what the derivation says.  So the limit decides
whether a run finishes and nothing else: a larger limit keeps every success as it is, and a fault is
always about a function that was called inside of as many calls as the limit allows, after remarks
with which the run goes on under a larger limit.
-/

namespace Summand

/-! ## Evaluation without a limit -/

mutual

/-- In the environment the expression comes to the value with the remarks, and calls of functions are
nested to the depth. -/
inductive Evaluates : Nat → Environment → Expr → Value → List Diagnostic → Prop
  | formula (env : Environment) (entries : List Entry) :
    Evaluates 0 env (.formula entries) (Formula.value env entries) (Formula.remarks env entries)
  | call {n : Nat} {env last : Environment} {callee name : String} {body : List Stmt} {v : Value}
    {remarks : List Diagnostic} (bound : env.get? callee = some (.function name body))
    (inner : Executes n env .undefined body last v remarks) :
    Evaluates (n + 1) env (.call callee) v remarks
  | notFunction {env : Environment} {callee : String} {v : Value}
    (bound : env.get? callee = some v) (notFunction : ∀ name body, v ≠ .function name body) :
    Evaluates 0 env (.call callee) .undefined
      [notCallable ("`" ++ callee ++ "` is " ++ v.text ++ ", not a function")]
  | unbound {env : Environment} {callee : String} (unbound : env.get? callee = none) :
    Evaluates 0 env (.call callee) .undefined [notCallable ("`" ++ callee ++ "` is not bound")]

/-- From the environment and the value so far the statements lead to the second environment and
value with the remarks, and calls of functions are nested to the depth. -/
inductive Executes :
    Nat → Environment → Value → List Stmt → Environment → Value → List Diagnostic → Prop
  | nil (env : Environment) (v : Value) : Executes 0 env v [] env v []
  | function {n : Nat} {env last : Environment} {v w : Value} {name : String}
    {inner body : List Stmt} {remarks : List Diagnostic}
    (rest : Executes n (env.define name (.function name inner)) v body last w remarks) :
    Executes n env v (.function name inner :: body) last w remarks
  | binding {m n : Nat} {env last : Environment} {v u w : Value} {name : String} {e : Expr}
    {body : List Stmt} {first second : List Diagnostic} (value : Evaluates m env e u first)
    (rest : Executes n (env.define name u) v body last w second) :
    Executes (max m n) env v (.binding name e :: body) last w (first ++ second)
  | ret {m n : Nat} {env last : Environment} {v u w : Value} {e : Expr} {body : List Stmt}
    {first second : List Diagnostic} (value : Evaluates m env e u first)
    (rest : Executes n env u body last w second) :
    Executes (max m n) env v (.ret e :: body) last w (first ++ second)
  | expression {m n : Nat} {env last : Environment} {v u w : Value} {e : Expr}
    {body : List Stmt} {first second : List Diagnostic} (value : Evaluates m env e u first)
    (rest : Executes n env u body last w second) :
    Executes (max m n) env v (.expression e :: body) last w (first ++ second)

end

mutual

/-- In the environment the expression leads to a call of the callee, which is bound to a function in
the second environment, inside of so many calls, after the remarks. -/
inductive EvaluationReaches :
    Nat → Environment → Expr → String → Environment → List Diagnostic → Prop
  | here {env : Environment} {callee name : String} {body : List Stmt}
    (bound : env.get? callee = some (.function name body)) :
    EvaluationReaches 0 env (.call callee) callee env []
  | inside {n : Nat} {env place last : Environment} {f callee name : String} {body : List Stmt}
    {remarks : List Diagnostic} (bound : env.get? f = some (.function name body))
    (inner : ExecutionReaches n env body last callee place remarks) :
    EvaluationReaches (n + 1) env (.call f) callee place remarks

/-- From the environment the statements lead to the second environment, in which one of them leads to
a call of the callee inside of so many calls; no call before it was nested deeper. -/
inductive ExecutionReaches :
    Nat → Environment → List Stmt → Environment → String → Environment → List Diagnostic → Prop
  | function {n : Nat} {env last place : Environment} {name callee : String}
    {inner body : List Stmt} {remarks : List Diagnostic}
    (rest : ExecutionReaches n (env.define name (.function name inner)) body last callee place
      remarks) :
    ExecutionReaches n env (.function name inner :: body) last callee place remarks
  | here {n : Nat} {env place : Environment} {callee : String} {s : Stmt} {e : Expr}
    {body : List Stmt} {remarks : List Diagnostic} (expr : s.expr? = some e)
    (value : EvaluationReaches n env e callee place remarks) :
    ExecutionReaches n env (s :: body) env callee place remarks
  | behind {m n : Nat} {env last place : Environment} {callee : String} {v u : Value} {s : Stmt}
    {e : Expr} {body : List Stmt} {first second : List Diagnostic} (expr : s.expr? = some e)
    (value : Evaluates m env e u first) (within : m ≤ n)
    (rest : ExecutionReaches n (s.settle env v u).1 body last callee place second) :
    ExecutionReaches n env (s :: body) last callee place (first ++ second)

end

/-- A block that starts with an expression of its own is executed by evaluating the expression and
then executing the rest. -/
lemma executes_cons_iff {s : Stmt} {e : Expr} (hs : s.expr? = some e) {N : Nat}
    {env last : Environment} {v w : Value} {body : List Stmt} {remarks : List Diagnostic} :
    Executes N env v (s :: body) last w remarks ↔
      ∃ m n u first second, N = max m n ∧ remarks = first ++ second ∧
        Evaluates m env e u first ∧
        Executes n (s.settle env v u).1 (s.settle env v u).2 body last w second := by
  constructor
  · intro h
    cases h with
    | function rest => simp [Stmt.expr?] at hs
    | binding value rest =>
      cases Option.some.inj hs
      exact ⟨_, _, _, _, _, rfl, rfl, value, rest⟩
    | ret value rest =>
      cases Option.some.inj hs
      exact ⟨_, _, _, _, _, rfl, rfl, value, rest⟩
    | expression value rest =>
      cases Option.some.inj hs
      exact ⟨_, _, _, _, _, rfl, rfl, value, rest⟩
  · rintro ⟨m, n, u, first, second, rfl, rfl, value, rest⟩
    cases s with
    | function name inner => simp [Stmt.expr?] at hs
    | binding name e' =>
      cases Option.some.inj hs
      exact .binding value rest
    | ret e' =>
      cases Option.some.inj hs
      exact .ret value rest
    | expression e' =>
      cases Option.some.inj hs
      exact .expression value rest

/-! ## What an expression can come to -/

section Call

variable {enter : Enter} {env : Environment} {callee : String}

/-- A name that is bound to a function is called by entering the body. -/
lemma call_of_function {name : String} {body : List Stmt}
    (hbound : env.get? callee = some (.function name body)) :
    call enter callee env = enter callee body env := by
  simp only [call, hbound]

/-- A name that is bound to something else is remarked on. -/
lemma call_of_notFunction {v : Value} (hbound : env.get? callee = some v)
    (hv : ∀ name body, v ≠ .function name body) :
    call enter callee env = ⟨.ok .undefined,
      [notCallable ("`" ++ callee ++ "` is " ++ v.text ++ ", not a function")]⟩ := by
  cases v with
  | function name body => exact absurd rfl (hv name body)
  | number x => simp only [call, hbound]
  | undefined => simp only [call, hbound]

/-- A name that is not bound is remarked on. -/
lemma call_of_unbound (hunbound : env.get? callee = none) :
    call enter callee env =
      ⟨.ok .undefined, [notCallable ("`" ++ callee ++ "` is not bound")]⟩ := by
  simp only [call, hunbound]

end Call

/-- An expression is the call of a function, or it comes to the same in whatever way functions are
entered, without any call of a function. -/
lemma evaluate_cases (env : Environment) (e : Expr) :
    (∃ callee name body, e = .call callee ∧ env.get? callee = some (.function name body) ∧
      ∀ enter, evaluate enter env e = enter callee body env) ∨
    ∃ v remarks, Evaluates 0 env e v remarks ∧
      ∀ enter, evaluate enter env e = ⟨.ok v, remarks⟩ := by
  cases e with
  | formula entries => exact Or.inr ⟨_, _, .formula env entries, fun enter => rfl⟩
  | call callee =>
    cases hbound : env.get? callee with
    | none => exact Or.inr ⟨_, _, .unbound hbound, fun enter => call_of_unbound hbound⟩
    | some v =>
      by_cases hv : ∃ name body, v = .function name body
      · obtain ⟨name, body, rfl⟩ := hv
        exact Or.inl ⟨callee, name, body, rfl, hbound, fun enter => call_of_function hbound⟩
      · have hv' : ∀ name body, v ≠ .function name body :=
          fun name body heq => hv ⟨name, body, heq⟩
        exact Or.inr ⟨_, _, .notFunction hbound hv', fun enter => call_of_notFunction hbound hv'⟩

/-! ## Success within the limit -/

/-- Entering a function succeeds just where there is a derivation of less than the depth. -/
def Enter.SucceedsBelow (enter : Enter) (depth : Nat) : Prop :=
  ∀ callee body env v remarks, enter callee body env = ⟨.ok v, remarks⟩ ↔
    ∃ n last, n < depth ∧ Executes n env .undefined body last v remarks

/-- If functions are entered below a depth, expressions have a value where there is a derivation up
to that depth. -/
lemma evaluate_eq_ok_iff {enter : Enter} {depth : Nat} (henter : enter.SucceedsBelow depth)
    (env : Environment) (e : Expr) (v : Value) (remarks : List Diagnostic) :
    evaluate enter env e = ⟨.ok v, remarks⟩ ↔ ∃ n ≤ depth, Evaluates n env e v remarks := by
  constructor
  · intro h
    rcases evaluate_cases env e with
      ⟨callee, name, body, rfl, hbound, heval⟩ | ⟨u, remarks', hderives, heval⟩
    · rw [heval] at h
      obtain ⟨n, last, hn, hbody⟩ := (henter callee body env v remarks).1 h
      exact ⟨n + 1, hn, .call hbound hbody⟩
    · rw [heval] at h
      cases h
      exact ⟨0, Nat.zero_le depth, hderives⟩
  · rintro ⟨n, hn, h⟩
    cases h with
    | formula entries => rfl
    | call bound inner =>
      rw [evaluate, call_of_function bound]
      exact (henter _ _ _ _ _).2 ⟨_, _, hn, inner⟩
    | notFunction bound notFunction => exact call_of_notFunction bound notFunction
    | unbound unbound => exact call_of_unbound unbound

/-- If functions are entered below a depth, a block runs to its end where there is a derivation up to
that depth. -/
lemma steps_eq_ok_iff {enter : Enter} {depth : Nat} (henter : enter.SucceedsBelow depth)
    (body : List Stmt) (env last : Environment) (v w : Value) (remarks : List Diagnostic) :
    (Run.ofValue env v).steps enter body = ⟨last, .ok w, remarks⟩ ↔
      ∃ n ≤ depth, Executes n env v body last w remarks := by
  induction body generalizing env v remarks with
  | nil =>
    simp only [Run.steps_nil, Run.ofValue, Run.mk.injEq, Except.ok.injEq]
    constructor
    · rintro ⟨rfl, rfl, rfl⟩
      exact ⟨0, Nat.zero_le depth, .nil env v⟩
    · rintro ⟨n, -, h⟩
      cases h
      exact ⟨rfl, rfl, rfl⟩
  | cons s body ih =>
    cases hs : s.expr? with
    | none =>
      obtain ⟨name, inner, rfl⟩ := Stmt.eq_function_of_expr? hs
      rw [Run.steps_function, ih]
      constructor
      · rintro ⟨n, hn, h⟩
        exact ⟨n, hn, .function h⟩
      · rintro ⟨n, hn, h⟩
        cases h with
        | function rest => exact ⟨n, hn, rest⟩
    | some e =>
      rw [Run.steps_cons_eq_iff hs]
      constructor
      · rintro (⟨fault, hfault, -⟩ | ⟨u, first, second, rfl, hvalue, hbody⟩)
        · simp at hfault
        · obtain ⟨m, hm, hvalue⟩ := (evaluate_eq_ok_iff henter env e u first).1 hvalue
          obtain ⟨n, hn, hbody⟩ := (ih _ _ _).1 hbody
          refine ⟨max m n, Nat.max_le.2 ⟨hm, hn⟩, (executes_cons_iff hs).2 ?_⟩
          exact ⟨m, n, u, first, second, rfl, rfl, hvalue, hbody⟩
      · -- A derivation for the block is as deep as the deeper one of its parts.
        rintro ⟨N, hN, h⟩
        obtain ⟨m, n, u, first, second, rfl, rfl, hvalue, hbody⟩ := (executes_cons_iff hs).1 h
        obtain ⟨hm, hn⟩ := Nat.max_le.1 hN
        have hfirst := (evaluate_eq_ok_iff henter env e u first).2 ⟨m, hm, hvalue⟩
        have hrest := (ih _ _ _).2 ⟨n, hn, hbody⟩
        exact Or.inr ⟨u, first, second, rfl, hfirst, hrest⟩

/-- With some depth of calls left, functions are entered below that depth. -/
lemma succeedsBelow_enterWithin (limit left : Nat) :
    (enterWithin limit left).SucceedsBelow left := by
  induction left with
  | zero => intro callee body env v remarks; simp [enterWithin]
  | succ left ih =>
    intro callee body env v remarks
    have hrun := fun last => steps_eq_ok_iff ih body env last .undefined v remarks
    constructor
    · intro h
      simp only [enterWithin, Run.outcome, Outcome.mk.injEq] at h
      have hend : (Run.ofValue env .undefined).steps (enterWithin limit left) body =
          ⟨(runBlock (enterWithin limit left) env body).environment, .ok v, remarks⟩ := by
        rw [← h.1, ← h.2]
        rfl
      obtain ⟨n, hn, hbody⟩ := (hrun _).1 hend
      exact ⟨n, _, Nat.lt_succ_of_le hn, hbody⟩
    · rintro ⟨n, last, hn, hbody⟩
      have hend := (hrun last).2 ⟨n, Nat.le_of_lt_succ hn, hbody⟩
      exact congrArg Run.outcome hend

/-! ## Failure at the limit -/

mutual

/-- What an evaluation reaches is bound to a function there. -/
lemma EvaluationReaches.bound {n : Nat} {env place : Environment} {e : Expr} {callee : String}
    {remarks : List Diagnostic} :
    EvaluationReaches n env e callee place remarks →
      ∃ name body, place.get? callee = some (.function name body)
  | .here bound => ⟨_, _, bound⟩
  | .inside _ inner => inner.bound

/-- What an execution reaches is bound to a function there. -/
lemma ExecutionReaches.bound {n : Nat} {env last place : Environment} {body : List Stmt}
    {callee : String} {remarks : List Diagnostic} :
    ExecutionReaches n env body last callee place remarks →
      ∃ name inner, place.get? callee = some (.function name inner)
  | .function rest => rest.bound
  | .here _ value => value.bound
  | .behind _ _ _ rest => rest.bound

end

/-- Entering a function fails only at the limit, where a call is reached inside of as many calls as
the depth. -/
def Enter.FailsAt (enter : Enter) (limit depth : Nat) : Prop :=
  ∀ f name body env fault remarks, env.get? f = some (.function name body) →
    enter f body env = ⟨.error fault, remarks⟩ →
    ∃ callee place, fault = .callDepthExceeded callee limit ∧
      EvaluationReaches depth env (.call f) callee place remarks

/-- If entering functions fails only at the limit, so does evaluating expressions. -/
lemma reaches_of_evaluate_eq_error {enter : Enter} {limit depth : Nat}
    (henter : enter.FailsAt limit depth) {env : Environment} {e : Expr} {fault : Fault}
    {remarks : List Diagnostic} (h : evaluate enter env e = ⟨.error fault, remarks⟩) :
    ∃ callee place, fault = .callDepthExceeded callee limit ∧
      EvaluationReaches depth env e callee place remarks := by
  rcases evaluate_cases env e with
    ⟨f, name, body, rfl, hbound, heval⟩ | ⟨v, remarks', -, heval⟩
  · rw [heval] at h
    exact henter f name body env fault remarks hbound h
  · rw [heval] at h
    simp at h

/-- If entering functions fails only at the limit, so does running statements. -/
lemma reaches_of_steps_eq_error {enter : Enter} {limit depth : Nat}
    (hsucceeds : enter.SucceedsBelow depth) (hfails : enter.FailsAt limit depth)
    {body : List Stmt} {env last : Environment} {v : Value} {fault : Fault}
    {remarks : List Diagnostic}
    (h : (Run.ofValue env v).steps enter body = ⟨last, .error fault, remarks⟩) :
    ∃ callee place, fault = .callDepthExceeded callee limit ∧
      ExecutionReaches depth env body last callee place remarks := by
  induction body generalizing env v remarks with
  | nil => simp [Run.ofValue] at h
  | cons s body ih =>
    cases hs : s.expr? with
    | none =>
      obtain ⟨name, inner, rfl⟩ := Stmt.eq_function_of_expr? hs
      rw [Run.steps_function] at h
      obtain ⟨callee, place, hfault, hreaches⟩ := ih h
      exact ⟨callee, place, hfault, .function hreaches⟩
    | some e =>
      rcases (Run.steps_cons_eq_iff hs).1 h with
        ⟨fault', hfault, rfl, hvalue⟩ | ⟨u, first, second, rfl, hvalue, hbody⟩
      · cases hfault
        obtain ⟨callee, place, hfault, hreaches⟩ := reaches_of_evaluate_eq_error hfails hvalue
        exact ⟨callee, place, hfault, .here hs hreaches⟩
      · obtain ⟨m, hm, hvalue⟩ := (evaluate_eq_ok_iff hsucceeds env e u first).1 hvalue
        obtain ⟨callee, place, hfault, hreaches⟩ := ih hbody
        exact ⟨callee, place, hfault, .behind hs hvalue hm hreaches⟩

/-- With some depth of calls left, entering a function fails only at the limit, and inside of as many
calls as are left. -/
lemma failsAt_enterWithin (limit left : Nat) : (enterWithin limit left).FailsAt limit left := by
  induction left with
  | zero =>
    intro f name body env fault remarks hbound h
    simp only [enterWithin, Outcome.mk.injEq, Except.error.injEq] at h
    obtain ⟨rfl, rfl⟩ := h
    exact ⟨f, env, rfl, .here hbound⟩
  | succ left ih =>
    intro f name body env fault remarks hbound h
    simp only [enterWithin, Run.outcome, Outcome.mk.injEq] at h
    have hrun : (Run.ofValue env .undefined).steps (enterWithin limit left) body =
        ⟨(runBlock (enterWithin limit left) env body).environment, .error fault, remarks⟩ := by
      rw [← h.1, ← h.2]
      rfl
    obtain ⟨callee, place, hfault, hreaches⟩ :=
      reaches_of_steps_eq_error (succeedsBelow_enterWithin limit left) ih hrun
    exact ⟨callee, place, hfault, .inside hbound hreaches⟩

/-! ## Two limits -/

/-- The first outcome is the second one, or a fault has cut it short. -/
def Outcome.CutOf (o o' : Outcome) : Prop :=
  o.remarks <+: o'.remarks ∧ ∀ v, o.result = .ok v → o' = o

/-- The first run is the second one, or a fault has cut it short. -/
def Run.CutOf (run run' : Run) : Prop :=
  run.remarks <+: run'.remarks ∧ ∀ v, run.result = .ok v → run' = run

/-- Cutting short is not affected by remarks in front. -/
lemma Run.CutOf.prepend {run run' : Run} (h : run.CutOf run') (remarks : List Diagnostic) :
    (run.prepend remarks).CutOf (run'.prepend remarks) := by
  refine ⟨(List.prefix_append_right_inj remarks).2 h.1, fun v hv => ?_⟩
  rw [h.2 v hv]

/-- The first way of entering functions cuts short what the second one comes to. -/
def Enter.CutOf (enter enter' : Enter) : Prop :=
  ∀ callee body env, (enter callee body env).CutOf (enter' callee body env)

/-- If entering functions is cut short, so is evaluating expressions. -/
lemma evaluate_cutOf {enter enter' : Enter} (henter : enter.CutOf enter') (env : Environment)
    (e : Expr) : (evaluate enter env e).CutOf (evaluate enter' env e) := by
  rcases evaluate_cases env e with ⟨callee, name, body, -, -, heval⟩ | ⟨u, remarks, -, heval⟩
  · rw [heval, heval]
    exact henter callee body env
  · rw [heval, heval]
    exact ⟨List.prefix_rfl, fun v hv => rfl⟩

/-- What is remarked on the expression of the first statement comes first. -/
lemma remarks_evaluate_prefix_steps {enter : Enter} {s : Stmt} {e : Expr} (hs : s.expr? = some e)
    (env : Environment) (v : Value) (body : List Stmt) :
    (evaluate enter env e).remarks <+: ((Run.ofValue env v).steps enter (s :: body)).remarks := by
  rw [Run.steps_of_expr? hs]
  cases (evaluate enter env e).result with
  | ok u => exact List.prefix_append _ _
  | error fault => exact List.prefix_rfl

/-- If entering functions is cut short, so is running statements. -/
lemma steps_cutOf {enter enter' : Enter} (henter : enter.CutOf enter') (body : List Stmt)
    (env : Environment) (v : Value) :
    ((Run.ofValue env v).steps enter body).CutOf ((Run.ofValue env v).steps enter' body) := by
  induction body generalizing env v with
  | nil => exact ⟨List.prefix_rfl, fun w hw => rfl⟩
  | cons s body ih =>
    cases hs : s.expr? with
    | none =>
      obtain ⟨name, inner, rfl⟩ := Stmt.eq_function_of_expr? hs
      rw [Run.steps_function, Run.steps_function]
      exact ih _ v
    | some e =>
      have hfirst := evaluate_cutOf henter env e
      cases hresult : (evaluate enter env e).result with
      | ok u =>
        rw [Run.steps_of_expr? hs, Run.steps_of_expr? hs, hfirst.2 u hresult, hresult]
        exact (ih _ _).prepend _
      | error fault =>
        -- The first run ends here; the second may go on with any remarks behind the same ones.
        have hshort : (Run.ofValue env v).steps enter (s :: body) =
            ⟨env, .error fault, (evaluate enter env e).remarks⟩ := by
          rw [Run.steps_of_expr? hs, hresult]
        rw [hshort]
        refine ⟨hfirst.1.trans (remarks_evaluate_prefix_steps hs env v body), fun w hw => ?_⟩
        simp at hw

/-- Entering functions with less depth left is cut short. -/
lemma enterWithin_cutOf (limit limit' : Nat) {left left' : Nat} (h : left ≤ left') :
    (enterWithin limit left).CutOf (enterWithin limit' left') := by
  -- The two limits only occur in faults, so nothing is asked of them.
  induction left generalizing left' with
  | zero =>
    intro callee body env
    exact ⟨List.nil_prefix, fun v hv => by simp [enterWithin] at hv⟩
  | succ left ih =>
    obtain ⟨left', rfl⟩ : ∃ k, left' = k + 1 := ⟨left' - 1, by omega⟩
    intro callee body env
    have hrun := steps_cutOf (ih (Nat.le_of_succ_le_succ h)) body env .undefined
    exact ⟨hrun.1, fun v hv => congrArg Run.outcome (hrun.2 v hv)⟩

/-! ## Interpreters with a limit -/

/-- What an interpreter returns is what the run of the statements comes to. -/
lemma extend_eq_iff {limit : Nat} {channel : Channel} {body : List Stmt}
    {env last : Environment} {result : Except Fault Value} {after : Interpreter} :
    Interpreter.extend ⟨limit, channel⟩ body env = (result, last, after) ↔
      ∃ remarks, (Run.ofValue env .undefined).steps (enterWithin limit limit) body =
        ⟨last, result, remarks⟩ ∧ after = ⟨limit, channel.send remarks⟩ := by
  constructor
  · intro h
    simp only [Interpreter.extend, Prod.mk.injEq] at h
    obtain ⟨rfl, rfl, rfl⟩ := h
    exact ⟨_, rfl, rfl⟩
  · rintro ⟨remarks, hrun, rfl⟩
    have hblock : runBlock (Interpreter.enter ⟨limit, channel⟩) env body =
        ⟨last, result, remarks⟩ := hrun
    simp only [Interpreter.extend, hblock, Interpreter.tell]

/-- More remarks sent are more remarks that wait. -/
lemma pending_send_prefix (channel : Channel) {first second : List Diagnostic}
    (h : first <+: second) : (channel.send first).pending <+: (channel.send second).pending := by
  cases channel with
  | closed => exact List.prefix_rfl
  | «open» log =>
    rw [Channel.pending_send_open, Channel.pending_send_open]
    exact (List.prefix_append_right_inj _).2 h

/-- An interpreter runs statements to their end if and only if there is a derivation without a limit
in which calls of functions are nested at most as deep as its limit, and then comes to what the
derivation says.  So with a larger limit a success stays as it is.  A fault is about a function that
is called inside of as many calls as the limit allows; what has been remarked until then is also
remarked, first of all, with the larger limit. -/
theorem extend_eq_iff_executes {limit limit' : Nat} (hle : limit ≤ limit') (channel : Channel)
    (body : List Stmt) (env : Environment) :
    (∀ v last after, Interpreter.extend ⟨limit, channel⟩ body env = (.ok v, last, after) ↔
      ∃ n remarks, n ≤ limit ∧ Executes n env .undefined body last v remarks ∧
        after = ⟨limit, channel.send remarks⟩) ∧
    (∀ v last after, Interpreter.extend ⟨limit, channel⟩ body env = (.ok v, last, after) →
      Interpreter.extend ⟨limit', channel⟩ body env = (.ok v, last, after.setLimit limit')) ∧
    (∀ fault last after, Interpreter.extend ⟨limit, channel⟩ body env = (.error fault, last, after) →
      ∃ callee place remarks, fault = .callDepthExceeded callee limit ∧
        ExecutionReaches limit env body last callee place remarks ∧
        (∃ name inner, place.get? callee = some (.function name inner)) ∧
        after = ⟨limit, channel.send remarks⟩) ∧
    (Interpreter.extend ⟨limit, channel⟩ body env).2.2.channel.pending <+:
      (Interpreter.extend ⟨limit', channel⟩ body env).2.2.channel.pending := by
  have hsucceeds := succeedsBelow_enterWithin limit limit
  have hcut := steps_cutOf (enterWithin_cutOf limit limit' hle) body env .undefined
  refine ⟨fun v last after => ⟨fun h => ?_, ?_⟩, fun v last after h => ?_,
    fun fault last after h => ?_, pending_send_prefix channel hcut.1⟩
  · obtain ⟨remarks, hrun, hafter⟩ := extend_eq_iff.1 h
    obtain ⟨n, hn, hbody⟩ := (steps_eq_ok_iff hsucceeds body env last .undefined v remarks).1 hrun
    exact ⟨n, remarks, hn, hbody, hafter⟩
  · rintro ⟨n, remarks, hn, hbody, hafter⟩
    have hrun := (steps_eq_ok_iff hsucceeds body env last .undefined v remarks).2 ⟨n, hn, hbody⟩
    exact extend_eq_iff.2 ⟨remarks, hrun, hafter⟩
  · obtain ⟨remarks, hrun, rfl⟩ := extend_eq_iff.1 h
    rw [hrun] at hcut
    exact extend_eq_iff.2 ⟨remarks, hcut.2 v rfl, rfl⟩
  · obtain ⟨remarks, hrun, hafter⟩ := extend_eq_iff.1 h
    obtain ⟨callee, place, hfault, hreaches⟩ :=
      reaches_of_steps_eq_error hsucceeds (failsAt_enterWithin limit limit) hrun
    exact ⟨callee, place, remarks, hfault, hreaches, hreaches.bound, hafter⟩

/-- Where no call is allowed for, the call of an unbound name is remarked on and then the call of a
function is the fault; with one call allowed for, the remark inside of the function follows. -/
theorem extend_eq_iff_executes_zero_one :
    let body : List Stmt := [.function "f" [.expression (.call "h")], .expression (.call "g"),
      .expression (.call "f")]
    let last := Environment.empty.define "f" (.function "f" [.expression (.call "h")])
    let first := notCallable "`g` is not bound"
    let second := notCallable "`h` is not bound"
    0 ≤ 1 ∧
    Interpreter.extend ⟨0, .fresh⟩ body .empty =
      (.error (.callDepthExceeded "f" 0), last, ⟨0, Channel.fresh.send [first]⟩) ∧
    (∃ place, ExecutionReaches 0 .empty body last "f" place [first]) ∧
    Interpreter.extend ⟨1, .fresh⟩ body .empty =
      (.ok .undefined, last, ⟨1, Channel.fresh.send [first, second]⟩) ∧
    (∃ n ≤ 1, Executes n .empty .undefined body last .undefined [first, second]) := by
  intro body last first second
  have hzero : Interpreter.extend ⟨0, .fresh⟩ body .empty =
      (.error (.callDepthExceeded "f" 0), last, ⟨0, Channel.fresh.send [first]⟩) := by
    simp [Interpreter.extend, Interpreter.enter, Interpreter.tell, runBlock, Run.steps, Run.step,
      Run.yield, evaluate, call, Environment.get?_define, enterWithin, body, last, first]
  have hone : Interpreter.extend ⟨1, .fresh⟩ body .empty =
      (.ok .undefined, last, ⟨1, Channel.fresh.send [first, second]⟩) := by
    simp [Interpreter.extend, Interpreter.enter, Interpreter.tell, runBlock, Run.steps, Run.step,
      Run.yield, Run.outcome, evaluate, call, Environment.get?_define, enterWithin, body, last,
      first, second]
  have hsent : ∀ limit remarks remarks', (⟨limit, Channel.fresh.send remarks⟩ : Interpreter) =
      ⟨limit, Channel.fresh.send remarks'⟩ → remarks = remarks' := fun limit remarks remarks' h => by
    simpa using congrArg (fun i => i.channel.pending) h
  obtain ⟨callee, place, remarks, hfault, hreaches, -, hafter⟩ :=
    (extend_eq_iff_executes (Nat.zero_le 1) .fresh body .empty).2.2.1 _ _ _ hzero
  obtain ⟨n, remarks', hn, hbody, hafter'⟩ :=
    ((extend_eq_iff_executes (Nat.le_refl 1) .fresh body .empty).1 _ _ _).1 hone
  cases hfault
  cases hsent 0 _ _ hafter
  cases hsent 1 _ _ hafter'
  exact ⟨Nat.zero_le 1, hzero, ⟨place, hreaches⟩, hone, ⟨n, hn, hbody⟩⟩

end Summand
