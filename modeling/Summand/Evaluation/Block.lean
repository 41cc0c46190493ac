import Summand.Evaluation.Formula

/-!
# Running statements

A block runs its statements in order and has the value of the last of them that is an expression or
is marked as a result; being marked does not end the block.  A called function runs in a copy of the
environment of its caller, so that it sees the bindings made so far and none of its own outlive it.

The rules are stated for any way of entering a function body (`Enter`).  The one in use,
`enterWithin`, allows for a limited depth of calls within calls; to go deeper is a fault, which ends
everything that is running and keeps the bindings made before it.
-/

namespace Summand

/-- What can end a run. -/
inductive Fault where
  /-- A function was called inside of as many calls as are allowed. -/
  | callDepthExceeded (callee : String) (limit : Nat)
deriving DecidableEq

/-- The wording of a fault. -/
def Fault.message : Fault → String
  | .callDepthExceeded callee limit =>
    "Call depth limit of " ++ toString limit ++ " exceeded while calling `" ++ callee ++ "`"

/-- What evaluating an expression comes to. -/
structure Outcome where
  result : Except Fault Value
  remarks : List Diagnostic := []

/-- A way of entering a function body: from the name it is called by, the body and the environment
of the caller to what the call comes to. -/
abbrev Enter := String → List Stmt → Environment → Outcome

/-- The remark on a call of something that is no function. -/
def notCallable (message : String) : Diagnostic :=
  .whileRunning .notCallable message

/-- Calls what a name is bound to. Only functions can be entered; all else comes to undefined. -/
def call (enter : Enter) (callee : String) (env : Environment) : Outcome :=
  match env.get? callee with
  | some (.function _ body) => enter callee body env
  | some v =>
    ⟨.ok .undefined, [notCallable ("`" ++ callee ++ "` is " ++ v.text ++ ", not a function")]⟩
  | none => ⟨.ok .undefined, [notCallable ("`" ++ callee ++ "` is not bound")]⟩

/-- Evaluates an expression. -/
def evaluate (enter : Enter) (env : Environment) : Expr → Outcome
  | .formula entries => ⟨.ok (Formula.value env entries), Formula.remarks env entries⟩
  | .call callee => call enter callee env

/-- Where the running of a block stands. -/
structure Run where
  environment : Environment
  /-- The value of the block so far, or the fault that has ended it. -/
  result : Except Fault Value := .ok .undefined
  remarks : List Diagnostic := []

namespace Run

/-- What the run comes to, apart from its bindings. -/
def outcome (run : Run) : Outcome :=
  ⟨run.result, run.remarks⟩

/-- Takes the outcome of an expression into account, and binds its value to a name. -/
def bind (run : Run) (name : String) (o : Outcome) : Run :=
  let remarks := run.remarks ++ o.remarks
  match o.result with
  | .ok v => { run with environment := run.environment.define name v, remarks }
  | .error fault => { run with result := .error fault, remarks }

/-- Takes the outcome of an expression as the value of the block. -/
def yield (run : Run) (o : Outcome) : Run :=
  { run with result := o.result, remarks := run.remarks ++ o.remarks }

/-- Runs one statement, unless a fault has ended the run. -/
def step (enter : Enter) (run : Run) (s : Stmt) : Run :=
  match run.result with
  | .error _ => run
  | .ok _ =>
    match s with
    | .function name body =>
      { run with environment := run.environment.define name (.function name body) }
    | .binding name e => run.bind name (evaluate enter run.environment e)
    | .ret e => run.yield (evaluate enter run.environment e)
    | .expression e => run.yield (evaluate enter run.environment e)

/-- Runs statements from where the run stands. -/
def steps (enter : Enter) (run : Run) (body : List Stmt) : Run :=
  body.foldl (step enter) run

/-- Running two lists of statements is running the one and then the other. -/
theorem steps_append (enter : Enter) (run : Run) (first second : List Stmt) :
    run.steps enter (first ++ second) = (run.steps enter first).steps enter second := by
  simp [steps]

end Run

/-- Runs a block in an environment. -/
def runBlock (enter : Enter) (env : Environment) (body : List Stmt) : Run :=
  Run.steps enter { environment := env } body

/-- Enters a function body if some depth of calls is left, and leaves less to the calls in it. -/
def enterWithin (limit : Nat) : Nat → Enter
  | 0, callee, _, _ => ⟨.error (.callDepthExceeded callee limit), []⟩
  | left + 1, _, body, env => (runBlock (enterWithin limit left) env body).outcome

end Summand
