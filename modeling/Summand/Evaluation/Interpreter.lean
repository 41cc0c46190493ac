import Summand.Diagnostic.Log
import Summand.Evaluation.Block

/-!
# Interpreter

An interpreter runs statements within a limit on the depth of calls, and sends its remarks to a
channel.  Each run starts at depth zero, whatever became of the run before it.
-/

namespace Summand

/-- The depth of calls that is allowed unless another is asked for. -/
def defaultCallLimit : Nat := 256

/-- A limit on the depth of calls, and where remarks go. -/
structure Interpreter where
  limit : Nat := defaultCallLimit
  channel : Channel := .closed

namespace Interpreter

/-- The interpreter with another limit. -/
def setLimit (interpreter : Interpreter) (limit : Nat) : Interpreter :=
  { interpreter with limit }

/-- Takes the remarks that have been made since they were last taken. -/
def takeDiagnostics (interpreter : Interpreter) : List Diagnostic × Interpreter :=
  let (diagnostics, channel) := interpreter.channel.take
  (diagnostics, { interpreter with channel })

/-- How function bodies are entered. -/
def enter (interpreter : Interpreter) : Enter :=
  enterWithin interpreter.limit interpreter.limit

/-- The interpreter after it has passed remarks on. -/
def tell (interpreter : Interpreter) (remarks : List Diagnostic) : Interpreter :=
  { interpreter with channel := interpreter.channel.send remarks }

/-- Runs statements and keeps their bindings, after a fault those that were made before it. -/
def extend (interpreter : Interpreter) (body : List Stmt) (env : Environment) :
    Except Fault Value × Environment × Interpreter :=
  let run := runBlock interpreter.enter env body
  (run.result, run.environment, interpreter.tell run.remarks)

/-- Runs statements without keeping their bindings. -/
def run (interpreter : Interpreter) (body : List Stmt) (env : Environment) :
    Except Fault Value × Interpreter :=
  let (result, _, after) := interpreter.extend body env
  (result, after)

/-- Evaluates one expression. -/
def evaluate (interpreter : Interpreter) (e : Expr) (env : Environment) :
    Except Fault Value × Interpreter :=
  let o := Summand.evaluate interpreter.enter env e
  (o.result, interpreter.tell o.remarks)

/-- Looks up one operand. -/
def lookUp (interpreter : Interpreter) (x : Operand) (env : Environment) : Value × Interpreter :=
  (x.value env, interpreter.tell (x.remark? env).toList)

end Interpreter

/-- Runs a program in an environment under the default limit, with no report. -/
def Program.run (program : Program) (env : Environment) : Except Fault Value :=
  (Interpreter.run {} program env).1

end Summand
