import Summand.Decimal.Literal
import Summand.Evaluation.Environment

/-!
# Values of formulas

A formula is worked off from left to right with a stack.  Operands are pushed as they are written
and looked up only when they are needed: when an addition takes them off the stack, or when they are
left at its bottom, which is where the value of the formula is.

The order of these look-ups is visible in the remarks on unbound names, so the machine keeps a
record of what it does (`Event`), from which the remarks follow.
-/

namespace Summand

namespace Operand

/-- The value of an operand. A text that is no number counts as the value that is no number, and an
unbound name as undefined. -/
def value (env : Environment) : Operand → Value
  | .number text => .number ((Literal.number? text).getD Value.notANumber)
  | .identifier name => (env.get? name).getD .undefined

/-- The remark on an operand that is looked up: it may be an unbound name. -/
def remark? (env : Environment) : Operand → Option Diagnostic
  | .number _ => none
  | .identifier name =>
    if env.contains name then none
    else some (.whileRunning .undefinedIdentifier ("`" ++ name ++ "` is not bound"))

end Operand

namespace Formula

/-- An entry of the stack: an operand that has not been looked up, or a sum. -/
inductive Slot where
  | pending (x : Operand)
  | resolved (v : Value)

/-- What a step of the machine does that can be noticed. -/
inductive Event where
  /-- An operand is looked up. -/
  | lookUp (x : Operand)
  /-- An operator is passed over. -/
  | passOver (p : Operator)
deriving DecidableEq

/-- The remark on an event. -/
def Event.remark? (env : Environment) : Event → Option Diagnostic
  | .lookUp x => x.remark? env
  | .passOver p =>
    some (.whileRunning .unsupportedOperator ("`" ++ p.symbol ++ "` has no value, ignoring it"))

namespace Slot

/-- The value of a slot; a slot that is not there is undefined. -/
def value (env : Environment) : Option Slot → Value
  | some (.pending x) => x.value env
  | some (.resolved v) => v
  | none => .undefined

/-- What is looked up to find the value of a slot. -/
def lookUps : Option Slot → List Event
  | some (.pending x) => [.lookUp x]
  | _ => []

end Slot

/-- The stack, its top first, and what has happened. -/
structure Machine where
  stack : List Slot := []
  events : List Event := []

namespace Machine

/-- Takes the two topmost slots off and pushes their sum. The top is the left operand and is looked
up first. -/
def add (env : Environment) (m : Machine) : Machine :=
  let left := m.stack[0]?
  let right := m.stack[1]?
  let sum := (Slot.value env left).toNumber + (Slot.value env right).toNumber
  { stack := .resolved (.number sum) :: m.stack.drop 2
    events := m.events ++ Slot.lookUps left ++ Slot.lookUps right }

/-- Works off one entry of a formula. Addition is the only operator with a value. -/
def step (env : Environment) (m : Machine) : Entry → Machine
  | .operand x => { m with stack := .pending x :: m.stack }
  | .operator .plus => m.add env
  | .operator p => { m with events := m.events ++ [.passOver p] }

/-- Works off a formula. -/
def run (env : Environment) (entries : List Entry) : Machine :=
  entries.foldl (step env) {}

/-- The slot at the bottom of the stack. -/
def bottom? (m : Machine) : Option Slot :=
  m.stack.getLast?

end Machine

/-- The value of a formula. -/
def value (env : Environment) (entries : List Entry) : Value :=
  Slot.value env (Machine.run env entries).bottom?

/-- Everything that happens while a formula is worked off, in order. -/
def events (env : Environment) (entries : List Entry) : List Event :=
  let m := Machine.run env entries
  m.events ++ Slot.lookUps m.bottom?

/-- The remarks on a formula, in order. -/
def remarks (env : Environment) (entries : List Entry) : List Diagnostic :=
  (events env entries).filterMap (Event.remark? env)

end Formula

end Summand
