import Summand.Token.Basic

/-!
# Programs

A program is a list of statements.  Function declarations hold statements of their own, so programs
nest.  The one compound form of expression is a formula: operands and operators in the order in
which a stack machine takes them, every operator behind its operands.
-/

namespace Summand

/-- A leaf of a formula, kept as the text that was written. -/
inductive Operand where
  | number (text : String)
  | identifier (name : String)
deriving DecidableEq, Inhabited

namespace Operand

/-- The operand that a token denotes, if it is one. -/
def ofToken? (t : Token) : Option Operand :=
  match t.kind with
  | .number => some (.number t.text)
  | .word => some (.identifier t.text)
  | _ => none

/-- The text that was written. -/
def text : Operand → String
  | .number text => text
  | .identifier name => name

end Operand

/-- The signs that join operands. -/
inductive Operator where
  | plus
  | equals
deriving DecidableEq, Inhabited

namespace Operator

/-- The operator that a sign denotes, if it is one. -/
def ofSymbol? (symbol : String) : Option Operator :=
  if symbol = "+" then some .plus
  else if symbol = "=" then some .equals
  else none

/-- The sign of an operator. -/
def symbol : Operator → String
  | .plus => "+"
  | .equals => "="

@[simp] theorem ofSymbol?_symbol (p : Operator) : ofSymbol? p.symbol = some p := by
  cases p <;> rfl

end Operator

/-- One entry of a formula. -/
inductive Entry where
  | operand (x : Operand)
  | operator (p : Operator)
deriving DecidableEq, Inhabited

/-- An expression. -/
inductive Expr where
  /-- Operands and operators, each operator behind its operands. -/
  | formula (entries : List Entry)
  /-- A call without arguments. -/
  | call (callee : String)
deriving DecidableEq, Inhabited

/-- A statement. -/
inductive Stmt where
  /-- Binds a name to a function. -/
  | function (name : String) (body : List Stmt)
  /-- Binds a name to the value of an expression. -/
  | binding (name : String) (value : Expr)
  /-- Marked as the result of the block that it stands in. -/
  | ret (value : Expr)
  /-- An expression on its own. -/
  | expression (value : Expr)
deriving Inhabited

/-- A list of statements, run in order. -/
abbrev Program := List Stmt

/-! ### Equality of statements -/

namespace Stmt

mutual

/-- Two statements are the same, down to the bodies of functions. -/
def same : Stmt → Stmt → Bool
  | .function name body, .function name' body' => name == name' && sameBody body body'
  | .binding name value, .binding name' value' => name == name' && value == value'
  | .ret value, .ret value' => value == value'
  | .expression value, .expression value' => value == value'
  | _, _ => false

/-- Two lists of statements are the same. -/
def sameBody : List Stmt → List Stmt → Bool
  | [], [] => true
  | s :: rest, s' :: rest' => same s s' && sameBody rest rest'
  | _, _ => false

end

mutual

theorem same_iff (s s' : Stmt) : same s s' = true ↔ s = s' := by
  cases s with
  | function name body =>
    cases s' <;> simp [same, sameBody_iff body]
  | binding name value => cases s' <;> simp [same]
  | ret value => cases s' <;> simp [same]
  | expression value => cases s' <;> simp [same]

theorem sameBody_iff (body body' : List Stmt) : sameBody body body' = true ↔ body = body' := by
  cases body with
  | nil => cases body' <;> simp [sameBody]
  | cons s rest =>
    cases body' <;> simp [sameBody, same_iff s, sameBody_iff rest]

end

instance : DecidableEq Stmt := fun s s' => decidable_of_iff _ (same_iff s s')

end Stmt

end Summand
