import Summand.Program.Basic
import Summand.Program.Reader

/-!
# Reading expressions

An expression is written with its operators between the operands.  It extends to the next semicolon
or line break, both of which are consumed, or it turns into a call of its first operand at an
opening parenthesis, and then it extends to the closing one.

The operator in front of an operand is remembered until the operand comes.  An operand without one
is dropped with a remark; the first operand needs none.  An operator in front of the first operand
is not used up by it, and so serves for the second.
-/

namespace Summand

/-- A first operand and the operands that were joined to it, in the order of writing. -/
structure Chain where
  first : Operand
  joined : List (Operator × Operand) := []
deriving DecidableEq

/-- The formula of a chain: every operator stands behind the operand that it joins. -/
def Chain.entries (chain : Chain) : List Entry :=
  .operand chain.first :: chain.joined.flatMap fun (p, x) => [.operand x, .operator p]

/-- The operands of an expression so far, and the operator for the next one. -/
structure Draft where
  chain? : Option Chain := none
  operator? : Option Operator := none
deriving DecidableEq

namespace Draft

/-- The expression as it stands. -/
def expr (draft : Draft) : Expr :=
  .formula ((draft.chain?.map Chain.entries).getD [])

/-- An operand with nothing to join it to the operands before it. -/
def lacksOperator (draft : Draft) : Bool :=
  draft.chain?.isSome && draft.operator?.isNone

/-- Adds an operand, or drops it if it lacks an operator. -/
def push (draft : Draft) (x : Operand) : Draft :=
  match draft.chain?, draft.operator? with
  | none, _ => { draft with chain? := some { first := x } }
  | some chain, some p => { chain? := some { chain with joined := chain.joined ++ [(p, x)] } }
  | some _, none => draft

/-- The operand that an opening parenthesis calls: the first, unless an operator is waiting. -/
def callee? (draft : Draft) : Option String :=
  match draft.operator? with
  | none => draft.chain?.map fun chain => chain.first.text
  | some _ => none

end Draft

/-- What a token is to an expression. -/
inductive Token.Role where
  | operand (x : Operand)
  /-- A sign; it may denote no operator. -/
  | sign (p? : Option Operator)
  | terminator
  | opening
  | stray

/-- The role of a token in an expression. -/
def Token.role (t : Token) : Token.Role :=
  match Operand.ofToken? t with
  | some x => .operand x
  | none =>
    match t.kind with
    | .punctuator => .sign (Operator.ofSymbol? t.text)
    | .semicolon => .terminator
    | .lineBreak => .terminator
    | .paren => if t.text = "(" then .opening else .stray
    | _ => .stray

/-- Where the reading of an expression stands. -/
inductive ExprState where
  /-- Among the operands. -/
  | formula (draft : Draft)
  /-- Between the parentheses of a call. -/
  | arguments (callee : String)
deriving DecidableEq

namespace ExprState

/-- In front of an expression. -/
def start : ExprState := .formula {}

/-- What a token leads to. -/
def feed : ExprState → Token → Progress ExprState Expr
  | .formula draft, t =>
    match t.role with
    | .operand x => .more (.formula (draft.push x))
    | .sign p? => .more (.formula { draft with operator? := p? })
    | .terminator => .done draft.expr
    | .opening =>
      match draft.callee? with
      | some callee => .more (.arguments callee)
      | none => .more (.formula draft)
    | .stray => .more (.formula draft)
  | .arguments callee, t =>
    if t.text = ")" then .done (.call callee) else .more (.arguments callee)

/-- The remark on an operand that no operator joins to the operands before it. -/
def missingOperator (t : Token) : Diagnostic :=
  ⟨.missingOperator, "Expected an operator before `" ++ t.text ++ "`", t.span⟩

/-- What there is to say about a token. -/
def remark? : ExprState → Token → Option Diagnostic
  | .formula draft, t =>
    match t.role with
    | .operand _ => if draft.lacksOperator then some (missingOperator t) else none
    | .sign _ => none
    | .terminator => none
    | .opening => if draft.callee?.isSome then none else t.skipped?
    | .stray => t.skipped?
  | .arguments _, t => if t.text = ")" then none else t.skipped?

/-- The expression as it stands. -/
def close : ExprState → Expr
  | .formula draft => draft.expr
  | .arguments callee => .call callee

/-- What is missing at the end of the tokens: only a call has a fixed end. -/
def missing : ExprState → List String
  | .formula _ => []
  | .arguments _ => ["`)`"]

end ExprState

/-- Reads one expression. -/
def exprReader : Reader ExprState Expr where
  feed := ExprState.feed
  remark? := ExprState.remark?
  close := ExprState.close
  missing := ExprState.missing

end Summand
