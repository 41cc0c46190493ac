import Summand.Program.ExprReader
import Summand.Text.Blank

/-!
# Reading statements

Statements are read until the tokens run out or a closing brace comes that no function has opened.
The functions that are open form a stack of `Frame`s, so that a function body is no more than a new
list of statements on top of the unfinished ones.  Tokens that fit nowhere are passed over.

The name of a function is all the text up to the opening parenthesis, and everything from there to
the opening brace is passed over.
-/

namespace Summand

/-- What becomes of an expression once it has been read. -/
inductive Purpose where
  | ret
  | expression
  | binding (name : String)
deriving DecidableEq

/-- The statement that an expression is read for. -/
def Purpose.statement : Purpose → Expr → Stmt
  | .ret, e => .ret e
  | .expression, e => .expression e
  | .binding name, e => .binding name e

/-- Where the reading of a statement stands. -/
inductive Mode where
  /-- In front of a statement. -/
  | statement
  /-- Behind the keyword of a function, with the text that makes up its name. -/
  | functionName (text : String)
  /-- Behind the name of a function and in front of its body. -/
  | functionHead (name : String)
  /-- Behind the keyword of a binding. -/
  | bindingName
  /-- Behind the name of a binding. -/
  | bindingEquals (name : String)
  /-- Inside an expression. -/
  | expression (purpose : Purpose) (state : ExprState)
deriving DecidableEq

/-- A function whose body is being read. -/
structure Frame where
  name : String
  /-- The statements in front of the function. -/
  outer : List Stmt
deriving DecidableEq

/-- Puts the statements of a body behind those in front of the function. -/
def Frame.finish (frame : Frame) (body : List Stmt) : List Stmt :=
  frame.outer ++ [.function frame.name body]

/-- Where the reading of a block stands. -/
structure BlockState where
  mode : Mode := .statement
  /-- The statements of the innermost open block. -/
  body : List Stmt := []
  /-- The functions that are open, innermost first. -/
  frames : List Frame := []
deriving DecidableEq

namespace BlockState

/-- In front of a block. -/
def start : BlockState := {}

/-- Goes on with an expression after a token of it. -/
def ofExpr (s : BlockState) (purpose : Purpose) : Progress ExprState Expr → BlockState
  | .more state => { s with mode := .expression purpose state }
  | .done e => { s with mode := .statement, body := s.body ++ [purpose.statement e] }

/-- Closes the innermost open function, or the whole block if none is open. -/
def closeBrace (s : BlockState) : Progress BlockState (List Stmt) :=
  match s.frames with
  | [] => .done s.body
  | frame :: frames => .more { mode := .statement, body := frame.finish s.body, frames }

/-- What a token in front of a statement leads to. -/
def feedStatement (s : BlockState) (t : Token) : Progress BlockState (List Stmt) :=
  match t.kind with
  | .functionKeyword => .more { s with mode := .functionName "" }
  | .returnKeyword => .more { s with mode := .expression .ret .start }
  | .letKeyword => .more { s with mode := .bindingName }
  | .word => .more (s.ofExpr .expression (ExprState.start.feed t))
  | .brace => if t.text = "\x7d" then s.closeBrace else .more s
  | _ => .more s

/-- What a token leads to. -/
def feed (s : BlockState) (t : Token) : Progress BlockState (List Stmt) :=
  match s.mode with
  | .statement => s.feedStatement t
  | .functionName text =>
    if t.text = "(" then .more { s with mode := .functionHead (Text.trim text) }
    else .more { s with mode := .functionName (text ++ t.text) }
  | .functionHead name =>
    if t.text = "\x7b" then
      .more { mode := .statement, body := [], frames := ⟨name, s.body⟩ :: s.frames }
    else .more s
  | .bindingName =>
    if t.kind = .word then .more { s with mode := .bindingEquals t.text } else .more s
  | .bindingEquals name =>
    if t.text = "=" then .more { s with mode := .expression (.binding name) .start } else .more s
  | .expression purpose state => .more (s.ofExpr purpose (state.feed t))

/-- The remark on a closing brace that no function has opened. -/
def unbalancedBrace (t : Token) : Diagnostic :=
  ⟨.unbalancedBrace, "Unmatched `\x7d` ends the program", t.span⟩

/-- What there is to say about a token in front of a statement. -/
def remarkStatement? (s : BlockState) (t : Token) : Option Diagnostic :=
  match t.kind with
  | .brace => if t.text = "\x7d" && s.frames.isEmpty then some (unbalancedBrace t) else none
  | .number | .paren | .punctuator | .other => t.skipped?
  | _ => none

/-- What there is to say about a token. -/
def remark? (s : BlockState) (t : Token) : Option Diagnostic :=
  match s.mode with
  | .statement => s.remarkStatement? t
  | .functionName _ => if t.text = "(" && t.kind ≠ .paren then t.skipped? else none
  | .functionHead _ => if t.text = "\x7b" || t.kind = .paren then none else t.skipped?
  | .bindingName => if t.kind = .word then none else t.skipped?
  | .bindingEquals _ => if t.text = "=" then none else t.skipped?
  | .expression _ state => state.remark? t

/-- The statements of the innermost open block, with the expression that is being read. A function
without a body and a binding without a value are no statements. -/
def settledBody (s : BlockState) : List Stmt :=
  match s.mode with
  | .expression purpose state => s.body ++ [purpose.statement state.close]
  | _ => s.body

/-- The statements as they stand, with every open function closed. -/
def close (s : BlockState) : List Stmt :=
  s.frames.foldl (fun body frame => frame.finish body) s.settledBody

/-- What the statement that is being read lacks. -/
def missingHere (s : BlockState) : List String :=
  match s.mode with
  | .statement => []
  | .functionName _ => ["`(` after the function name"]
  | .functionHead _ => ["`\x7b` before the function body"]
  | .bindingName => ["a binding name"]
  | .bindingEquals _ => ["`=`"]
  | .expression _ state => state.missing

/-- What is missing at the end of the tokens: the rest of a statement, then a brace for each open
function. -/
def missing (s : BlockState) : List String :=
  s.missingHere ++ s.frames.map fun _ => "`\x7d`"

end BlockState

/-- Reads statements up to an unmatched closing brace. -/
def blockReader : Reader BlockState (List Stmt) where
  feed := BlockState.feed
  remark? := BlockState.remark?
  close := BlockState.close
  missing := BlockState.missing

end Summand
