import Summand.Program.Basic

/-!
# Printing programs

Programs are written with one statement to a line.  In a formula each operator stands between the
operand that it joins and the operands before it.  A formula that is not of that shape is written as
far as it goes.
-/

namespace Summand

/-- Operands behind the first, each with its operator in front. -/
def Entry.printJoined : List Entry → String
  | .operand x :: .operator p :: rest => " " ++ p.symbol ++ " " ++ x.text ++ printJoined rest
  | _ => ""

/-- A formula with its operators between the operands. -/
def Entry.printFormula : List Entry → String
  | .operand x :: rest => x.text ++ printJoined rest
  | _ => ""

/-- An expression as it can be written. -/
def Expr.print : Expr → String
  | .formula entries => Entry.printFormula entries
  | .call callee => callee ++ "()"

namespace Stmt

mutual

/-- A statement as it can be written, with its line break. -/
def print : Stmt → String
  | .function name body => "function " ++ name ++ "() \x7b\n" ++ printAll body ++ "\x7d\n"
  | .binding name value => "let " ++ name ++ " = " ++ value.print ++ ";\n"
  | .ret value => "return " ++ value.print ++ ";\n"
  | .expression value => value.print ++ ";\n"

/-- Statements as they can be written, one after the other. -/
def printAll : List Stmt → String
  | [] => ""
  | s :: rest => print s ++ printAll rest

end

end Stmt

/-- A program as it can be written. -/
def Program.print (program : Program) : String :=
  Stmt.printAll program

end Summand
