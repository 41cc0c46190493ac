import Summand.Program.BlockReader

/-!
# Parser

A parser is a place in a list of tokens.  It reads blocks of statements and single expressions from
there on, moves behind what it has consumed, and sends its remarks to a channel.  No list of tokens
is refused.
-/

namespace Summand

/-- A place in a list of tokens. -/
structure Parser where
  tokens : List Token
  /-- The number of tokens that have been consumed. -/
  position : Nat := 0
  channel : Channel := .closed

namespace Parser

/-- A parser in front of the first token. -/
def ofTokens (tokens : List Token) (channel : Channel) : Parser :=
  { tokens, channel }

/-- The tokens that have not been consumed. -/
def rest (parser : Parser) : List Token :=
  parser.tokens.drop parser.position

/-- Every token has been consumed. -/
def atEnd (parser : Parser) : Bool :=
  parser.tokens.length ≤ parser.position

/-- Takes the remarks that have been made since they were last taken. -/
def takeDiagnostics (parser : Parser) : List Diagnostic × Parser :=
  let (diagnostics, channel) := parser.channel.take
  (diagnostics, { parser with channel })

/-- Lets a reader read from here on. -/
def read {State Result : Type} (parser : Parser) (reader : Reader State Result) (start : State) :
    Result × Parser :=
  let reading := reader.read (Token.endOf parser.tokens) start parser.rest
  (reading.result,
    { parser with
      position := parser.position + reading.consumed
      channel := parser.channel.send reading.remarks })

/-- Reads statements up to the end or behind an unmatched closing brace. -/
def readBlock (parser : Parser) : List Stmt × Parser :=
  parser.read blockReader .start

/-- Reads one expression. -/
def readExpr (parser : Parser) : Expr × Parser :=
  parser.read exprReader .start

end Parser

/-- The program that a list of tokens makes, with no report. -/
def Program.ofTokens (tokens : List Token) : Program :=
  (Parser.ofTokens tokens .closed).readBlock.1

end Summand
