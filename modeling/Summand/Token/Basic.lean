import Summand.Diagnostic.Basic

/-!
# Tokens

A token is a piece of source text with the class it belongs to and the place where it starts.  The
kind is all that the grammar looks at in most places; in some it looks at the text instead.
-/

namespace Summand

/-- The classes of tokens, in the order in which they are tried at a place of the source. -/
inductive Token.Kind where
  | functionKeyword
  | returnKeyword
  | letKeyword
  | number
  | word
  | space
  | semicolon
  | lineBreak
  | brace
  | paren
  | punctuator
  | other
deriving DecidableEq, Inhabited

/-- A piece of source text. -/
structure Token where
  kind : Token.Kind
  text : String
  /-- Offset of the first byte of the text. -/
  position : Nat
deriving DecidableEq, Inhabited

namespace Token

/-- The source text that the token stands for. -/
def span (t : Token) : Span :=
  ⟨t.position, t.position + t.text.utf8ByteSize⟩

/-- The offset just past the last token, or zero without tokens. -/
def endOf (tokens : List Token) : Nat :=
  (tokens.getLast?.map fun t => t.span.stop).getD 0

end Token

end Summand
