/-!
# Diagnostics

A diagnostic is a remark about a piece of source text.  Nothing that is diagnosed stops a program
from being read and run: the remarks are collected beside the result.
-/

namespace Summand

/-- A stretch of source text, counted in bytes of its UTF-8 encoding. -/
structure Span where
  /-- Offset of the first byte. -/
  start : Nat
  /-- Offset just past the last byte. -/
  stop : Nat
deriving DecidableEq, Inhabited

/-- The empty stretch at an offset. -/
def Span.at (offset : Nat) : Span :=
  ⟨offset, offset⟩

/-- The remarks that can be made, from reading characters to running statements. -/
inductive Diagnostic.Kind where
  | unknownCharacter
  | skippedToken
  | missingOperator
  | unbalancedBrace
  | unexpectedEnd
  | undefinedIdentifier
  | notCallable
  | unsupportedOperator
deriving DecidableEq, Inhabited

/-- A remark, its wording and the source text that it is about. -/
structure Diagnostic where
  kind : Diagnostic.Kind
  message : String
  span : Span
deriving DecidableEq, Inhabited

namespace Diagnostic

/-- The words for a kind of remark. -/
def Kind.text : Kind → String
  | .unknownCharacter => "unknown character"
  | .skippedToken => "skipped token"
  | .missingOperator => "missing operator"
  | .unbalancedBrace => "unbalanced brace"
  | .unexpectedEnd => "unexpected end of input"
  | .undefinedIdentifier => "undefined identifier"
  | .notCallable => "not callable"
  | .unsupportedOperator => "unsupported operator"

/-- A remark on one line: its kind, its wording and where its source text starts. -/
def text (d : Diagnostic) : String :=
  d.kind.text ++ ": " ++ d.message ++ " at position " ++ toString d.span.start

/-- A remark made while running a program. Statements do not remember where they were written, so
the remark is placed at the start of the source. -/
def whileRunning (kind : Kind) (message : String) : Diagnostic :=
  ⟨kind, message, Span.at 0⟩

end Diagnostic

end Summand
