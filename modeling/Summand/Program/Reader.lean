import Summand.Diagnostic.Log
import Summand.Token.Basic
import Summand.Text.Escape

/-!
# Reading tokens one at a time

A `Reader` consumes tokens from left to right, keeping a state.  On each token it may make one
remark, and either goes on in a new state or is done with a result.  When the tokens run out first,
the reader says what it was still expecting and gives the result that it has.  So every reader reads
every list of tokens, and never looks at a token twice.
-/

namespace Summand

/-- The remark on a token that is passed over, unless it is mere layout. -/
def Token.skipped? (t : Token) : Option Diagnostic :=
  if t.kind = .space || t.kind = .lineBreak then none
  else some ⟨.skippedToken, "Unexpected `" ++ Text.shown t.text ++ "`", t.span⟩

/-- The remark on tokens that run out too early. -/
def Diagnostic.unexpectedEnd (offset : Nat) (expected : String) : Diagnostic :=
  ⟨.unexpectedEnd, "Expected " ++ expected ++ " before end of input", Span.at offset⟩

/-- What a reader has come to after a token. -/
inductive Progress (State Result : Type) where
  | more (state : State)
  | done (result : Result)

/-- A way of reading tokens. -/
structure Reader (State Result : Type) where
  /-- What a token leads to. -/
  feed : State → Token → Progress State Result
  /-- What there is to say about a token. -/
  remark? : State → Token → Option Diagnostic
  /-- The result when the tokens run out. -/
  close : State → Result
  /-- What is missing when the tokens run out, in the order in which it was expected. -/
  missing : State → List String

/-- What a reader has made of a list of tokens. -/
structure Reading (Result : Type) where
  result : Result
  remarks : List Diagnostic
  /-- The number of tokens that were consumed. -/
  consumed : Nat

namespace Reader

variable {State Result : Type}

/-- Reads tokens from a state on, until the reader is done or the tokens run out at an offset. -/
def read (reader : Reader State Result) (offset : Nat) : State → List Token → Reading Result
  | state, [] =>
    ⟨reader.close state, (reader.missing state).map (Diagnostic.unexpectedEnd offset), 0⟩
  | state, t :: rest =>
    match reader.feed state t with
    | .done result => ⟨result, (reader.remark? state t).toList, 1⟩
    | .more next =>
      let reading := reader.read offset next rest
      ⟨reading.result, (reader.remark? state t).toList ++ reading.remarks, reading.consumed + 1⟩

/-- A reader consumes no more than there is. -/
theorem consumed_read_le (reader : Reader State Result) (offset : Nat) (state : State)
    (tokens : List Token) : (reader.read offset state tokens).consumed ≤ tokens.length := by
  induction tokens generalizing state with
  | nil => simp [read]
  | cons t rest ih =>
    rw [read]
    split
    · simp
    · rename_i next _
      simpa using ih next

/-- A reader consumes something if there is something. -/
theorem consumed_read_pos (reader : Reader State Result) (offset : Nat) (state : State)
    {tokens : List Token} (h : tokens ≠ []) : 0 < (reader.read offset state tokens).consumed := by
  cases tokens with
  | nil => exact absurd rfl h
  | cons t rest =>
    rw [read]
    split <;> simp

end Reader

end Summand
