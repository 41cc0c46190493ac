import Summand.Diagnostic.Log
import Summand.Token.Lexeme

/-!
# Lexer

The lexer cuts a source into tokens, one at a time.  A character that belongs to no pattern becomes
a token of its own and is reported.  What happens then is a matter of policy: the lexer goes on
behind the character, or it halts in front of it for good.
-/

namespace Summand

/-- What the lexer does about a character that starts no token. -/
inductive UnknownPolicy where
  /-- Stop in front of the character, for good. -/
  | halt
  /-- Go on behind the character. -/
  | recover
deriving DecidableEq

instance : Inhabited UnknownPolicy := ⟨.halt⟩

/-- A source that is read token by token. -/
structure Lexer where
  /-- The characters that have not been consumed. -/
  rest : List Char
  /-- The number of bytes that have been consumed. -/
  position : Nat := 0
  policy : UnknownPolicy := default
  /-- An unknown character has ended the reading. -/
  halted : Bool := false
  channel : Channel := .closed

/-- The remark on a token that no pattern matches. -/
def Token.unknownCharacter? (t : Token) : Option Diagnostic :=
  if t.kind = .other then
    some ⟨.unknownCharacter, "No rule matches `" ++ t.text ++ "`", t.span⟩
  else none

namespace Lexer

/-- A lexer at the start of a source. -/
def ofSource (source : String) (policy : UnknownPolicy) (channel : Channel) : Lexer :=
  { rest := source.toList, policy, channel }

/-- The same lexer under another policy. One that has halted stays so. -/
def setPolicy (lexer : Lexer) (policy : UnknownPolicy) : Lexer :=
  { lexer with policy }

/-- The source text that has not been consumed. -/
def remainder (lexer : Lexer) : String :=
  String.ofList lexer.rest

/-- No remark waits to be taken. -/
def isClean (lexer : Lexer) : Bool :=
  lexer.channel.pending.isEmpty

/-- Takes the remarks that have been made since they were last taken. -/
def takeDiagnostics (lexer : Lexer) : List Diagnostic × Lexer :=
  let (diagnostics, channel) := lexer.channel.take
  (diagnostics, { lexer with channel })

/-- The token in front of the lexer, if it has not come to an end. -/
def peek? (lexer : Lexer) : Option Token :=
  if lexer.halted || lexer.rest.isEmpty then none
  else
    let kind := Token.Kind.leading lexer.rest
    some ⟨kind, String.ofList (lexer.rest.take (kind.extent lexer.rest)), lexer.position⟩

/-- The lexer behind a token, or in front of an unknown character that makes it halt. -/
def pass (lexer : Lexer) (t : Token) : Lexer :=
  let reported := { lexer with channel := lexer.channel.send t.unknownCharacter?.toList }
  if t.kind = .other && lexer.policy = .halt then { reported with halted := true }
  else { reported with rest := lexer.rest.drop t.text.length, position := t.span.stop }

/-- Reads the next token. -/
def next? (lexer : Lexer) : Option (Token × Lexer) :=
  lexer.peek?.map fun t => (t, lexer.pass t)

/-- How much is left to read: each token makes it smaller. -/
def remaining (lexer : Lexer) : Nat :=
  if lexer.halted then 0 else lexer.rest.length

theorem remaining_lt_of_next? {lexer after : Lexer} {t : Token}
    (h : lexer.next? = some (t, after)) : after.remaining < lexer.remaining := by
  simp only [next?, peek?, Option.map_eq_some_iff, Prod.mk.injEq] at h
  obtain ⟨u, found, rfl, rfl⟩ := h
  split at found
  · simp at found
  · rename_i going
    simp only [Bool.or_eq_true, List.isEmpty_iff, not_or, Bool.not_eq_true] at going
    have matched := Token.Kind.extent_leading_pos going.2
    have nonempty := List.length_pos_iff.2 going.2
    simp only [Option.some.injEq] at found
    subst found
    simp only [pass, remaining, going.1]
    split
    · simpa using nonempty
    · simp only [Bool.false_eq_true, ↓reduceIte, List.length_drop, String.length_ofList,
        List.length_take]
      omega

/-- Reads tokens until the lexer comes to an end, and returns them with the lexer as it then is. -/
def readAll (lexer : Lexer) : List Token × Lexer :=
  match _h : lexer.next? with
  | none => ([], lexer)
  | some (t, after) =>
    let (tokens, last) := after.readAll
    (t :: tokens, last)
termination_by lexer.remaining
decreasing_by exact remaining_lt_of_next? _h

/-- A lexer that has come to an end reads nothing more. -/
theorem readAll_of_next?_eq_none {lexer : Lexer} (h : lexer.next? = none) :
    lexer.readAll = ([], lexer) := by
  rw [readAll]
  split
  · rfl
  · simp_all

/-- The next token comes first, and then the tokens of the lexer behind it. -/
theorem readAll_of_next?_eq_some {lexer after : Lexer} {t : Token}
    (h : lexer.next? = some (t, after)) :
    lexer.readAll = (t :: after.readAll.1, after.readAll.2) := by
  rw [readAll]
  split
  · simp_all
  · rename_i found
    rw [h, Option.some.injEq, Prod.mk.injEq] at found
    rw [found.1, found.2]

end Lexer

/-- The tokens of a source, with no report, up to the first unknown character and including it. -/
def tokenize (source : String) : List Token :=
  (Lexer.ofSource source default .closed).readAll.1

end Summand
