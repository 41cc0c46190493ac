import Summand.Program.Parser
import Summand.Session.Config

/-!
# Sessions

A session takes source text through all stages: it is cut into tokens, read as a program, and run.
All stages report to one channel, so that the remarks on characters come before those on tokens, and
these before those on running statements.  A session can keep the bindings that a source makes for
the sources that come after it.
-/

namespace Summand

/-- What a source comes to. -/
structure Answer where
  value : Value
  diagnostics : List Diagnostic

/-- A configuration and the bindings made so far. -/
structure Session where
  config : Config
  environment : Environment := .empty

namespace Session

/-- Takes a source through all stages. The bindings are returned in any case; the remarks are lost
to a fault. -/
def execute (session : Session) (source : String) : Except Fault Answer × Environment :=
  let (tokens, lexer) := (Lexer.ofSource source session.config.onUnknown .fresh).readAll
  let (program, parser) := (Parser.ofTokens tokens lexer.channel).readBlock
  let interpreter : Interpreter :=
    { limit := session.config.callLimit, channel := parser.channel }
  let (result, environment, after) := interpreter.extend program session.environment
  (result.map fun value => ⟨value, after.channel.pending⟩, environment)

/-- Runs a source and forgets its bindings. -/
def run (session : Session) (source : String) : Except Fault Answer :=
  (session.execute source).1

/-- Runs a source and keeps its bindings, after a fault those that were made before it. -/
def extend (session : Session) (source : String) : Except Fault Answer × Session :=
  let (answer, environment) := session.execute source
  (answer, { session with environment })

end Session

/-- The value of a source on its own, under the default configuration. -/
def interpret (source : String) : Except Fault Value :=
  (Session.run { config := default } source).map (·.value)

end Summand
