import Summand.Proofs.Token.Lexemes
import Summand.Session.Basic

/-!
# The stages of a session

A session lets all stages report to one channel.  A `Report` is about the same source and the same
session, but every stage has a channel of its own.  `Session.extend_eq` puts the stages together
again: the remarks on characters, those on tokens and those made while running follow each other, and
what the session returns is what the run of the program comes to.
-/

namespace Summand

/-- What a source comes to in a session, with the remarks of every stage on their own. -/
structure Report where
  source : String
  tokens : List Token
  program : Program
  answer : Except Fault Answer
  /-- The remarks on characters. -/
  lexing : List Diagnostic
  /-- The remarks on tokens. -/
  parsing : List Diagnostic
  /-- The remarks made while running. -/
  running : List Diagnostic

namespace Session

/-- The report on a source. -/
def report (session : Session) (source : String) : Report :=
  let (tokens, lexer) := (Lexer.ofSource source session.config.onUnknown .fresh).readAll
  let (program, parser) := (Parser.ofTokens tokens .fresh).readBlock
  let interpreter : Interpreter := { limit := session.config.callLimit, channel := .fresh }
  let (_, _, after) := interpreter.extend program session.environment
  { source, tokens, program
    answer := (session.extend source).1
    lexing := lexer.channel.pending
    parsing := parser.channel.pending
    running := after.channel.pending }

/-- How a session enters functions. -/
def enter (session : Session) : Enter :=
  enterWithin session.config.callLimit session.config.callLimit

/-- The remarks on characters are those on the tokens that no pattern matches. -/
lemma lexing_report (session : Session) (source : String) :
    (session.report source).lexing =
      (session.report source).tokens.filterMap Token.unknownCharacter? := by
  have hchannel :=
    Lexer.channel_readAll (Lexer.ofSource source session.config.onUnknown .fresh)
  calc (session.report source).lexing
      = (Lexer.ofSource source session.config.onUnknown .fresh).readAll.2.channel.pending := rfl
    _ = _ := by
      rw [hchannel]
      exact Channel.pending_send_fresh _

/-- The remarks on tokens are those of the reader of blocks. -/
lemma parsing_report (session : Session) (source : String) :
    (session.report source).parsing =
      (blockReader.read (Token.endOf (session.report source).tokens) .start
        (session.report source).tokens).remarks :=
  Channel.pending_send_fresh _

/-- The program is what the reader of blocks makes of the tokens. -/
lemma program_report (session : Session) (source : String) :
    (session.report source).program =
      (blockReader.read (Token.endOf (session.report source).tokens) .start
        (session.report source).tokens).result := rfl

/-- The remarks made while running are those of the run of the program. -/
lemma running_report (session : Session) (source : String) :
    (session.report source).running =
      (runBlock session.enter session.environment (session.report source).program).remarks :=
  Channel.pending_send_fresh _

/-- The remarks of all stages in one channel are those of the stages one after the other. -/
lemma pending_stages (session : Session) (source : String) :
    (((Lexer.ofSource source session.config.onUnknown .fresh).readAll.2.channel.send
      (blockReader.read (Token.endOf (session.report source).tokens) .start
        (session.report source).tokens).remarks).send
      (runBlock session.enter session.environment (session.report source).program).remarks).pending =
      (session.report source).lexing ++ (session.report source).parsing ++
        (session.report source).running := by
  rw [← parsing_report, ← running_report, Lexer.channel_readAll]
  have hlexing : (Lexer.ofSource source session.config.onUnknown .fresh).readAll.1.filterMap
      Token.unknownCharacter? = (session.report source).lexing :=
    (lexing_report session source).symm
  rw [hlexing, ← Channel.send_append, ← Channel.send_append, List.append_assoc]
  exact Channel.pending_send_fresh _

/-- A session returns what the run of the program comes to, with the remarks of all stages. -/
theorem extend_eq (session : Session) (source : String) :
    session.extend source =
      ((runBlock session.enter session.environment (session.report source).program).result.map
        fun value => ⟨value, (session.report source).lexing ++ (session.report source).parsing ++
          (session.report source).running⟩,
        { session with
          environment :=
            (runBlock session.enter session.environment
              (session.report source).program).environment }) := by
  rw [← pending_stages]
  rfl

end Session

end Summand
