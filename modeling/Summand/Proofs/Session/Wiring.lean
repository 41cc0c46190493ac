import Summand.Proofs.Evaluation.Counter
import Summand.Proofs.Program.Descent
import Summand.Proofs.Session.Stages

/-!
# The wiring of the stages

Each stage of a session reports to a channel, and the channels can be wired in many ways: one channel
for all stages, one for each, none for some, with remarks waiting in them or not.  A `Wiring` is any
such choice.

The lexer reports while it reads.  With another channel it reads the same tokens and stops at the same
place, and puts the same remarks behind those that waited already (`readAll_withChannel`).  The other
stages report when they are done.  So the wiring has no part in what a source comes to
(`findings_eq`).

The parser that descends and the interpreter that counts pass each remark on where it is made, from
inside of every rule.  Wired in any way they come to the same (`promptFindings?_eq`), since what they
return is what the readers and the run of the program come to, whatever the channel.  In particular
the value of a source on its own is what the plain stages give, none of which reports
(`findings_of_any_wiring`).
-/

namespace Summand

/-! ## Lexers with another channel -/

namespace Lexer

/-- The lexer with another channel. -/
def withChannel (lexer : Lexer) (channel : Channel) : Lexer :=
  { lexer with channel }

/-- With another channel there is the same token, and the lexer goes on to the same place or halts
at the same one. -/
lemma pass_withChannel (lexer : Lexer) (channel : Channel) (t : Token) :
    (lexer.withChannel channel).pass t =
      (lexer.pass t).withChannel (channel.send t.unknownCharacter?.toList) := by
  unfold pass
  have hpolicy : (lexer.withChannel channel).policy = lexer.policy := rfl
  rw [hpolicy]
  split
  · rfl
  · rfl

/-- One call for a token comes to the same with another channel. -/
lemma next?_withChannel (lexer : Lexer) (channel : Channel) :
    (lexer.withChannel channel).next? =
      lexer.next?.map fun pair =>
        (pair.1, pair.2.withChannel (channel.send pair.1.unknownCharacter?.toList)) := by
  have hpeek : (lexer.withChannel channel).peek? = lexer.peek? := rfl
  unfold next?
  rw [hpeek, Option.map_map]
  congr 1
  funext t
  exact congrArg (Prod.mk t) (pass_withChannel lexer channel t)

/-- All calls for tokens together come to the same with another channel, on which the remarks are
sent. -/
lemma readAll_withChannel (lexer : Lexer) (channel : Channel) :
    (lexer.withChannel channel).readAll =
      (lexer.readAll.1, lexer.readAll.2.withChannel
        (channel.send (lexer.readAll.1.filterMap Token.unknownCharacter?))) := by
  fun_induction readAll lexer generalizing channel with
  | case1 lexer hnext =>
    have hend : (lexer.withChannel channel).next? = none := by
      rw [next?_withChannel, hnext, Option.map_none]
    rw [readAll_of_next?_eq_none hend, List.filterMap_nil, Channel.send_nil]
  | case2 lexer t after hnext tokens last hread ih =>
    have hfirst : (lexer.withChannel channel).next? =
        some (t, after.withChannel (channel.send t.unknownCharacter?.toList)) := by
      rw [next?_withChannel, hnext, Option.map_some]
    rw [readAll_of_next?_eq_some hfirst, ih, hread, filterMap_unknownCharacter?_cons,
      Channel.send_append]

end Lexer

/-! ## Ways of wiring -/

/-- Where the stages report: the lexer to one channel, the parser and the interpreter to channels
that can depend on the one in front of them. -/
structure Wiring where
  lexing : Channel
  /-- The channel of the parser, from that of the lexer when it is done. -/
  parsing : Channel → Channel
  /-- The channel of the interpreter, from that of the parser when it is done. -/
  running : Channel → Channel

/-- What the stages make of a source, apart from remarks. -/
structure Findings where
  tokens : List Token
  /-- What the lexer has left of the source. -/
  remainder : String
  program : Program
  /-- The number of tokens that the parser has consumed. -/
  position : Nat
  result : Except Fault Value
  environment : Environment

namespace Wiring

/-- No stage reports. -/
def silent : Wiring :=
  ⟨.closed, fun _ => .closed, fun _ => .closed⟩

/-- All stages report to one channel, which is empty at the start. -/
def shared : Wiring :=
  ⟨.fresh, id, id⟩

/-- Takes a source through the stages as they are wired. -/
def findings (wiring : Wiring) (config : Config) (env : Environment) (source : String) : Findings :=
  let (tokens, lexer) := (Lexer.ofSource source config.onUnknown wiring.lexing).readAll
  let (program, parser) := (Parser.ofTokens tokens (wiring.parsing lexer.channel)).readBlock
  let interpreter : Interpreter :=
    { limit := config.callLimit, channel := wiring.running parser.channel }
  let (result, environment, _) := interpreter.extend program env
  ⟨tokens, lexer.remainder, program, parser.position, result, environment⟩

/-- However the stages are wired, they come to what they come to when none of them reports. -/
lemma findings_eq_silent (wiring : Wiring) (config : Config) (env : Environment)
    (source : String) : wiring.findings config env source = silent.findings config env source := by
  have hlexer : (Lexer.ofSource source config.onUnknown wiring.lexing).readAll = _ :=
    Lexer.readAll_withChannel (Lexer.ofSource source config.onUnknown .closed) wiring.lexing
  unfold findings
  rw [hlexer]
  -- The other two stages collect their remarks first and send them when they are done.
  rfl

/-- The wiring has no part in what a source comes to. -/
lemma findings_eq (wiring wiring' : Wiring) (config : Config) (env : Environment)
    (source : String) : wiring.findings config env source = wiring'.findings config env source :=
  (findings_eq_silent wiring config env source).trans
    (findings_eq_silent wiring' config env source).symm

/-- Takes a source through the stages as they are wired, with a parser and an interpreter that pass on
each remark where it is made.  Nothing comes out if one of them does not end. -/
def promptFindings? {w : Nat} (wiring : Wiring) (onUnknown : UnknownPolicy) (limit : BitVec w)
    (env : Environment) (source : String) : Option Findings := do
  let (tokens, lexer) := (Lexer.ofSource source onUnknown wiring.lexing).readAll
  let (program, parser) ←
    (DescendingParser.ofTokens tokens (wiring.parsing lexer.channel)).block []
  let interpreter : CountingInterpreter w :=
    { limit, channel := wiring.running parser.channel }
  let (result, environment, _) ← interpreter.extend program env
  some ⟨tokens, lexer.remainder, program, parser.position, result, environment⟩

/-- Stages that pass on each remark where it is made come to what those come to that report when they
are done. -/
lemma promptFindings?_eq {w : Nat} (wiring : Wiring) (onUnknown : UnknownPolicy)
    (limit : BitVec w) (env : Environment) (source : String) :
    wiring.promptFindings? onUnknown limit env source =
      some (wiring.findings { onUnknown, callLimit := limit.toNat } env source) := by
  let lexed := (Lexer.ofSource source onUnknown wiring.lexing).readAll
  let parser := DescendingParser.ofTokens lexed.1 (wiring.parsing lexed.2.channel)
  let parsed := parser.follow blockReader .start
  let interpreter : CountingInterpreter w := { limit, channel := wiring.running parsed.2.channel }
  have hblock : parser.block [] = some parsed := DescendingParser.block_eq rfl
  have hdepth : interpreter.depth ≤ interpreter.limit := by
    rw [BitVec.le_def]
    simp [interpreter]
  obtain ⟨after, hrun, -⟩ := CountingInterpreter.exists_block hdepth env .undefined parsed.1
  have hextend : interpreter.extend parsed.1 env = some (_, _, after) := hrun
  unfold promptFindings?
  simp only [parser, lexed] at hblock
  simp only [hblock, bind, Option.bind_some]
  simp only [interpreter] at hextend
  rw [hextend]
  rfl

end Wiring

/-- A session wires all stages to one channel. -/
lemma Session.execute_eq_shared (session : Session) (source : String) :
    let findings := Wiring.shared.findings session.config session.environment source
    (session.execute source).1.map Answer.value = findings.result ∧
      (session.execute source).2 = findings.environment := by
  intro findings
  refine ⟨?_, rfl⟩
  have hvalue : ∀ diagnostics : List Diagnostic, ∀ result : Except Fault Value,
      (result.map fun value => (⟨value, diagnostics⟩ : Answer)).map Answer.value = result := by
    intro diagnostics result
    cases result with
    | ok value => rfl
    | error fault => rfl
  exact hvalue _ _

/-- What a source comes to does not depend on how the stages are wired: not the tokens, not what is
left of the source, not the program and how far the tokens are consumed, not the value or fault and
not the bindings.  The same holds of stages that pass on each remark where it is made, with calls
counted in a word of any length.  A session comes to the same, whether it keeps the bindings or not.
The value of a source on its own is therefore that of the plain stages, one behind the other. -/
theorem findings_of_any_wiring (source : String) (config : Config) (env : Environment)
    (wiring wiring' : Wiring) :
    let findings := wiring.findings config env source
    let session : Session := { config, environment := env }
    findings = wiring'.findings config env source ∧
      (∀ (w : Nat) (limit : BitVec w), wiring.promptFindings? config.onUnknown limit env source =
        some (wiring'.findings { config with callLimit := limit.toNat } env source)) ∧
      (session.run source).map Answer.value = findings.result ∧
      (session.extend source).1.map Answer.value = findings.result ∧
      (session.extend source).2 = { config, environment := findings.environment } ∧
      interpret source = Program.run (Program.ofTokens (tokenize source)) .empty := by
  intro findings session
  obtain ⟨hvalue, henvironment⟩ := session.execute_eq_shared source
  have hshared : Wiring.shared.findings config env source = findings :=
    Wiring.findings_eq Wiring.shared wiring config env source
  rw [hshared] at hvalue henvironment
  refine ⟨Wiring.findings_eq wiring wiring' config env source, ?_, hvalue, hvalue, ?_, ?_⟩
  · intro w limit
    rw [Wiring.promptFindings?_eq, Wiring.findings_eq wiring wiring']
  · exact congrArg (Session.mk config) henvironment
  · have hplain := (Session.execute_eq_shared { config := default } source).1
    rw [Wiring.findings_eq Wiring.shared Wiring.silent] at hplain
    exact hplain

end Summand
