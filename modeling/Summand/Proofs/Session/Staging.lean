import Summand.Proofs.Evaluation.Remarks
import Summand.Proofs.Program.Trace
import Summand.Proofs.Session.Stages
import Summand.Proofs.Token.Coverage

/-!
# The order of the remarks on a source

The remarks of a session come stage by stage: on characters, on tokens, on the end of the tokens, and
on what happens while the program runs.  Within the first two stages they follow the source, because
each is about a token of its own and the tokens follow each other (`ascending_readAll`).

`Staging` collects what is true of the four parts, and the main statement is
`diagnostics_of_run_staged`: the remarks of every source that comes to a value fall into four such
parts.
-/

namespace Summand

/-! ## The end of the tokens -/

/-- The tokens end where the last of them stops. -/
lemma Token.exists_endOf {tokens : List Token} (h : tokens ≠ []) :
    ∃ last ∈ tokens.getLast?, endOf tokens = last.span.stop := by
  refine ⟨tokens.getLast h, List.getLast?_eq_some_getLast h, ?_⟩
  rw [endOf, List.getLast?_eq_some_getLast h]
  rfl

/-- The remark on tokens that run out tells what was expected. -/
lemma Diagnostic.message_unexpectedEnd_eq_iff (offset : Nat) (expected : String) :
    (unexpectedEnd offset expected).message = "Expected `\x7d` before end of input" ↔
      expected = "`\x7d`" := by
  have hbrace : "Expected `\x7d` before end of input" =
      "Expected " ++ "`\x7d`" ++ " before end of input" := by decide
  rw [hbrace]
  simp only [unexpectedEnd, String.append_left_inj, String.append_right_inj]

/-- The parts into which the remarks on tokens fall: those on tokens, and those on their end.  An
unmatched brace is remarked on last; otherwise a brace is missing for each body that is not closed. -/
lemma BlockState.exists_ends (tokens : List Token) :
    ∃ ends, (blockReader.read (Token.endOf tokens) .start tokens).remarks =
        blockReader.located .start tokens ++ ends ∧
      (∀ d ∈ blockReader.located .start tokens, d.kind = .unbalancedBrace →
        ends = [] ∧ ∃ before, blockReader.located .start tokens = before ++ [d] ∧
          ∀ e ∈ before, e.kind ≠ .unbalancedBrace) ∧
      (∀ d ∈ ends, d.kind = .unexpectedEnd ∧
        ∃ last ∈ tokens.getLast?, d.span = Span.at last.span.stop) ∧
      ends.countP (fun d => d.message = "Expected `\x7d` before end of input") =
        unclosed (blockReader.trace .start tokens) := by
  rcases read_cases (Token.endOf tokens) tokens with
    ⟨last, hremarks, hbalanced, hframes, hnonempty⟩ | ⟨before, t, hlocated, hremarks, hbefore, hzero⟩
  · refine ⟨_, hremarks, ?_, ?_, ?_⟩
    · intro d hd hkind
      exact absurd hkind (hbalanced d hd)
    · intro d hd
      obtain ⟨expected, hexpected, rfl⟩ := List.mem_map.1 hd
      obtain ⟨final, hfinal, hend⟩ :=
        Token.exists_endOf (hnonempty (List.ne_nil_of_mem hexpected))
      exact ⟨rfl, final, hfinal, by rw [← hend]; rfl⟩
    · rw [← hframes, ← count_missing, List.countP_map, List.count]
      apply List.countP_congr
      intro expected _
      simp [Diagnostic.message_unexpectedEnd_eq_iff]
  · refine ⟨[], by rw [hremarks, List.append_nil], ?_, by simp, by simp [hzero]⟩
    intro d hd hkind
    rw [hlocated, List.mem_append, List.mem_singleton] at hd
    rcases hd with hd | rfl
    · exact absurd hkind (hbefore d hd)
    · exact ⟨rfl, before, hlocated, hbefore⟩

/-! ## All remarks on a source -/

/-- What is true of the remarks on characters, on tokens, on the end of the tokens and on the run of
the program, where these are the tokens that were read. -/
structure Staging (tokens : List Token) (unknown located ends running : List Diagnostic) : Prop where
  /-- There is one remark for each token that no pattern matches. -/
  unknown_eq : unknown = (tokens.filter fun t => t.kind = .other).map fun t =>
    ⟨.unknownCharacter, "No rule matches `" ++ t.text ++ "`", t.span⟩
  unknown_ascending : Span.Ascending (unknown.map Diagnostic.span)
  located_kind : ∀ d ∈ located,
    d.kind = .skippedToken ∨ d.kind = .missingOperator ∨ d.kind = .unbalancedBrace
  /-- Each remark has the span of a token of its own, and only consumed tokens are remarked on. -/
  located_reported : ∃ reported : List Token,
    reported.Sublist (tokens.take (Parser.ofTokens tokens .closed).readBlock.2.position) ∧
      located.map Diagnostic.span = reported.map Token.span
  located_ascending : Span.Ascending (located.map Diagnostic.span)
  /-- An unmatched brace is remarked on once, last, and without remarks on the end. -/
  unbalanced_last : ∀ d ∈ located, d.kind = .unbalancedBrace →
    ends = [] ∧ ∃ before, located = before ++ [d] ∧ ∀ e ∈ before, e.kind ≠ .unbalancedBrace
  ends_place : ∀ d ∈ ends, d.kind = .unexpectedEnd ∧
    ∃ last ∈ tokens.getLast?, d.span = Span.at last.span.stop
  /-- A closing brace is expected for each function body that was opened and not closed. -/
  ends_brace : ends.countP (fun d => d.message = "Expected `\x7d` before end of input") =
    BlockState.unclosed (blockReader.trace .start tokens)
  running_kind : ∀ d ∈ running, d.OfRunning

namespace Session

/-- The remarks on a source fall into their stages. -/
lemma staging_report (session : Session) (source : String) :
    ∃ ends, (session.report source).parsing =
        blockReader.located .start (session.report source).tokens ++ ends ∧
      Staging (session.report source).tokens (session.report source).lexing
        (blockReader.located .start (session.report source).tokens) ends
        (session.report source).running := by
  have hascending : Span.Ascending ((session.report source).tokens.map Token.span) :=
    Lexer.ascending_readAll source session.config.onUnknown .fresh
  have hunknown := lexing_report session source
  rw [Lexer.filterMap_unknownCharacter?] at hunknown
  have hparsing := parsing_report session source
  have hrunning := running_report session source
  generalize (session.report source).tokens = tokens at *
  obtain ⟨ends, hremarks, hunbalanced, hplace, hbrace⟩ := BlockState.exists_ends tokens
  have hspans : (blockReader.located .start tokens).map Diagnostic.span =
      (blockReader.reported .start tokens).map Token.span :=
    Reader.map_span_located (fun _ _ _ h => (BlockState.remark?_cases h).2) _ _
  have hreported : (blockReader.reported .start tokens).Sublist
      (tokens.take (Parser.ofTokens tokens .closed).readBlock.2.position) := by
    have hsublist := blockReader.reported_sublist (Token.endOf tokens) .start tokens
    have hposition : (Parser.ofTokens tokens .closed).readBlock.2.position =
        (blockReader.read (Token.endOf tokens) .start tokens).consumed := Nat.zero_add _
    rwa [hposition]
  refine ⟨ends, hparsing.trans hremarks, ?_⟩
  constructor
  case unknown_eq => exact hunknown
  case unknown_ascending =>
    rw [hunknown, List.map_map]
    exact hascending.sublist (List.filter_sublist.map Token.span)
  case located_kind =>
    intro d hd
    obtain ⟨visit, -, hremark⟩ := List.mem_filterMap.1 hd
    obtain ⟨hkind, -⟩ := BlockState.remark?_cases hremark
    exact hkind.imp_right (Or.imp_right And.left)
  case located_reported => exact ⟨_, hreported, hspans⟩
  case located_ascending =>
    rw [hspans]
    exact hascending.sublist ((hreported.trans (List.take_sublist _ _)).map Token.span)
  case unbalanced_last => exact hunbalanced
  case ends_place => exact hplace
  case ends_brace => exact hbrace
  case running_kind =>
    rw [hrunning]
    exact ofRunning_runBlock _ _ _ _

/-- The remarks on a source that comes to a value are, in this order, those on characters, on tokens,
on the end of the tokens and on the run of the program. -/
theorem diagnostics_of_run_staged (session : Session) (source : String) (answer : Answer)
    (h : session.run source = .ok answer ∨ (session.extend source).1 = .ok answer) :
    ∃ unknown located ends running,
      answer.diagnostics = unknown ++ located ++ ends ++ running ∧
      Staging (Lexer.ofSource source session.config.onUnknown .fresh).readAll.1
        unknown located ends running := by
  have hanswer : (session.extend source).1 = .ok answer := by
    rcases h with h | h
    · exact h
    · exact h
  obtain ⟨ends, hparsing, hstaging⟩ := staging_report session source
  refine ⟨_, _, ends, _, ?_, hstaging⟩
  rw [extend_eq] at hanswer
  cases hresult : (runBlock session.enter session.environment
      (session.report source).program).result with
  | error fault => simp [hresult, Except.map] at hanswer
  | ok value =>
    simp only [hresult, Except.map, Except.ok.injEq] at hanswer
    rw [← hanswer, hparsing]
    simp only [List.append_assoc]

/-- A source with remarks of all stages, in which two function bodies and a call are left open. -/
theorem diagnostics_of_run_staged_open :
    let session : Session := { config := { onUnknown := .recover } }
    let source := "é a b; function f() \x7b function g() \x7b h("
    ∃ answer, session.run source = .ok answer ∧
      answer.diagnostics.map Diagnostic.kind =
        [.unknownCharacter, .skippedToken, .missingOperator, .unexpectedEnd, .unexpectedEnd,
          .unexpectedEnd, .undefinedIdentifier] ∧
      ∃ unknown located ends running,
        answer.diagnostics = unknown ++ located ++ ends ++ running ∧
        Staging (Lexer.ofSource source session.config.onUnknown .fresh).readAll.1
          unknown located ends running := by
  intro session source
  have hkinds : (session.run source).toOption.map (·.diagnostics.map Diagnostic.kind) =
      some [.unknownCharacter, .skippedToken, .missingOperator, .unexpectedEnd, .unexpectedEnd,
        .unexpectedEnd, .undefinedIdentifier] := by decide +kernel
  cases hrun : session.run source with
  | error fault => simp [hrun, Except.toOption] at hkinds
  | ok answer =>
    simp only [hrun, Except.toOption, Option.map_some, Option.some.injEq] at hkinds
    exact ⟨answer, rfl, hkinds, diagnostics_of_run_staged session source answer (Or.inl hrun)⟩

end Session

end Summand
