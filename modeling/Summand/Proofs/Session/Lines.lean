import Summand.Proofs.Evaluation.Steps
import Summand.Proofs.Program.Continuation
import Summand.Proofs.Session.Stages

/-!
# Line by line

A session can be given the lines of a text one after the other or all at once.  The two come to the
same, if each line is a number of whole statements and is run to its end: the tokens of the text are
those of its lines with line breaks in between (`lexemes_intercalate_cons`), its program is made up
of the programs of the lines (`exists_advances_lines`), and the lines are run one behind the other
(`steps_lines`).  The main statement is `extend_intercalate`.
-/

namespace Summand

/-! ## Reports on lines -/

namespace Session

/-- The reports on lines that are run one after the other. -/
def reports : Session → List String → List Report
  | _, [] => []
  | session, line :: lines => session.report line :: reports (session.extend line).2 lines

/-- The session that has run the lines one after the other. -/
def after (session : Session) (lines : List String) : Session :=
  lines.foldl (fun session line => (session.extend line).2) session

/-- Running lines keeps the configuration. -/
lemma config_after (session : Session) (lines : List String) :
    (session.after lines).config = session.config := by
  induction lines generalizing session with
  | nil => rfl
  | cons line lines ih => exact ih (session.extend line).2

end Session

namespace Report

/-- The program has a statement that gives it a value. -/
def yields (report : Report) : Bool :=
  report.program.any Stmt.yields

/-- Neither the end of the source nor an unmatched brace has been remarked on. -/
def Complete (report : Report) : Prop :=
  ∀ d ∈ report.parsing, d.kind ≠ .unexpectedEnd ∧ d.kind ≠ .unbalancedBrace

/-- The value of the source, undefined if it was not run to its end. -/
def value (report : Report) : Value :=
  match report.answer with
  | .ok answer => answer.value
  | .error _ => .undefined

/-- The value of the last of the sources whose program has a statement that gives it one. -/
def lastValue? (reports : List Report) : Option Value :=
  (reports.filter yields).getLast?.map value

/-- The value of the first source counts if no other source has one. -/
lemma getD_lastValue?_cons (report : Report) (reports : List Report) (v : Value) :
    (lastValue? (report :: reports)).getD v =
      (lastValue? reports).getD (if report.yields then report.value else v) := by
  unfold lastValue?
  by_cases hyields : report.yields = true
  · rw [List.filter_cons_of_pos hyields, List.getLast?_cons, if_pos hyields]
    cases (reports.filter yields).getLast? <;> rfl
  · rw [List.filter_cons_of_neg hyields, if_neg hyields]

/-- The remarks of one stage on lines, with the places that they have in the whole text when it
starts at an offset. -/
def spread (stage : Report → List Diagnostic) : Nat → List Report → List Diagnostic
  | _, [] => []
  | offset, report :: reports =>
    (stage report).map (Diagnostic.shift offset) ++
      spread stage (offset + report.source.utf8ByteSize + 1) reports

end Report

/-! ## The tokens of lines -/

/-- Placing further on is shifting. -/
lemma Token.place_eq_map_shift (offset : Nat) (ls : List (Token.Kind × String)) (position : Nat) :
    Token.place (position + offset) ls = (Token.place position ls).map (Token.shift offset) := by
  induction ls generalizing position with
  | nil => rfl
  | cons l ls ih =>
    obtain ⟨kind, text⟩ := l
    have hnext : position + offset + text.utf8ByteSize = position + text.utf8ByteSize + offset :=
      Nat.add_right_comm position offset text.utf8ByteSize
    rw [Token.place_cons, Token.place_cons, List.map_cons, hnext, ih]
    rfl

/-- The remark on an unknown character is shifted with it. -/
lemma Token.unknownCharacter?_shift (offset : Nat) (t : Token) :
    (t.shift offset).unknownCharacter? = t.unknownCharacter?.map (Diagnostic.shift offset) := by
  simp only [unknownCharacter?, kind_shift, text_shift, span_shift]
  rw [apply_ite (Option.map (Diagnostic.shift offset))]
  rfl

namespace Lexer

open Token.Kind

/-- The tokens of a text further on are those at its start, shifted. -/
lemma placed_eq_map_shift (offset : Nat) (text : String) :
    placed offset text = (placed 0 text).map (Token.shift offset) := by
  have hplace := Token.place_eq_map_shift offset (lexemes text.toList) 0
  rwa [Nat.zero_add] at hplace

/-- The tokens of a text are those of its first line, a line break and those of the other lines. -/
lemma lexemes_intercalate_cons {line : String} (hline : '\r' ∉ line.toList) (next : String)
    (lines : List String) :
    lexemes ("\n".intercalate (line :: next :: lines)).toList =
      lexemes line.toList ++
        (.lineBreak, "\n") :: lexemes ("\n".intercalate (next :: lines)).toList := by
  have htext : ("\n".intercalate (line :: next :: lines)).toList =
      line.toList ++ '\n' :: ("\n".intercalate (next :: lines)).toList := by
    rw [String.intercalate_cons_cons, String.toList_append, String.toList_append,
      List.append_assoc]
    rfl
  have hseam : Seam line.toList '\n' := ⟨by decide +kernel, by decide, by decide, fun _ => hline⟩
  rw [htext, lexemes_append_of_seam _ hseam]
  exact congrArg (lexemes line.toList ++ ·) (lexemes_append_of_begins (begins_lineFeed _))

/-- The tokens of a text are those of its first line, a line break and those of the other lines, each
in its place. -/
lemma placed_intercalate_cons {line : String} (hline : '\r' ∉ line.toList) (next : String)
    (lines : List String) (offset : Nat) :
    placed offset ("\n".intercalate (line :: next :: lines)) =
      placed offset line ++ ⟨.lineBreak, "\n", offset + line.utf8ByteSize⟩ ::
        placed (offset + line.utf8ByteSize + 1) ("\n".intercalate (next :: lines)) := by
  have hsize : (String.join ((lexemes line.toList).map Prod.snd)).utf8ByteSize =
      line.utf8ByteSize := by
    rw [join_lexemes, String.ofList_toList]
  unfold placed
  rw [lexemes_intercalate_cons hline, Token.place_append, hsize]
  rfl

end Lexer

namespace Session

/-- No unknown character of the source has halted the lexer. -/
def Passes (session : Session) (report : Report) : Prop :=
  session.config.onUnknown = .recover ∨ ∀ t ∈ report.tokens, t.kind ≠ .other

/-- A source that does not halt the lexer has no unknown character, or they do no harm. -/
lemma Passes.lexemes {session : Session} {source : String}
    (h : session.Passes (session.report source)) :
    session.config.onUnknown = .recover ∨ ∀ l ∈ Lexer.lexemes source.toList, l.1 ≠ .other := by
  refine h.imp_right fun hother => ?_
  have hgo : (Lexer.ofSource source session.config.onUnknown .fresh).halted = false := rfl
  exact Lexer.ne_other_of_readAll hgo hother

/-- The tokens of a source without unknown characters, or where they do no harm. -/
lemma tokens_report {session : Session} {source : String}
    (h : session.config.onUnknown = .recover ∨
      ∀ l ∈ Lexer.lexemes source.toList, l.1 ≠ .other) :
    (session.report source).tokens = Lexer.placed 0 source := by
  have hread := Lexer.readAll_eq (Lexer.ofSource source session.config.onUnknown .fresh) rfl h
  exact congrArg Prod.fst hread

/-- The remarks on the characters of a line are the same further on, apart from their places. -/
lemma Passes.filterMap_placed {session : Session} {line : String}
    (h : session.Passes (session.report line)) (offset : Nat) :
    (Lexer.placed offset line).filterMap Token.unknownCharacter? =
      (session.report line).lexing.map (Diagnostic.shift offset) := by
  rw [Lexer.placed_eq_map_shift, lexing_report, tokens_report h.lexemes, List.filterMap_map, List.map_filterMap]
  congr 1
  funext t
  exact Token.unknownCharacter?_shift offset t

/-- The remarks on the characters of a text are those on its lines. -/
lemma filterMap_placed_lines {session : Session} {lines : List String}
    (hlines : ∀ line ∈ lines, '\r' ∉ line.toList)
    (hpass : ∀ report ∈ session.reports lines, session.Passes report) (offset : Nat) :
    (Lexer.placed offset ("\n".intercalate lines)).filterMap Token.unknownCharacter? =
      Report.spread Report.lexing offset (session.reports lines) := by
  induction lines generalizing session offset with
  | nil => simp [Lexer.placed, reports, Report.spread]
  | cons line lines ih =>
    obtain ⟨hline, hlines⟩ := List.forall_mem_cons.1 hlines
    obtain ⟨hfirst, hpass⟩ := List.forall_mem_cons.1 hpass
    have hrest := ih hlines hpass (offset + line.utf8ByteSize + 1)
    cases lines with
    | nil =>
      rw [String.intercalate_singleton, hfirst.filterMap_placed]
      simp [reports, Report.spread]
    | cons next lines =>
      rw [Lexer.placed_intercalate_cons hline, List.filterMap_append, hfirst.filterMap_placed]
      exact congrArg _ hrest

/-- No line of a text halts the lexer, so the text does not do so either. -/
lemma ne_other_lines {session : Session} {lines : List String}
    (hlines : ∀ line ∈ lines, '\r' ∉ line.toList)
    (hpass : ∀ report ∈ session.reports lines, session.Passes report) :
    session.config.onUnknown = .recover ∨
      ∀ l ∈ Lexer.lexemes ("\n".intercalate lines).toList, l.1 ≠ .other := by
  induction lines generalizing session with
  | nil => exact Or.inr (by simp)
  | cons line lines ih =>
    obtain ⟨hline, hlines⟩ := List.forall_mem_cons.1 hlines
    obtain ⟨hfirst, hpass⟩ := List.forall_mem_cons.1 hpass
    cases lines with
    | nil =>
      rw [String.intercalate_singleton]
      exact hfirst.lexemes
    | cons next lines =>
      rcases hfirst.lexemes with hrecover | hfirst
      · exact Or.inl hrecover
      · refine (ih hlines hpass).imp_right fun hrest => ?_
        rw [Lexer.lexemes_intercalate_cons hline]
        intro l hl
        rcases List.mem_append.1 hl with hl | hl
        · exact hfirst l hl
        · rcases List.mem_cons.1 hl with rfl | hl
          · simp
          · exact hrest l hl

/-! ## The programs of lines -/

/-- A line that is read to its end is read in the same way further on and behind other statements. -/
lemma Passes.exists_advances {session : Session} {line : String}
    (h : session.Passes (session.report line)) (hcomplete : (session.report line).Complete)
    (offset : Nat) (before : List Stmt) :
    ∃ last : BlockState, last.missing = [] ∧
      blockReader.Advances (BlockState.start.behind before) (Lexer.placed offset line)
        ((session.report line).parsing.map (Diagnostic.shift offset)) last ∧
      last.close = before ++ (session.report line).program := by
  unfold Report.Complete at hcomplete
  rw [parsing_report] at hcomplete
  obtain ⟨last, hmissing, hadvances, hresult⟩ := BlockState.exists_advances_of_complete hcomplete
  rw [← parsing_report] at hadvances
  refine ⟨last.behind before, ?_, ?_, ?_⟩
  · rw [BlockState.missing_behind, hmissing]
  · rw [Lexer.placed_eq_map_shift, ← tokens_report h.lexemes]
    exact BlockState.advances_behind before (BlockState.advances_shift offset hadvances)
  · rw [BlockState.close_behind, program_report, hresult]

/-- The program of a text is made up of the programs of its lines, and the remarks on its tokens of
those on the tokens of the lines. -/
lemma exists_advances_lines {session : Session} {lines : List String}
    (hlines : ∀ line ∈ lines, '\r' ∉ line.toList)
    (hpass : ∀ report ∈ session.reports lines, session.Passes report)
    (hcomplete : ∀ report ∈ session.reports lines, report.Complete) (offset : Nat)
    (before : List Stmt) :
    ∃ last : BlockState, last.missing = [] ∧
      blockReader.Advances (BlockState.start.behind before)
        (Lexer.placed offset ("\n".intercalate lines))
        (Report.spread Report.parsing offset (session.reports lines)) last ∧
      last.close = before ++ (session.reports lines).flatMap Report.program := by
  induction lines generalizing session offset before with
  | nil =>
    refine ⟨BlockState.start.behind before, rfl, ?_, ?_⟩
    · rw [String.intercalate_nil]
      simp only [Lexer.placed, String.toList_empty, Lexer.lexemes_nil, Token.place_nil]
      exact .refl _
    · rw [BlockState.close_behind]
      rfl
  | cons line lines ih =>
    obtain ⟨hline, hlines⟩ := List.forall_mem_cons.1 hlines
    obtain ⟨hfirst, hpass⟩ := List.forall_mem_cons.1 hpass
    obtain ⟨hwhole, hcomplete⟩ := List.forall_mem_cons.1 hcomplete
    obtain ⟨middle, hmissing, hadvances, hclose⟩ := hfirst.exists_advances hwhole offset before
    cases lines with
    | nil =>
      refine ⟨middle, hmissing, ?_, ?_⟩
      · rw [String.intercalate_singleton]
        simpa [reports, Report.spread] using hadvances
      · simpa [reports] using hclose
    | cons next lines =>
      have hbreak : blockReader.Advances middle [⟨.lineBreak, "\n", offset + line.utf8ByteSize⟩] []
        (BlockState.start.behind middle.close) := BlockState.advances_lineBreak hmissing rfl
      -- The other lines are read behind the statements up to here, which stay in front.
      obtain ⟨last, hlast, hrest, hbody⟩ := ih hlines hpass hcomplete
        (offset + line.utf8ByteSize + 1) middle.close
      refine ⟨last, hlast, ?_, ?_⟩
      · rw [Lexer.placed_intercalate_cons hline]
        exact hadvances.trans (hbreak.trans hrest)
      · rw [hbody, hclose, List.append_assoc]
        rfl

/-- What the text is read as, and the remarks on its tokens. -/
lemma parsing_program_lines {session : Session} {lines : List String}
    (hlines : ∀ line ∈ lines, '\r' ∉ line.toList)
    (hpass : ∀ report ∈ session.reports lines, session.Passes report)
    (hcomplete : ∀ report ∈ session.reports lines, report.Complete) :
    (session.report ("\n".intercalate lines)).parsing =
        Report.spread Report.parsing 0 (session.reports lines) ∧
      (session.report ("\n".intercalate lines)).program =
        (session.reports lines).flatMap Report.program := by
  have htokens := tokens_report (ne_other_lines hlines hpass)
  obtain ⟨last, hmissing, hadvances, hclose⟩ :=
    exists_advances_lines hlines hpass hcomplete 0 []
  have hread := hadvances.read_eq (Token.endOf (session.report ("\n".intercalate lines)).tokens)
  rw [← htokens] at hread
  constructor
  · rw [parsing_report]
    refine (congrArg Reading.remarks hread).trans ?_
    simp [blockReader, hmissing]
  · rw [program_report]
    exact (congrArg Reading.result hread).trans hclose

/-! ## The runs of lines -/

/-- What a line that is run to its end comes to is what its report says. -/
lemma runBlock_of_answer {session : Session} {line : String} {answer : Answer}
    (h : (session.report line).answer = .ok answer) :
    runBlock session.enter session.environment (session.report line).program =
      ⟨(session.extend line).2.environment, .ok (session.report line).value,
        (session.report line).running⟩ := by
  have hextend := session.extend_eq line
  have hanswer : (session.report line).answer = (session.extend line).1 := rfl
  rw [running_report, Report.value, hanswer, hextend]
  rw [hanswer, hextend] at h
  cases hrun : runBlock session.enter session.environment (session.report line).program with
  | mk last result remarks =>
    rw [hrun] at h
    cases result with
    | ok v => rfl
    | error fault => simp [Except.map] at h

/-- Lines that are run to their ends one after the other are run in one go in the same way. -/
lemma steps_lines {session : Session} {lines : List String}
    (hanswers : ∀ report ∈ session.reports lines, ∃ answer, report.answer = .ok answer)
    (v : Value) :
    (Run.ofValue session.environment v).steps session.enter
        ((session.reports lines).flatMap Report.program) =
      ⟨(session.after lines).environment,
        .ok ((Report.lastValue? (session.reports lines)).getD v),
        (session.reports lines).flatMap Report.running⟩ := by
  induction lines generalizing session v with
  | nil => rfl
  | cons line lines ih =>
    obtain ⟨⟨answer, hanswer⟩, hanswers⟩ := List.forall_mem_cons.1 hanswers
    have hline : (Run.ofValue session.environment v).steps session.enter
        (session.report line).program =
          (Run.ofValue (session.extend line).2.environment
            (if (session.report line).yields then (session.report line).value else v)).prepend
              (session.report line).running := by
      have hrun : (Run.ofValue session.environment .undefined).steps session.enter
        (session.report line).program = _ := runBlock_of_answer hanswer
      rw [Run.steps_ofValue, hrun]
      simp [Run.ofValue, Run.prepend, Except.map, Report.yields]
    -- Running a line changes the bindings only, so functions are entered as before.
    have henter : session.enter = (session.extend line).2.enter := rfl
    simp only [reports, List.flatMap_cons]
    rw [Run.steps_append, hline, Run.steps_prepend, henter, ih hanswers,
      Report.getD_lastValue?_cons]
    rfl

/-! ## The whole text -/

/-- If no line holds a carriage return, no line halts the lexer, the end of no line and no unmatched
brace is remarked on, and each line is run to its end when they are run one after the other, then the
text of all lines is run to its end as well.  It leads to the same session; it has the value of the
last line with a statement that gives it one; and the remarks on characters, those on tokens and
those made while running are each time those on the lines, in the places that they have in the
text. -/
theorem extend_intercalate (session : Session) (lines : List String)
    (hlines : ∀ line ∈ lines, '\r' ∉ line.toList)
    (hpolicy : session.config.onUnknown = .recover ∨
      ∀ report ∈ session.reports lines, ∀ t ∈ report.tokens, t.kind ≠ .other)
    (hcomplete : ∀ report ∈ session.reports lines, ∀ d ∈ report.parsing,
      d.kind ≠ .unexpectedEnd ∧ d.kind ≠ .unbalancedBrace)
    (hanswers : ∀ report ∈ session.reports lines, ∃ answer, report.answer = .ok answer) :
    session.extend ("\n".intercalate lines) =
      (.ok ⟨(Report.lastValue? (session.reports lines)).getD .undefined,
        Report.spread Report.lexing 0 (session.reports lines) ++
          Report.spread Report.parsing 0 (session.reports lines) ++
          (session.reports lines).flatMap Report.running⟩,
        session.after lines) := by
  have hpass : ∀ report ∈ session.reports lines, session.Passes report :=
    fun report hreport => hpolicy.imp_right fun h => h report hreport
  have htokens := tokens_report (ne_other_lines hlines hpass)
  obtain ⟨hparsing, hprogram⟩ := parsing_program_lines hlines hpass hcomplete
  have hlexing : (session.report ("\n".intercalate lines)).lexing =
      Report.spread Report.lexing 0 (session.reports lines) := by
    rw [lexing_report, htokens, filterMap_placed_lines hlines hpass]
  have hrun : runBlock session.enter session.environment
      (session.report ("\n".intercalate lines)).program =
        ⟨(session.after lines).environment,
          .ok ((Report.lastValue? (session.reports lines)).getD .undefined),
          (session.reports lines).flatMap Report.running⟩ := by
    rw [hprogram]
    exact steps_lines hanswers .undefined
  have hafter : { session with environment := (session.after lines).environment } =
      session.after lines := by
    rw [← config_after session lines]
  rw [extend_eq, running_report, hrun, hlexing, hparsing, hafter]
  rfl

/-- A function, then its value behind an unknown character, then an expression that the end of the
line cuts off behind an operator. -/
theorem extend_intercalate_three :
    let session : Session := { config := { onUnknown := .recover } }
    let lines := ["function f() \x7b g; \x7d", "é f", "let x = y +"]
    ∃ answer, session.extend ("\n".intercalate lines) = (.ok answer, session.after lines) ∧
      answer.value.text = "<fn f>" ∧
      answer.diagnostics =
        [⟨.unknownCharacter, "No rule matches `é`", ⟨20, 22⟩⟩,
          ⟨.skippedToken, "Unexpected `é`", ⟨20, 22⟩⟩,
          .whileRunning .undefinedIdentifier "`y` is not bound"] := by
  intro session lines
  have hanswers : ∀ report ∈ session.reports lines, ∃ answer, report.answer = .ok answer := by
    have hok : ∀ report ∈ session.reports lines, report.answer.isOk = true := by decide +kernel
    intro report hreport
    have hreport := hok report hreport
    cases h : report.answer with
    | ok answer => exact ⟨answer, rfl⟩
    | error fault => simp [h, Except.isOk, Except.toBool] at hreport
  refine ⟨_, extend_intercalate session lines (by decide +kernel) (Or.inl rfl) (by decide +kernel)
    hanswers, ?_, ?_⟩
  · decide +kernel
  · decide +kernel

end Session

end Summand
