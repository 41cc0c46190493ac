import Summand.Proofs.Evaluation.Naming
import Summand.Proofs.Session.Stages
import Summand.Proofs.Token.Coverage

/-!
# One line for each remark

Whatever sources a session has been given, each remark, each value and each fault that it comes to is
printed on one line.  For the remarks on characters and tokens this follows from how tokens are
spelled.  For what is made while running it rests on an invariant of sessions: the bindings that are
kept are as `Environment.Named` asks.  The main statement is `reached_prints_on_one_line`.
-/

namespace Summand

open Text Token.Kind

/-! ## Remarks on characters and tokens -/

/-- A remark on a character is on one line: line ends are blanks, and blanks have patterns. -/
lemma Token.oneLine_unknownCharacter? {t : Token} (ht : Spells t.kind t.text.toList)
    {d : Diagnostic} (h : t.unknownCharacter? = some d) : OneLine d.text := by
  simp only [unknownCharacter?, Option.ite_none_right_eq_some, Option.some.injEq] at h
  obtain ⟨hkind, rfl⟩ := h
  rw [hkind] at ht
  have htext : OneLine t.text := by
    intro c hc
    have hblank := (ht.2 c hc).2.1
    rw [Bool.eq_false_iff] at hblank ⊢
    exact fun hend => hblank (isBlank_of_isLineEnd hend)
  apply Diagnostic.oneLine_text
  simp only [oneLine_append]
  exact ⟨⟨by decide, htext⟩, by decide⟩

/-- The remark on a token that is passed over is on one line, as it shows the text escaped. -/
lemma Token.oneLine_skipped? {t : Token} {d : Diagnostic} (h : t.skipped? = some d) :
    OneLine d.text := by
  simp only [skipped?, Option.ite_none_left_eq_some, Option.some.injEq] at h
  obtain ⟨-, rfl⟩ := h
  apply Diagnostic.oneLine_text
  simp only [oneLine_append]
  exact ⟨⟨by decide, oneLine_shown t.text⟩, by decide⟩

namespace BlockState

/-- A remark on a token is on one line. -/
lemma oneLine_remark? {s : BlockState} {t : Token} (ht : Spells t.kind t.text.toList)
    {d : Diagnostic} (h : s.remark? t = some d) : OneLine d.text := by
  rcases remark?_forms h with hskipped | ⟨rfl, x, hrole⟩ | ⟨rfl, -⟩
  · exact Token.oneLine_skipped? hskipped
  · have hx := role_eq_operand_iff.1 hrole
    have htext : OneLine t.text := by
      rw [← text_of_ofToken? hx]
      exact oneLine_of_isCallee (Operand.spelled_of_ofToken? ht hx).isCallee
    apply Diagnostic.oneLine_text
    simp only [ExprState.missingOperator, oneLine_append]
    exact ⟨⟨by decide, htext⟩, by decide⟩
  · have hmessage : OneLine "Unmatched `\x7d` ends the program" := by decide
    exact Diagnostic.oneLine_text hmessage

/-- What is missing is named on one line. -/
lemma oneLine_missing (s : BlockState) : ∀ expected ∈ s.missing, OneLine expected := by
  unfold missing missingHere
  rw [List.forall_mem_append]
  constructor
  · cases s.mode with
    | statement => exact List.forall_mem_nil _
    | functionName text => exact List.forall_mem_singleton.2 (by decide)
    | functionHead name => exact List.forall_mem_singleton.2 (by decide)
    | bindingName => exact List.forall_mem_singleton.2 (by decide)
    | bindingEquals name => exact List.forall_mem_singleton.2 (by decide)
    | expression purpose state =>
      cases state with
      | formula draft => exact List.forall_mem_nil _
      | arguments callee => exact List.forall_mem_singleton.2 (by decide)
  · intro expected hexpected
    obtain ⟨frame, -, rfl⟩ := List.mem_map.1 hexpected
    decide

/-- All remarks on tokens are on one line each. -/
lemma oneLine_remarks_read (offset : Nat) (s : BlockState) {tokens : List Token}
    (h : ∀ t ∈ tokens, Spells t.kind t.text.toList) :
    ∀ d ∈ (blockReader.read offset s tokens).remarks, OneLine d.text := by
  induction tokens generalizing s with
  | nil =>
    intro d hd
    obtain ⟨expected, hexpected, rfl⟩ := List.mem_map.1 hd
    apply Diagnostic.oneLine_text
    simp only [Diagnostic.unexpectedEnd, oneLine_append]
    exact ⟨⟨by decide, s.oneLine_missing expected hexpected⟩, by decide⟩
  | cons t rest ih =>
    rw [List.forall_mem_cons] at h
    have hremark : ∀ d ∈ (blockReader.remark? s t).toList, OneLine d.text :=
      fun d hd => oneLine_remark? h.1 (Option.mem_toList.1 hd)
    rw [Reader.read]
    split
    · exact hremark
    · exact List.forall_mem_append.2 ⟨hremark, ih _ h.2⟩

end BlockState

/-! ## Sessions -/

namespace Session

/-- What a session can be asked to do with a source. -/
inductive Input where
  | run (source : String)
  | extend (source : String)

/-- The session behind an input. -/
def handle (session : Session) : Input → Session
  | .run _ => session
  | .extend source => (session.extend source).2

/-- The session that starts without bindings and has handled the inputs. -/
def reached (config : Config) (inputs : List Input) : Session :=
  inputs.foldl handle { config }

/-- The tokens of a report are spelled. -/
lemma spells_of_mem_report (session : Session) (source : String) :
    ∀ t ∈ (session.report source).tokens, Spells t.kind t.text.toList :=
  fun _ ht => Lexer.spells_of_mem_readAll ht

/-- In a session with the right bindings, running a source is plain. -/
lemma plain_report {session : Session} (h : session.environment.Named) (source : String) :
    let run := runBlock session.enter session.environment (session.report source).program
    run.environment.Named ∧ Invariant.plain.Allows run.outcome := by
  have hspelled : Stmt.SpelledAll (session.report source).program := by
    rw [program_report]
    exact BlockState.spelledAll_read _ (session.spells_of_mem_report source)
  exact Invariant.plain.kept_runBlock session.config.callLimit session.config.callLimit h hspelled

/-- The bindings stay as they have to be. -/
lemma named_handle {session : Session} (h : session.environment.Named) (input : Input) :
    (session.handle input).environment.Named := by
  cases input with
  | run source => exact h
  | extend source =>
    rw [handle, extend_eq]
    exact (plain_report h source).1

/-- In every session that is reached the bindings are as they have to be. -/
lemma named_reached (config : Config) (inputs : List Input) :
    (reached config inputs).environment.Named := by
  have hfold (session : Session) (h : session.environment.Named) :
      (inputs.foldl handle session).environment.Named := by
    induction inputs generalizing session with
    | nil => exact h
    | cons input inputs ih => exact ih (session.handle input) (named_handle h input)
  exact hfold { config } Environment.named_empty

/-- The remarks of all stages are on one line each. -/
lemma oneLine_report {session : Session} (h : session.environment.Named) (source : String) :
    ∀ d ∈ (session.report source).lexing ++ (session.report source).parsing ++
      (session.report source).running, OneLine d.text := by
  have hspells := session.spells_of_mem_report source
  rw [lexing_report, parsing_report, running_report, List.forall_mem_append,
    List.forall_mem_append]
  refine ⟨⟨?_, BlockState.oneLine_remarks_read _ _ hspells⟩, ?_⟩
  · intro d hd
    obtain ⟨t, ht, hremark⟩ := List.mem_filterMap.1 hd
    exact Token.oneLine_unknownCharacter? (hspells t ht) hremark
  · exact (plain_report h source).2.remarks

/-- A session that starts without bindings prints on one line whatever it comes to, whichever sources
it has been given before: every remark, so that a log has as many lines as remarks, every value and
every fault.  A function that it returns, or that it keeps under a name, has a name. -/
theorem reached_prints_on_one_line (config : Config) (inputs : List Input) (source : String) :
    let session := reached config inputs
    (∀ d ∈ (session.report source).lexing ++ (session.report source).parsing ++
      (session.report source).running, OneLine d.text) ∧
    (∀ answer, session.run source = .ok answer ∨ (session.extend source).1 = .ok answer →
      (∀ d ∈ answer.diagnostics, OneLine d.text) ∧
      (Log.empty.reportAll answer.diagnostics).text.toList.count '\n' = answer.diagnostics.length ∧
      OneLine answer.value.text ∧
      ∀ name body, answer.value = .function name body → IsName name.toList) ∧
    (∀ fault, session.run source = .error fault ∨ (session.extend source).1 = .error fault →
      OneLine fault.message) ∧
    ∀ key name body, IsName key.toList →
      session.environment.get? key = some (.function name body) → IsName name.toList := by
  intro session
  have hnamed : session.environment.Named := named_reached config inputs
  obtain ⟨-, hplain⟩ := plain_report hnamed source
  have hremarks := oneLine_report hnamed source
  have hrun : session.run source = (session.extend source).1 := rfl
  rw [hrun, extend_eq]
  simp only [or_self]
  refine ⟨hremarks, ?_, ?_, ?_⟩
  · intro answer hanswer
    cases hresult : (runBlock session.enter session.environment
        (session.report source).program).result with
    | error fault => simp [hresult, Except.map] at hanswer
    | ok v =>
      simp only [hresult, Except.map, Except.ok.injEq] at hanswer
      subst hanswer
      have hname : ∀ name body, v = .function name body → IsName name.toList := by
        rintro name body rfl
        exact (hplain.value _ hresult).1
      refine ⟨hremarks, Log.count_lineFeed_text hremarks, ?_, hname⟩
      exact Value.oneLine_text fun name body heq => oneLine_of_isName (hname name body heq)
  · intro fault hfault
    cases hresult : (runBlock session.enter session.environment
        (session.report source).program).result with
    | ok v => simp [hresult, Except.map] at hfault
    | error fault' =>
      simp only [hresult, Except.map, Except.error.injEq] at hfault
      subst hfault
      exact hplain.fault fault' hresult
  · intro key name body hkey hbound
    exact (hnamed key name body hbound).2 hkey

/-- A session that keeps a function with a line break in its name, and another one under two names:
it comes to a value with a remark, and to a fault. -/
theorem reached_prints_on_one_line_oddName :
    let session := reached { callLimit := 1 }
      [.extend "function a\nb()\x7b\x7d function f()\x7bf()\x7d let g = f", .run "g"]
    (session.environment.get? "a\nb").map Value.text = some "<fn a\nb>" ∧
    (∃ answer, session.run "b; g" = .ok answer ∧ answer.diagnostics.length = 1 ∧
      (∀ d ∈ answer.diagnostics, OneLine d.text) ∧ answer.value.text = "<fn f>" ∧
      OneLine answer.value.text) ∧
    (∃ fault, session.run "g()" = .error fault ∧ OneLine fault.message) ∧
    IsName "g".toList ∧
    ∃ name body, session.environment.get? "g" = some (.function name body) ∧ IsName name.toList := by
  intro session
  obtain ⟨hodd, hvalue, hfault, hbound⟩ :
      (session.environment.get? "a\nb").map Value.text = some "<fn a\nb>" ∧
      (session.run "b; g").toOption.map (fun answer =>
        (answer.diagnostics.length, answer.value.text)) = some (1, "<fn f>") ∧
      (session.run "g()").toOption.isNone = true ∧
      (session.environment.get? "g").any (fun v => v.number?.isNone && !v.isUndefined) = true := by
    decide +kernel
  have hname : IsName "g".toList := by decide
  refine ⟨hodd, ?_, ?_, hname, ?_⟩
  · cases hrun : session.run "b; g" with
    | error fault => simp [hrun, Except.toOption] at hvalue
    | ok answer =>
      simp only [hrun, Except.toOption, Option.map_some, Option.some.injEq, Prod.mk.injEq] at hvalue
      obtain ⟨hremarks, -, hline, -⟩ :=
        (reached_prints_on_one_line _ _ "b; g").2.1 answer (Or.inl hrun)
      exact ⟨answer, rfl, hvalue.1, hremarks, hvalue.2, hline⟩
  · cases hrun : session.run "g()" with
    | ok answer => simp [hrun, Except.toOption] at hfault
    | error fault =>
      exact ⟨fault, rfl, (reached_prints_on_one_line _ _ "g()").2.2.1 fault (Or.inl hrun)⟩
  · cases hget : session.environment.get? "g" with
    | none => simp [hget] at hbound
    | some v =>
      cases v with
      | number x => simp [hget, Value.number?] at hbound
      | undefined => simp [hget, Value.isUndefined] at hbound
      | function name body =>
        exact ⟨name, body, rfl,
          (reached_prints_on_one_line _ _ "").2.2.2 "g" name body hname hget⟩

end Session

end Summand
