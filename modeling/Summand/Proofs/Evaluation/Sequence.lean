import Summand.Proofs.Evaluation.Steps

/-!
# Statements in sequence

A list of statements can be cut anywhere, and its parts run one after the other: the second part is
run in the environment that the first one leaves, unless a fault has ended the first one
(`runBlock_append`).  Only statements of the block itself bind names in its environment, because what
a function binds is lost with the copy of the environment in which its body runs (`get?_step`).

The main statement is `extend_in_sequence`, which says the same of an interpreter, and says what a
fault leaves: the bindings of the statements in front of the one that it comes from.
-/

namespace Summand

/-- The name that a statement binds in the block that it stands in. -/
def Stmt.bound? : Stmt → Option String
  | .function name _ => some name
  | .binding name _ => some name
  | .ret _ => none
  | .expression _ => none

section Sequence

variable {enter : Enter} {env : Environment}

/-! ## Two lists of statements -/

/-- The second list is run from where the run of the first one stands. -/
lemma runBlock_append (first second : List Stmt) :
    runBlock enter env (first ++ second) = (runBlock enter env first).steps enter second :=
  Run.steps_append enter _ first second

/-- Behind statements that come to a value, further statements are run in the environment that these
have left.  The value is theirs if they give one, and the remarks stand behind those before. -/
lemma runBlock_append_of_ok {first : List Stmt} {v : Value}
    (h : (runBlock enter env first).result = .ok v) (second : List Stmt) :
    runBlock enter env (first ++ second) =
      let before := runBlock enter env first
      let behind := runBlock enter before.environment second
      ⟨behind.environment, behind.result.map fun w => if second.any Stmt.yields then w else v,
        before.remarks ++ behind.remarks⟩ := by
  rw [runBlock_append]
  generalize runBlock enter env first = before at h ⊢
  obtain ⟨middle, result, remarks⟩ := before
  obtain rfl : result = .ok v := h
  have hbefore : (⟨middle, .ok v, remarks⟩ : Run) = (Run.ofValue middle v).prepend remarks := by
    simp [Run.ofValue, Run.prepend]
  rw [hbefore, Run.steps_prepend, Run.steps_ofValue]
  simp [Run.prepend, Run.ofValue, runBlock]

/-- Behind statements that a fault has ended, nothing is run. -/
lemma runBlock_append_of_error {first : List Stmt} {fault : Fault}
    (h : (runBlock enter env first).result = .error fault) (second : List Stmt) :
    runBlock enter env (first ++ second) = runBlock enter env first := by
  rw [runBlock_append, Run.steps_of_error h]

/-- A statement whose expression comes to a fault ends the block, with the bindings of the statements
in front of it. -/
lemma runBlock_of_evaluate_error {finished unfinished : List Stmt} {s : Stmt} {e : Expr} {v : Value}
    {fault : Fault} (hs : s.expr? = some e) (hfinished : (runBlock enter env finished).result = .ok v)
    (hfault : (evaluate enter (runBlock enter env finished).environment e).result = .error fault) :
    runBlock enter env (finished ++ s :: unfinished) =
      ⟨(runBlock enter env finished).environment, .error fault,
        (runBlock enter env finished).remarks ++
          (evaluate enter (runBlock enter env finished).environment e).remarks⟩ := by
  have hblock : runBlock enter (runBlock enter env finished).environment (s :: unfinished) =
      ⟨(runBlock enter env finished).environment, .error fault,
        (evaluate enter (runBlock enter env finished).environment e).remarks⟩ := by
    refine (Run.steps_of_expr? hs _ .undefined unfinished).trans ?_
    rw [hfault]
  rw [runBlock_append_of_ok hfinished]
  simp only [hblock, Except.map]

/-! ## What stays bound -/

/-- A statement leaves what a name is bound to, unless it binds the name itself. -/
lemma Run.get?_step (enter : Enter) (run : Run) (s : Stmt) (key : String) :
    (run.step enter s).environment.get? key = run.environment.get? key ∨
      s.bound? = some key ∧ ((run.step enter s).environment.get? key).isSome := by
  have hdefine (name : String) (v : Value) :
      (run.environment.define name v).get? key = run.environment.get? key ∨
        some name = some key ∧ ((run.environment.define name v).get? key).isSome := by
    by_cases hname : name = key
    · subst hname
      exact Or.inr ⟨rfl, by rw [Environment.get?_define_self, Option.isSome_some]⟩
    · exact Or.inl (Environment.get?_define_of_ne _ v hname)
  unfold step
  split
  · exact Or.inl rfl
  · cases s with
    | function name body => exact hdefine name _
    | binding name e =>
      simp only [bind]
      split
      · exact hdefine name _
      · exact Or.inl rfl
    | ret e => exact Or.inl rfl
    | expression e => exact Or.inl rfl

/-- Statements leave what a name is bound to, unless one of them binds the name; then it is bound. -/
lemma Run.get?_steps (enter : Enter) (run : Run) (body : List Stmt) (key : String) :
    (run.steps enter body).environment.get? key = run.environment.get? key ∨
      key ∈ body.filterMap Stmt.bound? ∧
        ((run.steps enter body).environment.get? key).isSome := by
  induction body using List.reverseRecOn with
  | nil => exact Or.inl rfl
  | append_singleton body s ih =>
    rw [steps_append, List.filterMap_append, List.mem_append]
    rcases get?_step enter (run.steps enter body) s key with hkeep | ⟨hbound, hsome⟩
    · rw [steps_cons, steps_nil, hkeep]
      exact ih.imp_right fun ⟨hmem, hsome⟩ => ⟨Or.inl hmem, hsome⟩
    · exact Or.inr ⟨Or.inr (List.mem_filterMap.2 ⟨s, List.mem_singleton_self s, hbound⟩), hsome⟩

end Sequence

/-! ## Interpreters -/

namespace Interpreter

/-- Runs statements and then, if they come to a value, others in the environment that is left.  The
value of the first ones stands if the second ones give none. -/
def extendTwice (interpreter : Interpreter) (first second : List Stmt) (env : Environment) :
    Except Fault Value × Environment × Interpreter :=
  match interpreter.extend first env with
  | (.error fault, last, after) => (.error fault, last, after)
  | (.ok v, middle, between) =>
    let (result, last, after) := between.extend second middle
    (result.map fun w => if second.any Stmt.yields then w else v, last, after)

/-- Telling remarks does not change how functions are entered. -/
lemma enter_tell (interpreter : Interpreter) (remarks : List Diagnostic) :
    (interpreter.tell remarks).enter = interpreter.enter := rfl

/-- Remarks can be told in two parts. -/
lemma tell_append (interpreter : Interpreter) (first second : List Diagnostic) :
    interpreter.tell (first ++ second) = (interpreter.tell first).tell second := by
  simp only [tell, Channel.send_append]

/-- Two lists of statements are run one after the other. -/
lemma extend_append (interpreter : Interpreter) (first second : List Stmt) (env : Environment) :
    interpreter.extend (first ++ second) env = interpreter.extendTwice first second env := by
  cases hresult : (runBlock interpreter.enter env first).result with
  | error fault =>
    simp only [extendTwice, extend, runBlock_append_of_error hresult second, hresult]
  | ok v =>
    simp only [extendTwice, extend, runBlock_append_of_ok hresult second, hresult, enter_tell,
      tell_append]

/-- Where a fault comes from: a statement in front of which all have come to a value, and whose
expression comes to the fault in the environment that these have left. -/
lemma exists_of_extend_error {interpreter after : Interpreter} {body : List Stmt}
    {env last : Environment} {fault : Fault}
    (h : interpreter.extend body env = (.error fault, last, after)) :
    ∃ i s e v between, body[i]? = some s ∧ s.expr? = some e ∧
      interpreter.extend (body.take i) env = (.ok v, last, between) ∧
      between.evaluate e last = (.error fault, after) := by
  simp only [extend, Prod.mk.injEq] at h
  obtain ⟨hresult, rfl, rfl⟩ := h
  obtain ⟨finished, s, unfinished, e, v, rfl, hs, hfinished, henv, hfault⟩ :=
    exists_of_runBlock_error hresult
  rw [← henv] at hfault ⊢
  refine ⟨finished.length, s, e, v, interpreter.tell (runBlock interpreter.enter env finished).remarks,
    by simp, hs, ?_, ?_⟩
  · rw [List.take_left, extend, hfinished]
  · rw [runBlock_of_evaluate_error hs hfinished hfault, tell_append, evaluate, enter_tell, hfault]

/-- Two lists of statements are run one after the other, and what is remarked on the second one stands
behind what is remarked on the first one.  If a fault ends the first list, then some statements at its
start come to a value, and leave the bindings that the whole list leaves; it is the expression of the
next statement that comes to the fault there.  Whatever happens, a name that is bound stays bound, and
a name that no statement of the list itself binds stays bound to the same. -/
theorem extend_in_sequence (interpreter : Interpreter) (first second : List Stmt)
    (env : Environment) :
    interpreter.extend (first ++ second) env = interpreter.extendTwice first second env ∧
    (∀ limit v middle after, extend ⟨limit, .fresh⟩ first env = (.ok v, middle, after) →
      (extend ⟨limit, .fresh⟩ (first ++ second) env).2.2.channel.pending =
        after.channel.pending ++ (extend ⟨limit, .fresh⟩ second middle).2.2.channel.pending) ∧
    (∀ fault last after, interpreter.extend first env = (.error fault, last, after) →
      ∃ i s e v between, first[i]? = some s ∧ s.expr? = some e ∧
        interpreter.extend (first.take i) env = (.ok v, last, between) ∧
        between.evaluate e last = (.error fault, after)) ∧
    ∀ key, (env.contains key → (interpreter.extend first env).2.1.contains key) ∧
      (key ∉ first.filterMap Stmt.bound? →
        (interpreter.extend first env).2.1.get? key = env.get? key) := by
  refine ⟨extend_append interpreter first second env, ?_, ?_, ?_⟩
  · intro limit v middle after hfirst
    simp only [extend, Prod.mk.injEq] at hfirst
    obtain ⟨hresult, rfl, rfl⟩ := hfirst
    simp only [extend, runBlock_append_of_ok hresult second, tell, Channel.pending_send_fresh]
  · intro fault last after hfirst
    exact exists_of_extend_error hfirst
  · intro key
    rcases Run.get?_steps interpreter.enter { environment := env } first key with
      hkeep | ⟨hbound, hsome⟩
    · refine ⟨fun hkey => ?_, fun _ => hkeep⟩
      rw [Environment.contains] at hkey ⊢
      exact hkeep.symm ▸ hkey
    · exact ⟨fun _ => hsome, fun hfree => absurd hbound hfree⟩

/-- A function that binds a name of its caller and calls itself, under a limit of one call.  The first
two statements come to a value and the third one to the fault; the name is bound as before, and what
is remarked on the first two statements together is what is remarked on each. -/
theorem extend_in_sequence_recursion :
    let one : Expr := .formula [.operand (.number "1")]
    let inner : List Stmt := [.binding "x" one, .expression (.call "f")]
    let start : List Stmt := [.function "f" inner]
    let next : List Stmt := [.binding "a" (.call "g")]
    let body := start ++ next ++ [.ret (.call "f"), .binding "a" one]
    let env := Environment.empty.define "x" .undefined
    let interpreter : Interpreter := ⟨1, .fresh⟩
    let fault := Fault.callDepthExceeded "f" 1
    "x" ∉ body.filterMap Stmt.bound? ∧
    (∃ last after, interpreter.extend body env = (.error fault, last, after) ∧
      last.contains "x" ∧ last.get? "x" = some .undefined ∧
      ∃ i s e v between, body[i]? = some s ∧ s.expr? = some e ∧
        interpreter.extend (body.take i) env = (.ok v, last, between) ∧
        between.evaluate e last = (.error fault, after)) ∧
    ∃ middle after, interpreter.extend start env = (.ok .undefined, middle, after) ∧
      (interpreter.extend (start ++ next) env).2.2.channel.pending =
        after.channel.pending ++ (interpreter.extend next middle).2.2.channel.pending := by
  intro one inner start next body env interpreter fault
  have hfree : "x" ∉ body.filterMap Stmt.bound? := by decide
  have hresult : (interpreter.extend body env).1 = .error fault := by
    simp [extend, enter, runBlock, Run.steps, Run.step, Run.yield, Run.bind, Run.outcome,
      Summand.evaluate, call, Environment.get?_define, enterWithin, body, start, next, env,
      interpreter, fault, inner, one]
  have hbody : interpreter.extend body env =
      (.error fault, (interpreter.extend body env).2.1, (interpreter.extend body env).2.2) :=
    Prod.ext hresult rfl
  obtain ⟨-, -, hcause, hkept⟩ := extend_in_sequence interpreter body [] env
  have hbound : env.contains "x" := by simp [Environment.contains, env]
  have hsame : (interpreter.extend body env).2.1.get? "x" = some .undefined := by
    rw [(hkept "x").2 hfree, Environment.get?_define_self]
  refine ⟨hfree, ⟨_, _, hbody, (hkept "x").1 hbound, hsame, hcause _ _ _ hbody⟩, ?_⟩
  have hstart : interpreter.extend start env = (.ok .undefined,
      env.define "f" (.function "f" inner), interpreter) := rfl
  obtain ⟨-, hpending, -, -⟩ := extend_in_sequence interpreter start next env
  exact ⟨_, _, hstart, hpending 1 _ _ _ hstart⟩

end Interpreter

end Summand
