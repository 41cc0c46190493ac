import Summand.Proofs.Program.Continuation

/-!
# The tokens behind the remarks

The trace of a reader lists the tokens that it consumes, each with the state in which the reader
meets it.  The trace accounts for the remarks: those on tokens come in the order of the trace, at
most one for each token (`Reader.located`), and are followed by those on the end of the tokens.

For the reader of blocks the trace also accounts for the braces.  A function body is opened in the
head of a function and closed in front of a statement, and as many functions are open as there are
bodies that have been opened and not closed (`length_frames_of_advances`).  The main statement is
`read_cases`: either the tokens run out, and then a brace is missing for each body that is not
closed, or the last token that is consumed is an unmatched brace, and nothing is missing.
-/

namespace Summand

/-! ## Traces -/

namespace Reader

variable {State Result : Type} {reader : Reader State Result}

/-- The tokens that a reader consumes, each with the state in which it is met. -/
def trace (reader : Reader State Result) : State → List Token → List (State × Token)
  | _, [] => []
  | state, t :: rest =>
    (state, t) ::
      match reader.feed state t with
      | .done _ => []
      | .more next => reader.trace next rest

/-- The remarks on the tokens that a reader consumes. -/
def located (reader : Reader State Result) (state : State) (tokens : List Token) :
    List Diagnostic :=
  (reader.trace state tokens).filterMap fun visit => reader.remark? visit.1 visit.2

/-- The tokens that a reader remarks on. -/
def reported (reader : Reader State Result) (state : State) (tokens : List Token) : List Token :=
  ((reader.trace state tokens).filter fun visit =>
    (reader.remark? visit.1 visit.2).isSome).map Prod.snd

/-- The trace goes on behind a token at which the reader is not done. -/
lemma trace_of_more {state next : State} {t : Token} (h : reader.feed state t = .more next)
    (rest : List Token) :
    reader.trace state (t :: rest) = (state, t) :: reader.trace next rest := by
  rw [trace, h]

/-- The trace ends with the token at which the reader is done. -/
lemma trace_of_done {state : State} {t : Token} {result : Result}
    (h : reader.feed state t = .done result) (rest : List Token) :
    reader.trace state (t :: rest) = [(state, t)] := by
  rw [trace, h]

/-- The trace goes through the tokens that are consumed. -/
lemma map_snd_trace (reader : Reader State Result) (offset : Nat) (state : State)
    (tokens : List Token) :
    (reader.trace state tokens).map Prod.snd =
      tokens.take (reader.read offset state tokens).consumed := by
  induction tokens generalizing state with
  | nil => rfl
  | cons t rest ih =>
    cases hfeed : reader.feed state t with
    | done result =>
      rw [trace_of_done hfeed, read, hfeed]
      rfl
    | more next =>
      rw [trace_of_more hfeed, read, hfeed, List.map_cons, ih, List.take_succ_cons]

/-- What is true of all tokens is true of those that are consumed. -/
lemma forall_mem_trace (reader : Reader State Result) (state : State) {tokens : List Token}
    {p : Token → Prop} (h : ∀ t ∈ tokens, p t) : ∀ visit ∈ reader.trace state tokens, p visit.2 := by
  intro visit hvisit
  apply h
  have hmem : visit.2 ∈ (reader.trace state tokens).map Prod.snd := List.mem_map_of_mem hvisit
  rw [reader.map_snd_trace 0] at hmem
  exact List.mem_of_mem_take hmem

/-- Only consumed tokens are remarked on, each once and in their order. -/
lemma reported_sublist (reader : Reader State Result) (offset : Nat) (state : State)
    (tokens : List Token) :
    (reader.reported state tokens).Sublist
      (tokens.take (reader.read offset state tokens).consumed) := by
  rw [← map_snd_trace]
  exact List.filter_sublist.map Prod.snd

/-- If a remark has the span of its token, then all remarks have the spans of their tokens. -/
lemma map_span_located (h : ∀ state t d, reader.remark? state t = some d → d.span = t.span)
    (state : State) (tokens : List Token) :
    (reader.located state tokens).map Diagnostic.span =
      (reader.reported state tokens).map Token.span := by
  unfold located reported
  induction reader.trace state tokens with
  | nil => rfl
  | cons visit visits ih =>
    cases hremark : reader.remark? visit.1 visit.2 with
    | none => simpa [hremark] using ih
    | some d => simpa [hremark, h _ _ _ hremark] using ih

/-- The trace of a reader that advances goes on from the state to which it has come. -/
lemma Advances.trace_append {state last : State} {tokens : List Token} {remarks : List Diagnostic}
    (h : reader.Advances state tokens remarks last) (rest : List Token) :
    reader.trace state (tokens ++ rest) =
      reader.trace state tokens ++ reader.trace last rest := by
  induction h with
  | refl state => rfl
  | token feed _ ih =>
    rw [List.cons_append, trace_of_more feed, trace_of_more feed, ih, List.cons_append]

/-- A reader advances to every state of its trace, and the rest of the trace starts there. -/
lemma exists_advances_of_trace_eq {state s : State} {tokens : List Token} {t : Token}
    {before later : List (State × Token)}
    (h : reader.trace state tokens = before ++ (s, t) :: later) :
    ∃ rest remarks, tokens = before.map Prod.snd ++ t :: rest ∧
      reader.Advances state (before.map Prod.snd) remarks s ∧
      reader.trace state (before.map Prod.snd) = before ∧
      reader.trace s (t :: rest) = (s, t) :: later := by
  induction before generalizing state tokens with
  | nil =>
    cases tokens with
    | nil => simp [trace] at h
    | cons u rest =>
      obtain ⟨rfl, rfl⟩ := Prod.mk.inj (List.cons.inj h).1
      exact ⟨rest, [], rfl, .refl state, rfl, h⟩
  | cons visit before ih =>
    cases tokens with
    | nil => simp [trace] at h
    | cons u rest =>
      cases hfeed : reader.feed state u with
      | done result =>
        rw [trace_of_done hfeed] at h
        simp at h
      | more next =>
        rw [trace_of_more hfeed, List.cons_append, List.cons.injEq] at h
        obtain ⟨rfl, hlater⟩ := h
        obtain ⟨rest', remarks, rfl, hadvances, hbefore, htrace⟩ := ih hlater
        refine ⟨rest', _, rfl, .token hfeed hadvances, ?_, htrace⟩
        rw [List.map_cons, trace_of_more hfeed, hbefore]

/-- The remarks of a reader that advances are those on the tokens of its trace. -/
lemma Advances.located_eq {state last : State} {tokens : List Token} {remarks : List Diagnostic}
    (h : reader.Advances state tokens remarks last) : reader.located state tokens = remarks := by
  induction h with
  | refl state => rfl
  | @token state next last t tokens remarks feed rest ih =>
    unfold located at ih ⊢
    rw [trace_of_more feed, List.filterMap_cons]
    cases reader.remark? state t with
    | none => exact ih
    | some d => exact congrArg (d :: ·) ih

end Reader

/-! ## Remarks on tokens -/

/-- The remark on a token that is passed over says so, and has the span of the token. -/
lemma Token.kind_span_of_skipped? {t : Token} {d : Diagnostic} (h : t.skipped? = some d) :
    d.kind = .skippedToken ∧ d.span = t.span := by
  unfold skipped? at h
  split at h
  · simp at h
  · obtain rfl := Option.some.inj h
    exact ⟨rfl, rfl⟩

/-- A token of an expression is passed over, or is an operand that lacks an operator, if there is
anything to say. -/
lemma ExprState.remark?_forms {state : ExprState} {t : Token} {d : Diagnostic}
    (h : state.remark? t = some d) :
    t.skipped? = some d ∨ d = missingOperator t ∧ ∃ x, t.role = .operand x := by
  cases state with
  | formula draft =>
    unfold remark? at h
    cases hrole : t.role with
    | operand x =>
      simp only [hrole, Option.ite_none_right_eq_some, Option.some.injEq] at h
      exact Or.inr ⟨h.2.symm, x, rfl⟩
    | sign p? => simp [hrole] at h
    | terminator => simp [hrole] at h
    | opening =>
      simp only [hrole, Option.ite_none_left_eq_some] at h
      exact Or.inl h.2
    | stray =>
      simp only [hrole] at h
      exact Or.inl h
  | arguments callee =>
    simp only [remark?, Option.ite_none_left_eq_some] at h
    exact Or.inl h.2

namespace BlockState

/-- A token is passed over, is an operand that lacks an operator, or is an unmatched brace that ends
the reading, if there is anything to say. -/
lemma remark?_forms {s : BlockState} {t : Token} {d : Diagnostic} (h : s.remark? t = some d) :
    t.skipped? = some d ∨ (d = ExprState.missingOperator t ∧ ∃ x, t.role = .operand x) ∨
      d = unbalancedBrace t ∧ ∃ result, s.feed t = .done result := by
  obtain ⟨mode, body, frames⟩ := s
  cases mode with
  | statement =>
    simp only [remark?, remarkStatement?] at h
    split at h
    case h_1 hkind =>
      simp only [Option.ite_none_right_eq_some, Bool.and_eq_true, decide_eq_true_eq,
        List.isEmpty_iff, Option.some.injEq] at h
      obtain ⟨⟨htext, rfl⟩, rfl⟩ := h
      refine Or.inr (Or.inr ⟨rfl, body, ?_⟩)
      simp [feed, feedStatement, hkind, htext, closeBrace]
    case h_6 => simp at h
    all_goals exact Or.inl h
  | functionName text =>
    simp only [remark?, Option.ite_none_right_eq_some] at h
    exact Or.inl h.2
  | functionHead name | bindingName | bindingEquals name =>
    simp only [remark?, Option.ite_none_left_eq_some] at h
    exact Or.inl h.2
  | expression purpose state => exact (ExprState.remark?_forms h).imp_right Or.inl

/-- A remark on a token says that it is passed over, that it lacks an operator, or that it is an
unmatched brace that ends the reading, and has the span of the token. -/
lemma remark?_cases {s : BlockState} {t : Token} {d : Diagnostic} (h : s.remark? t = some d) :
    (d.kind = .skippedToken ∨ d.kind = .missingOperator ∨
      d.kind = .unbalancedBrace ∧ ∃ result, s.feed t = .done result) ∧ d.span = t.span := by
  rcases remark?_forms h with hskipped | ⟨rfl, -⟩ | ⟨rfl, hdone⟩
  · obtain ⟨hkind, hspan⟩ := Token.kind_span_of_skipped? hskipped
    exact ⟨Or.inl hkind, hspan⟩
  · exact ⟨Or.inr (Or.inl rfl), rfl⟩
  · exact ⟨Or.inr (Or.inr ⟨rfl, hdone⟩), rfl⟩

/-- A reader that goes on has not met an unmatched brace. -/
lemma kind_ne_unbalancedBrace_of_advances {s last : BlockState} {tokens : List Token}
    {remarks : List Diagnostic} (h : blockReader.Advances s tokens remarks last) :
    ∀ d ∈ remarks, d.kind ≠ .unbalancedBrace := by
  induction h with
  | refl state => simp
  | @token state next last t tokens remarks feed rest ih =>
    intro d hd
    rcases List.mem_append.1 hd with hd | hd
    · obtain ⟨hkind | hkind | ⟨-, result, hdone⟩, -⟩ := remark?_cases (Option.mem_toList.1 hd)
      · simp [hkind]
      · simp [hkind]
      · have hmore : state.feed t = .more next := feed
        simp [hmore] at hdone
    · exact ih d hd

/-! ## Function bodies -/

/-- The token opens the body of a function. -/
def opensBody (s : BlockState) (t : Token) : Bool :=
  match s.mode with
  | .functionHead _ => t.text = "\x7b"
  | _ => false

/-- The token closes the body of the innermost open function, or the whole block if none is open. -/
def closesBlock (s : BlockState) (t : Token) : Bool :=
  match s.mode with
  | .statement => t.kind = .brace && t.text = "\x7d"
  | _ => false

/-- The number of function bodies that have been opened. -/
def opened (visits : List (BlockState × Token)) : Nat :=
  visits.countP fun visit => visit.1.opensBody visit.2

/-- The number of blocks that have been closed. -/
def closed (visits : List (BlockState × Token)) : Nat :=
  visits.countP fun visit => visit.1.closesBlock visit.2

/-- The number of function bodies that have been opened and not closed. -/
def unclosed (visits : List (BlockState × Token)) : Nat :=
  opened visits - closed visits

/-- A token that opens a body counts. -/
lemma opened_cons (s : BlockState) (t : Token) (visits : List (BlockState × Token)) :
    opened ((s, t) :: visits) = opened visits + if s.opensBody t then 1 else 0 :=
  List.countP_cons

/-- A token that closes a block counts. -/
lemma closed_cons (s : BlockState) (t : Token) (visits : List (BlockState × Token)) :
    closed ((s, t) :: visits) = closed visits + if s.closesBlock t then 1 else 0 :=
  List.countP_cons

/-- An expression is read inside of the same functions. -/
@[simp] lemma frames_ofExpr (s : BlockState) (purpose : Purpose)
    (progress : Progress ExprState Expr) : (s.ofExpr purpose progress).frames = s.frames := by
  cases progress <;> rfl

/-- A token that is passed over neither opens nor closes a body. -/
lemma opensBody_closesBlock_of_ignores {s : BlockState} {t : Token} (h : s.mode.Ignores t) :
    s.opensBody t = false ∧ s.closesBlock t = false := by
  obtain ⟨mode, body, frames⟩ := s
  cases mode with
  | statement => simpa [opensBody, closesBlock] using h.2.2.2.2
  | functionHead name => simpa [opensBody, closesBlock, Mode.Ignores] using h
  | functionName text | bindingName | bindingEquals name | expression purpose state =>
    exact ⟨rfl, rfl⟩

/-- One function more is open behind a token that opens a body, and one less behind a token that
closes one. -/
lemma length_frames_of_more {s next : BlockState} {t : Token} (h : s.feed t = .more next) :
    next.frames.length + (if s.closesBlock t then 1 else 0) =
      s.frames.length + (if s.opensBody t then 1 else 0) := by
  cases step_of_more h with
  | opening hmode htext => simp [closesBlock, opensBody, hmode, htext]
  | closing hmode hkind htext hinside =>
    simp [closesBlock, opensBody, hmode, hkind, htext, hinside]
  | passing hignored =>
    obtain ⟨hopens, hcloses⟩ := opensBody_closesBlock_of_ignores hignored
    rw [hopens, hcloses]
  | word hmode hkind | ret hmode hkind | binding hmode hkind | function hmode hkind =>
    simp [closesBlock, opensBody, hmode, hkind]
  | expression hmode | bound hmode | equals hmode | name hmode | parenthesis hmode =>
    simp [closesBlock, opensBody, hmode]

/-- The functions that are open are those whose bodies have been opened and not closed. -/
lemma length_frames_of_advances {s last : BlockState} {tokens : List Token}
    {remarks : List Diagnostic} (h : blockReader.Advances s tokens remarks last) :
    last.frames.length + closed (blockReader.trace s tokens) =
      s.frames.length + opened (blockReader.trace s tokens) := by
  induction h with
  | refl state => rfl
  | @token state next last t tokens remarks feed rest ih =>
    have hstep : next.frames.length + (if state.closesBlock t then 1 else 0) =
        state.frames.length + (if state.opensBody t then 1 else 0) := length_frames_of_more feed
    rw [Reader.trace_of_more feed, opened_cons, closed_cons]
    omega

/-- When an unmatched brace ends the reading, no function body has been left open. -/
lemma unclosed_of_done {before : List Token} {remarks : List Diagnostic} {last : BlockState}
    (h : blockReader.Advances .start before remarks last) {t : Token} {result : List Stmt}
    (hdone : last.feed t = .done result) :
    unclosed (blockReader.trace .start before ++ [(last, t)]) = 0 := by
  obtain ⟨-, hmode, hnil, hkind, htext⟩ := feed_done_cases hdone
  have hframes := length_frames_of_advances h
  rw [hnil] at hframes
  -- The brace is one closing too many, so that there are more of them than openings.
  have hclosed : closed (blockReader.trace .start before ++ [(last, t)]) =
      closed (blockReader.trace .start before) + 1 := by
    simp [closed, closesBlock, hmode, hkind, htext]
  have hopened : opened (blockReader.trace .start before ++ [(last, t)]) =
      opened (blockReader.trace .start before) := by
    simp [opened, opensBody, hmode]
  have hstart : start.frames = [] := rfl
  rw [hstart, List.length_nil] at hframes
  unfold unclosed
  omega

/-- A brace is missing for each function that is open, and for nothing else. -/
lemma count_missing (s : BlockState) : s.missing.count "`\x7d`" = s.frames.length := by
  have hhere : s.missingHere.count "`\x7d`" = 0 := by
    unfold missingHere
    cases s.mode with
    | expression purpose state => cases state <;> rfl
    | statement | functionName text | functionHead name | bindingName | bindingEquals name => rfl
  have hframes : (s.frames.map fun _ => "`\x7d`").count "`\x7d`" = s.frames.length := by
    rw [List.map_const', List.count_replicate_self]
  rw [missing, List.count_append, hhere, hframes, Nat.zero_add]

/-- How a block is read.  Either the tokens run out, at least one of them if anything is missing then,
and a function is open for each body that has not been closed; or the last remark is on an unmatched
brace, behind which nothing is read. -/
lemma read_cases (offset : Nat) (tokens : List Token) :
    (∃ last : BlockState,
      (blockReader.read offset .start tokens).remarks =
        blockReader.located .start tokens ++ last.missing.map (Diagnostic.unexpectedEnd offset) ∧
      (∀ d ∈ blockReader.located .start tokens, d.kind ≠ .unbalancedBrace) ∧
      last.frames.length = unclosed (blockReader.trace .start tokens) ∧
      (last.missing ≠ [] → tokens ≠ [])) ∨
    ∃ before t, blockReader.located .start tokens = before ++ [unbalancedBrace t] ∧
      (blockReader.read offset .start tokens).remarks = blockReader.located .start tokens ∧
      (∀ d ∈ before, d.kind ≠ .unbalancedBrace) ∧
      unclosed (blockReader.trace .start tokens) = 0 := by
  rcases blockReader.advances_or_done .start tokens with
    ⟨remarks, last, hadvances⟩ | ⟨before, t, after, remarks, last, result, rfl, hadvances, hdone⟩
  · have hframes := length_frames_of_advances hadvances
    obtain rfl := hadvances.located_eq
    refine Or.inl ⟨last, ?_, kind_ne_unbalancedBrace_of_advances hadvances, ?_, ?_⟩
    · rw [hadvances.read_eq offset]
      rfl
    · have hstart : start.frames.length = 0 := rfl
      unfold unclosed
      omega
    · rintro hmissing rfl
      cases hadvances
      exact hmissing rfl
  · have hremark : blockReader.remark? last t = some (unbalancedBrace t) := remark?_of_done hdone
    have htrace : blockReader.trace .start (before ++ t :: after) =
        blockReader.trace .start before ++ [(last, t)] := by
      rw [hadvances.trace_append, Reader.trace_of_done hdone]
    have hlocated : blockReader.located .start (before ++ t :: after) =
        remarks ++ [unbalancedBrace t] := by
      rw [← hadvances.located_eq]
      unfold Reader.located
      rw [htrace, List.filterMap_append]
      simp [hremark]
    refine Or.inr ⟨remarks, t, hlocated, ?_, kind_ne_unbalancedBrace_of_advances hadvances, ?_⟩
    · rw [hlocated, hadvances.read_append, Reader.read, hdone, hremark]
      rfl
    · rw [htrace]
      exact unclosed_of_done hadvances hdone

end BlockState

end Summand
