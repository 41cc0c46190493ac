import Summand.Proofs.Program.Advance
import Summand.Proofs.Program.Step

/-!
# Reading on

What the reader of blocks makes of tokens depends neither on their places nor on the statements that
it has read before.  If the tokens are shifted, so are the remarks (`advances_shift`), and if there
are statements in front, they stay in front (`advances_behind`).

A list of tokens that is read without a remark on its end and on unmatched braces leaves the reader
in front of a statement or in an expression, outside of every function
(`exists_advances_of_complete`).  From there a line break leads back in front of a statement, with
the same statements as the end of the tokens would have given (`advances_lineBreak`).
-/

namespace Summand

/-! ## Other places -/

/-- The span so many bytes further on. -/
def Span.shift (offset : Nat) (span : Span) : Span :=
  ⟨span.start + offset, span.stop + offset⟩

/-- The remark about the text so many bytes further on. -/
def Diagnostic.shift (offset : Nat) (d : Diagnostic) : Diagnostic :=
  { d with span := d.span.shift offset }

/-- The token so many bytes further on. -/
def Token.shift (offset : Nat) (t : Token) : Token :=
  { t with position := t.position + offset }

/-- Shifting keeps the kind. -/
@[simp] lemma Token.kind_shift (offset : Nat) (t : Token) : (t.shift offset).kind = t.kind := rfl

/-- Shifting keeps the text. -/
@[simp] lemma Token.text_shift (offset : Nat) (t : Token) : (t.shift offset).text = t.text := rfl

/-- The span of a token is shifted with it. -/
@[simp] lemma Token.span_shift (offset : Nat) (t : Token) :
    (t.shift offset).span = t.span.shift offset := by
  simp only [span, shift, Span.shift, Nat.add_right_comm]

/-- The remark on a token that is passed over is shifted with it. -/
lemma Token.skipped?_shift (offset : Nat) (t : Token) :
    (t.shift offset).skipped? = t.skipped?.map (Diagnostic.shift offset) := by
  simp only [skipped?, kind_shift, text_shift, span_shift]
  rw [apply_ite (Option.map (Diagnostic.shift offset))]
  rfl

/-- Expressions are read in the same way everywhere. -/
lemma ExprState.feed_shift (offset : Nat) (state : ExprState) (t : Token) :
    state.feed (t.shift offset) = state.feed t := by
  cases state <;> rfl

/-- What there is to say about a token of an expression is shifted with it. -/
lemma ExprState.remark?_shift (offset : Nat) (state : ExprState) (t : Token) :
    state.remark? (t.shift offset) = (state.remark? t).map (Diagnostic.shift offset) := by
  have hskipped := t.skipped?_shift offset
  cases state with
  | formula draft =>
    have hrole : (t.shift offset).role = t.role := rfl
    simp only [remark?, hrole]
    cases t.role with
    | operand x =>
      by_cases hlacks : draft.lacksOperator
      · simp [hlacks, missingOperator, Diagnostic.shift]
      · simp [hlacks]
    | sign p? => rfl
    | terminator => rfl
    | opening =>
      by_cases hcallee : draft.callee?.isSome
      · simp [hcallee]
      · simpa [hcallee] using hskipped
    | stray => exact hskipped
  | arguments callee =>
    simp only [remark?, Token.text_shift]
    rw [apply_ite (Option.map (Diagnostic.shift offset)), hskipped]
    rfl

/-- The progress with another state or another result. -/
def Progress.map {State Result State' Result' : Type} (more : State → State')
    (done : Result → Result') : Progress State Result → Progress State' Result'
  | .more state => .more (more state)
  | .done result => .done (done result)

namespace BlockState

/-- Statements are read in the same way everywhere. -/
lemma feed_shift (offset : Nat) (s : BlockState) (t : Token) :
    s.feed (t.shift offset) = s.feed t := by
  obtain ⟨mode, body, frames⟩ := s
  cases mode with
  | expression purpose state => simp only [feed, ExprState.feed_shift]
  | statement => rfl
  | functionName text => rfl
  | functionHead name => rfl
  | bindingName => rfl
  | bindingEquals name => rfl

/-- What there is to say about a token is shifted with it. -/
lemma remark?_shift (offset : Nat) (s : BlockState) (t : Token) :
    s.remark? (t.shift offset) = (s.remark? t).map (Diagnostic.shift offset) := by
  have hskipped := t.skipped?_shift offset
  obtain ⟨mode, body, frames⟩ := s
  cases mode with
  | expression purpose state => exact state.remark?_shift offset t
  | statement =>
    simp only [remark?, remarkStatement?, Token.kind_shift, Token.text_shift]
    split
    · have hbrace : unbalancedBrace (t.shift offset) = (unbalancedBrace t).shift offset := by
        simp only [unbalancedBrace, Diagnostic.shift, Token.span_shift]
      rw [apply_ite (Option.map (Diagnostic.shift offset)), hbrace]
      rfl
    · exact hskipped
    · exact hskipped
    · exact hskipped
    · exact hskipped
    · rfl
  | functionName text | functionHead name | bindingName | bindingEquals name =>
    simp only [remark?, Token.kind_shift, Token.text_shift]
    rw [apply_ite (Option.map (Diagnostic.shift offset)), hskipped]
    rfl

/-- If the tokens are shifted, so are the remarks on them. -/
lemma advances_shift (offset : Nat) {s last : BlockState} {tokens : List Token}
    {remarks : List Diagnostic} (h : blockReader.Advances s tokens remarks last) :
    blockReader.Advances s (tokens.map (Token.shift offset)) (remarks.map (Diagnostic.shift offset))
      last := by
  induction h with
  | refl state => exact .refl state
  | @token state next last t tokens remarks feed rest ih =>
    have hfeed : blockReader.feed state (t.shift offset) = .more next := by
      rw [← feed]
      exact feed_shift offset state t
    have hremark : (blockReader.remark? state (t.shift offset)).toList =
        (blockReader.remark? state t).toList.map (Diagnostic.shift offset) := by
      have hshift : blockReader.remark? state (t.shift offset) =
        (blockReader.remark? state t).map (Diagnostic.shift offset) := remark?_shift offset state t
      rw [hshift]
      cases blockReader.remark? state t <;> rfl
    rw [List.map_cons, List.map_append, ← hremark]
    exact .token hfeed ih

/-! ## Other statements in front -/

/-- The functions that are open, with statements in front of the outermost one. -/
def underlay (before : List Stmt) : List Frame → List Frame
  | [] => []
  | [frame] => [{ frame with outer := before ++ frame.outer }]
  | frame :: next :: frames => frame :: underlay before (next :: frames)

/-- The state with statements in front of all that has been read. -/
def behind (before : List Stmt) (s : BlockState) : BlockState :=
  { mode := s.mode
    body := if s.frames.isEmpty then before ++ s.body else s.body
    frames := underlay before s.frames }

/-- As many functions are open as without the statements in front. -/
lemma length_underlay (before : List Stmt) (frames : List Frame) :
    (underlay before frames).length = frames.length := by
  fun_induction underlay before frames with
  | case1 => rfl
  | case2 frame => rfl
  | case3 frame next frames ih => simp [ih]

/-- An expression is read in the same way behind other statements. -/
lemma ofExpr_behind (before : List Stmt) (s : BlockState) (purpose : Purpose)
    (progress : Progress ExprState Expr) :
    (s.behind before).ofExpr purpose progress = (s.ofExpr purpose progress).behind before := by
  obtain ⟨mode, body, frames⟩ := s
  cases progress with
  | more state => rfl
  | done e =>
    cases frames with
    | nil => simp [ofExpr, behind]
    | cons frame frames => simp [ofExpr, behind]

/-- What a closing brace leads to has the other statements in front. -/
lemma closeBrace_behind (before : List Stmt) (s : BlockState) :
    (s.behind before).closeBrace = s.closeBrace.map (behind before) (before ++ ·) := by
  obtain ⟨mode, body, frames⟩ := s
  match frames with
  | [] => rfl
  | [frame] => simp [closeBrace, behind, underlay, Frame.finish, Progress.map]
  | frame :: next :: frames => simp [closeBrace, behind, underlay, Progress.map]

/-- What an opening brace leads to has the other statements in front. -/
lemma openBrace_behind (before : List Stmt) (s : BlockState) (name : String) :
    (⟨.statement, [], ⟨name, (s.behind before).body⟩ :: (s.behind before).frames⟩ : BlockState) =
      behind before ⟨.statement, [], ⟨name, s.body⟩ :: s.frames⟩ := by
  obtain ⟨mode, body, frames⟩ := s
  cases frames with
  | nil => simp [behind, underlay]
  | cons frame frames => simp [behind, underlay]

/-- What a token leads to has the other statements in front. -/
lemma feed_behind (before : List Stmt) (s : BlockState) (t : Token) :
    (s.behind before).feed t = (s.feed t).map (behind before) (before ++ ·) := by
  have hmode : (s.behind before).mode = s.mode := rfl
  unfold feed
  rw [hmode]
  cases s.mode with
  | statement =>
    simp only [feedStatement]
    cases t.kind with
    | word => exact congrArg Progress.more (ofExpr_behind before s _ _)
    | brace =>
      simp only
      rw [apply_ite (Progress.map (behind before) (before ++ ·)), closeBrace_behind]
      rfl
    | functionKeyword | returnKeyword | letKeyword | number | space | semicolon | lineBreak | paren
    | punctuator | other => rfl
  | functionHead name =>
    simp only
    rw [apply_ite (Progress.map (behind before) (before ++ ·)), openBrace_behind]
    rfl
  | expression purpose state => exact congrArg Progress.more (ofExpr_behind before s _ _)
  | functionName text | bindingName | bindingEquals name =>
    simp only
    rw [apply_ite (Progress.map (behind before) (before ++ ·))]
    rfl

/-- There is the same to say about a token behind other statements. -/
lemma remark?_behind (before : List Stmt) (s : BlockState) (t : Token) :
    (s.behind before).remark? t = s.remark? t := by
  have hmode : (s.behind before).mode = s.mode := rfl
  have hframes : (s.behind before).frames.isEmpty = s.frames.isEmpty := by
    have hlength : (s.behind before).frames.length = s.frames.length :=
      length_underlay before s.frames
    rw [Bool.eq_iff_iff, List.isEmpty_iff_length_eq_zero, List.isEmpty_iff_length_eq_zero, hlength]
  unfold remark? remarkStatement?
  rw [hmode, hframes]

/-- Closing the outermost of the open functions puts the other statements in front. -/
lemma foldl_finish_underlay (before body : List Stmt) (frame : Frame) (frames : List Frame) :
    (underlay before (frame :: frames)).foldl (fun body frame => frame.finish body) body =
      before ++ (frame :: frames).foldl (fun body frame => frame.finish body) body := by
  induction frames generalizing frame body with
  | nil => simp [underlay, Frame.finish]
  | cons next frames ih =>
    rw [underlay, List.foldl_cons, ih]
    rfl

/-- At the end of the tokens the other statements are in front. -/
lemma close_behind (before : List Stmt) (s : BlockState) :
    (s.behind before).close = before ++ s.close := by
  obtain ⟨mode, body, frames⟩ := s
  cases frames with
  | nil => cases mode <;> simp [close, settledBody, behind, underlay]
  | cons frame frames =>
    have hbody : settledBody (behind before ⟨mode, body, frame :: frames⟩) =
        settledBody ⟨mode, body, frame :: frames⟩ := by
      cases mode <;> rfl
    rw [close, hbody]
    exact foldl_finish_underlay before _ frame frames

/-- The same is missing at the end of the tokens behind other statements. -/
lemma missing_behind (before : List Stmt) (s : BlockState) :
    (s.behind before).missing = s.missing := by
  have hhere : (s.behind before).missingHere = s.missingHere := rfl
  have hlength : (s.behind before).frames.length = s.frames.length :=
    length_underlay before s.frames
  simp only [missing, hhere, List.map_const', hlength]

/-- If there are statements in front, they stay in front. -/
lemma advances_behind (before : List Stmt) {s last : BlockState} {tokens : List Token}
    {remarks : List Diagnostic} (h : blockReader.Advances s tokens remarks last) :
    blockReader.Advances (s.behind before) tokens remarks (last.behind before) := by
  induction h with
  | refl state => exact .refl _
  | @token state next last t tokens remarks feed rest ih =>
    have hfeed : blockReader.feed (state.behind before) t = .more (next.behind before) := by
      have hbehind := feed_behind before state t
      rw [show state.feed t = .more next from feed] at hbehind
      exact hbehind
    have hremark : blockReader.remark? (state.behind before) t = blockReader.remark? state t :=
      remark?_behind before state t
    rw [← hremark]
    exact .token hfeed ih

/-! ## The end of a line -/

/-- A closing brace that ends the whole block is remarked on. -/
lemma remark?_of_done {s : BlockState} {t : Token} {result : List Stmt}
    (h : s.feed t = .done result) : s.remark? t = some (unbalancedBrace t) := by
  obtain ⟨-, hmode, hframes, hkind, htext⟩ := feed_done_cases h
  simp [remark?, hmode, remarkStatement?, hkind, htext, hframes]

/-- Tokens that are read without a remark on their end and on an unmatched brace are read to their
end, and nothing is missing there. -/
lemma exists_advances_of_complete {tokens : List Token} {offset : Nat}
    (h : ∀ d ∈ (blockReader.read offset .start tokens).remarks,
      d.kind ≠ .unexpectedEnd ∧ d.kind ≠ .unbalancedBrace) :
    ∃ last, last.missing = [] ∧
      blockReader.Advances .start tokens (blockReader.read offset .start tokens).remarks last ∧
      (blockReader.read offset .start tokens).result = last.close := by
  rcases blockReader.advances_or_done .start tokens with
    ⟨remarks, last, hadvances⟩ | ⟨before, t, after, remarks, last, result, rfl, hadvances, hdone⟩
  · have hread := hadvances.read_eq offset
    have hmissing : last.missing = [] := by
      by_contra hne
      obtain ⟨expected, hexpected⟩ := List.exists_mem_of_ne_nil _ hne
      refine (h (.unexpectedEnd offset expected) ?_).1 rfl
      rw [hread]
      exact List.mem_append_right _ (List.mem_map_of_mem hexpected)
    have hremarks : (blockReader.read offset .start tokens).remarks = remarks := by
      rw [hread]
      simp [blockReader, hmissing]
    refine ⟨last, hmissing, ?_, ?_⟩
    · rwa [hremarks]
    · rw [hread]
      rfl
  · -- Only an unmatched brace ends the reading, and it would have been remarked on.
    exfalso
    refine (h (unbalancedBrace t) ?_).2 rfl
    have hremark : blockReader.remark? last t = some (unbalancedBrace t) := remark?_of_done hdone
    rw [hadvances.read_append, Reader.read, hdone, hremark]
    simp

/-- Where nothing is missing, a line break leads in front of a statement, with the statements that
the end of the tokens would have given. -/
lemma advances_lineBreak {s : BlockState} (h : s.missing = []) {t : Token}
    (ht : t.kind = .lineBreak) :
    blockReader.Advances s [t] [] (behind s.close start) := by
  obtain ⟨mode, body, frames⟩ := s
  obtain ⟨hhere, hframes⟩ := List.append_eq_nil_iff.1 h
  obtain rfl : frames = [] := List.map_eq_nil_iff.1 hframes
  have hrole : t.role = .terminator := by
    simp [Token.role, Operand.ofToken?, ht]
  cases mode with
  | statement =>
    have hfeed : blockReader.feed ⟨.statement, body, []⟩ t = .more (behind body start) := by
      simp [blockReader, feed, feedStatement, ht, behind, start, underlay]
    have hremark : blockReader.remark? ⟨.statement, body, []⟩ t = none := by
      simp [blockReader, remark?, remarkStatement?, ht]
    have hadvances := Reader.Advances.one hfeed
    rwa [hremark] at hadvances
  | expression purpose state =>
    cases state with
    | formula draft =>
      have hfeed : blockReader.feed ⟨.expression purpose (.formula draft), body, []⟩ t =
          .more (behind (body ++ [purpose.statement draft.expr]) start) := by
        simp [blockReader, feed, ExprState.feed, hrole, ofExpr, behind, start, underlay]
      have hremark :
          blockReader.remark? ⟨.expression purpose (.formula draft), body, []⟩ t = none := by
        simp [blockReader, remark?, ExprState.remark?, hrole]
      have hadvances := Reader.Advances.one hfeed
      rwa [hremark] at hadvances
    | arguments callee => simp [missingHere, ExprState.missing] at hhere
  | functionName text | functionHead name | bindingName | bindingEquals name =>
    simp [missingHere] at hhere

end BlockState

end Summand
