import Mathlib.Data.List.Infix
import Summand.Proofs.Program.Advance
import Summand.Proofs.Program.Step
import Summand.Proofs.Token.Coverage

/-!
# Reading as the tokens come

The reader of blocks never goes back on a statement that it has finished.  A single token leaves the
statements as they are, finishes one, or opens or closes a function.  In all of these cases the
statements outside of every function (`outermost`) only become more, and the end of the tokens adds at
most one statement to them (`exists_close`).

So tokens that break off give the same program as all of them do, up to the last statement, and a
lexer that halts at an unknown character costs at most the statement in which it halts
(`readBlock_dropLast_prefix`).
-/

namespace Summand

namespace BlockState

/-! ## The statements outside of every function -/

/-- The finished statements outside of every function. -/
def outermost (s : BlockState) : List Stmt :=
  (s.frames.getLast?.map Frame.outer).getD s.body

/-- If functions are open inside of others, only the outermost of them counts. -/
lemma outermost_cons_cons (mode mode' : Mode) (body body' : List Stmt) (frame next : Frame)
    (frames : List Frame) :
    outermost ⟨mode, body, frame :: next :: frames⟩ = outermost ⟨mode', body', next :: frames⟩ := by
  simp [outermost, List.getLast?_cons]

/-- A finished statement only adds to the statements outside of every function. -/
lemma outermost_prefix_finish (s : BlockState) (mode : Mode) (added : Stmt) :
    s.outermost <+: outermost { s with mode, body := s.body ++ [added] } := by
  obtain ⟨mode', body, frames⟩ := s
  cases frames with
  | nil => exact List.prefix_append _ _
  | cons frame frames => exact List.prefix_rfl

/-- One token only adds to the statements outside of every function. -/
lemma outermost_prefix_of_more {s next : BlockState} {t : Token} (h : s.feed t = .more next) :
    s.outermost <+: next.outermost := by
  cases step_of_more h with
  | @expression purpose state hmode =>
    cases state.feed t with
    | more state' => exact List.prefix_rfl
    | done e => exact outermost_prefix_finish s _ _
  | opening hmode htext =>
    obtain ⟨mode, body, frames⟩ := s
    cases frames with
    | nil => exact List.prefix_rfl
    | cons frame frames => rw [outermost_cons_cons .statement mode [] body]
  | @closing frame frames hmode hkind htext hinside =>
    obtain ⟨mode, body, _⟩ := s
    obtain rfl := hinside
    cases frames with
    | nil => exact List.prefix_append _ _
    | cons next frames => rw [outermost_cons_cons mode .statement body (frame.finish body)]
  | word | ret | binding | bound | equals | function | name | parenthesis | passing =>
    exact List.prefix_rfl

/-- When the whole block is closed, it consists of the statements outside of every function. -/
lemma eq_outermost_of_done {s : BlockState} {t : Token} {result : List Stmt}
    (h : s.feed t = .done result) : result = s.outermost := by
  obtain ⟨rfl, -, hframes, -⟩ := feed_done_cases h
  simp [outermost, hframes]

/-- Closing functions puts one statement behind those outside of all of them. -/
lemma exists_foldl_finish (body : List Stmt) (frame : Frame) (frames : List Frame) :
    ∃ added, (frame :: frames).foldl (fun body frame => frame.finish body) body =
      outermost ⟨.statement, [], frame :: frames⟩ ++ [added] := by
  induction frames generalizing body frame with
  | nil => exact ⟨_, rfl⟩
  | cons next frames ih =>
    rw [outermost_cons_cons _ .statement _ []]
    exact ih (frame.finish body) next

/-- The end of the tokens adds at most one statement to those outside of every function. -/
lemma exists_close (s : BlockState) :
    ∃ added : List Stmt, s.close = s.outermost ++ added ∧ added.length ≤ 1 := by
  obtain ⟨mode, body, frames⟩ := s
  cases frames with
  | nil =>
    cases mode with
    | expression purpose state => exact ⟨[purpose.statement state.close], rfl, Nat.le_refl 1⟩
    | statement | functionName text | functionHead name | bindingName | bindingEquals name =>
      exact ⟨[], (List.append_nil _).symm, Nat.zero_le 1⟩
  | cons frame frames =>
    obtain ⟨added, hadded⟩ := exists_foldl_finish (settledBody ⟨mode, body, frame :: frames⟩) frame
      frames
    exact ⟨[added], hadded, Nat.le_refl 1⟩

/-- All tokens together only add to the statements outside of every function. -/
lemma outermost_prefix_read (offset : Nat) (s : BlockState) (tokens : List Token) :
    s.outermost <+: (blockReader.read offset s tokens).result := by
  induction tokens generalizing s with
  | nil =>
    obtain ⟨added, hclose, -⟩ := exists_close s
    have hread : (blockReader.read offset s []).result = s.close := rfl
    rw [hread, hclose]
    exact List.prefix_append _ _
  | cons t tokens ih =>
    rw [Reader.read]
    cases hfeed : blockReader.feed s t with
    | done result =>
      obtain rfl := eq_outermost_of_done hfeed
      exact List.prefix_rfl
    | more next => exact (outermost_prefix_of_more hfeed).trans (ih next)

/-- What is read from the first tokens is read from all of them, up to the last statement. -/
lemma dropLast_read_prefix (offset offset' : Nat) (tokens more : List Token) :
    (blockReader.read offset .start tokens).result.dropLast <+:
      (blockReader.read offset' .start (tokens ++ more)).result := by
  rcases blockReader.advances_or_done .start tokens with
    ⟨remarks, last, hadvances⟩ | ⟨before, t, after, remarks, last, result, rfl, hadvances, hdone⟩
  · -- The reader has come to a state, and the further tokens are read from there.
    rw [hadvances.read_eq offset, hadvances.read_append offset' more]
    obtain ⟨added, hclose, hlength⟩ := exists_close last
    have hdrop : last.close.dropLast <+: last.outermost := by
      refine List.prefix_of_prefix_length_le (List.dropLast_prefix _) ?_ ?_
      · rw [hclose]
        exact List.prefix_append _ _
      · rw [List.length_dropLast, hclose, List.length_append]
        omega
    exact hdrop.trans (outermost_prefix_read offset' last more)
  · -- An unmatched brace has ended the block, and the further tokens are never read.
    rw [List.append_assoc, List.cons_append, hadvances.read_append, hadvances.read_append,
      Reader.read, Reader.read, hdone]
    exact List.dropLast_prefix _

end BlockState

/-! ## Programs -/

/-- The program that is read from the first tokens is, without its last statement, the start of the
program that is read from all of them.  So is, for every source, the program that is read when an
unknown character makes the lexer halt, of the program that is read when it is passed over. -/
theorem readBlock_dropLast_prefix (tokens more : List Token) (source : String)
    (channel channel' : Channel) :
    (Parser.ofTokens tokens channel).readBlock.1.dropLast <+:
        (Parser.ofTokens (tokens ++ more) channel').readBlock.1 ∧
      let halting := (Lexer.ofSource source .halt channel).readAll
      let recovering := (Lexer.ofSource source .recover channel').readAll
      (Parser.ofTokens halting.1 halting.2.channel).readBlock.1.dropLast <+:
        (Parser.ofTokens recovering.1 recovering.2.channel).readBlock.1 := by
  refine ⟨BlockState.dropLast_read_prefix _ _ tokens more, ?_⟩
  intro halting recovering
  have hprefix : halting.1 <+: recovering.1 := by
    have hrecovering : recovering.1 = Lexer.placed 0 source := Lexer.readAll_recover source channel'
    rw [hrecovering]
    exact Lexer.readAll_ofSource_prefix_placed source .halt channel
  obtain ⟨unread, hunread⟩ := hprefix
  rw [← hunread]
  exact BlockState.dropLast_read_prefix _ _ halting.1 unread

-- The last statement can turn out otherwise: the first token alone is a formula.
example :
    let tokens := tokenize "a(); b"
    Program.ofTokens (tokens.take 1) = [.expression (.formula [.operand (.identifier "a")])] ∧
      Program.ofTokens tokens =
        [.expression (.call "a"), .expression (.formula [.operand (.identifier "b")])] := by
  decide +kernel

end Summand
