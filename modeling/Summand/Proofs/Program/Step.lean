import Mathlib.Tactic.Common
import Summand.Program.BlockReader

/-!
# What one token does

What the reader of blocks does with a token depends on where the statement stands and on the token.
`BlockState.Step` lists the cases, each with the conditions under which it comes about and with what it
leads to, and `step_feed` says that there are no others.  What is kept up by the reader from token to
token is shown case by case from here, and never by opening the reader.

Only one of the cases ends the block (`feed_done_cases`).
-/

namespace Summand

/-- A statement that stands there takes no notice of the token. -/
def Mode.Ignores : Mode → Token → Prop
  | .statement, t =>
    t.kind ≠ .functionKeyword ∧ t.kind ≠ .returnKeyword ∧ t.kind ≠ .letKeyword ∧ t.kind ≠ .word ∧
      ¬(t.kind = .brace ∧ t.text = "\x7d")
  | .functionName _, _ => False
  | .functionHead _, t => t.text ≠ "\x7b"
  | .bindingName, t => t.kind ≠ .word
  | .bindingEquals _, t => t.text ≠ "="
  | .expression _ _, _ => False

namespace BlockState

/-- What a token leads to. -/
inductive Step (s : BlockState) (t : Token) : Progress BlockState (List Stmt) → Prop
  /-- The token belongs to the expression that is being read. -/
  | expression {purpose : Purpose} {state : ExprState} (mode : s.mode = .expression purpose state) :
    Step s t (.more (s.ofExpr purpose (state.feed t)))
  /-- A word begins an expression on its own. -/
  | word (mode : s.mode = .statement) (kind : t.kind = .word) :
    Step s t (.more
      { s with mode := .expression .expression (.formula (Draft.push {} (.identifier t.text))) })
  /-- The keyword of a return begins the expression behind it. -/
  | ret (mode : s.mode = .statement) (kind : t.kind = .returnKeyword) :
    Step s t (.more { s with mode := .expression .ret .start })
  /-- The keyword of a binding. -/
  | binding (mode : s.mode = .statement) (kind : t.kind = .letKeyword) :
    Step s t (.more { s with mode := .bindingName })
  /-- The name of a binding. -/
  | bound (mode : s.mode = .bindingName) (kind : t.kind = .word) :
    Step s t (.more { s with mode := .bindingEquals t.text })
  /-- The sign behind the name of a binding begins the expression behind it. -/
  | equals {name : String} (mode : s.mode = .bindingEquals name) (text : t.text = "=") :
    Step s t (.more { s with mode := .expression (.binding name) .start })
  /-- The keyword of a function. -/
  | function (mode : s.mode = .statement) (kind : t.kind = .functionKeyword) :
    Step s t (.more { s with mode := .functionName "" })
  /-- A part of the name of a function. -/
  | name {front : String} (mode : s.mode = .functionName front) (text : t.text ≠ "(") :
    Step s t (.more { s with mode := .functionName (front ++ t.text) })
  /-- The parenthesis behind the name of a function. -/
  | parenthesis {front : String} (mode : s.mode = .functionName front) (text : t.text = "(") :
    Step s t (.more { s with mode := .functionHead (Text.trim front) })
  /-- The brace that opens the body of a function. -/
  | opening {name : String} (mode : s.mode = .functionHead name) (text : t.text = "\x7b") :
    Step s t (.more ⟨.statement, [], ⟨name, s.body⟩ :: s.frames⟩)
  /-- The brace that closes the body of the innermost open function. -/
  | closing {frame : Frame} {frames : List Frame} (mode : s.mode = .statement)
    (kind : t.kind = .brace) (text : t.text = "\x7d") (inside : s.frames = frame :: frames) :
    Step s t (.more ⟨.statement, frame.finish s.body, frames⟩)
  /-- A closing brace outside of every function ends the block. -/
  | ending (mode : s.mode = .statement) (kind : t.kind = .brace) (text : t.text = "\x7d")
    (outside : s.frames = []) : Step s t (.done s.body)
  /-- Any other token is passed over. -/
  | passing (ignored : s.mode.Ignores t) : Step s t (.more s)

/-- In front of a statement every token makes one of the steps. -/
lemma step_feedStatement {s : BlockState} (hmode : s.mode = .statement) (t : Token) :
    s.Step t (s.feedStatement t) := by
  have hpass (hignored : t.kind ≠ .functionKeyword ∧ t.kind ≠ .returnKeyword ∧
      t.kind ≠ .letKeyword ∧ t.kind ≠ .word ∧ ¬(t.kind = .brace ∧ t.text = "\x7d")) :
      s.Step t (.more s) := .passing (by rw [hmode]; exact hignored)
  unfold feedStatement
  cases hkind : t.kind with
  | functionKeyword => exact .function hmode hkind
  | returnKeyword => exact .ret hmode hkind
  | letKeyword => exact .binding hmode hkind
  | word =>
    have hrole : t.role = .operand (.identifier t.text) := by
      simp [Token.role, Operand.ofToken?, hkind]
    have hfeed : ExprState.start.feed t =
        .more (.formula (Draft.push {} (.identifier t.text))) := by
      simp [ExprState.start, ExprState.feed, hrole]
    simp only [hfeed, ofExpr]
    exact .word hmode hkind
  | brace =>
    by_cases htext : t.text = "\x7d"
    · simp only [htext, if_true]
      unfold closeBrace
      cases hframes : s.frames with
      | nil => exact .ending hmode hkind htext hframes
      | cons frame frames => exact .closing hmode hkind htext hframes
    · simp only [htext, if_false]
      exact hpass (by simp [hkind, htext])
  | number | space | semicolon | lineBreak | paren | punctuator | other =>
    exact hpass (by simp [hkind])

/-- Every token makes one of the steps. -/
lemma step_feed (s : BlockState) (t : Token) : s.Step t (s.feed t) := by
  have hpass {mode : Mode} (hmode : s.mode = mode) (hignored : mode.Ignores t) :
      s.Step t (.more s) := .passing (by rwa [hmode])
  unfold feed
  cases hmode : s.mode with
  | statement => exact step_feedStatement hmode t
  | functionName front =>
    by_cases htext : t.text = "("
    · simp only [htext, if_true]
      exact .parenthesis hmode htext
    · simp only [htext, if_false]
      exact .name hmode htext
  | functionHead name =>
    by_cases htext : t.text = "\x7b"
    · simp only [htext, if_true]
      exact .opening hmode htext
    · simp only [htext, if_false]
      exact hpass hmode htext
  | bindingName =>
    by_cases hkind : t.kind = .word
    · simp only [hkind, if_true]
      exact .bound hmode hkind
    · simp only [hkind, if_false]
      exact hpass hmode hkind
  | bindingEquals name =>
    by_cases htext : t.text = "="
    · simp only [htext, if_true]
      exact .equals hmode htext
    · simp only [htext, if_false]
      exact hpass hmode htext
  | expression purpose state => exact .expression hmode

/-- A token behind which the reader goes on makes a step to where it goes on. -/
lemma step_of_more {s next : BlockState} {t : Token} (h : s.feed t = .more next) :
    s.Step t (.more next) := by
  rw [← h]
  exact step_feed s t

/-- Only a closing brace in front of a statement, outside of every function, ends the block, which then
consists of the statements so far. -/
lemma feed_done_cases {s : BlockState} {t : Token} {result : List Stmt}
    (h : s.feed t = .done result) :
    result = s.body ∧ s.mode = .statement ∧ s.frames = [] ∧ t.kind = .brace ∧ t.text = "\x7d" := by
  have hstep := step_feed s t
  rw [h] at hstep
  cases hstep with
  | ending hmode hkind htext houtside => exact ⟨rfl, hmode, houtside, hkind, htext⟩

end BlockState

end Summand
