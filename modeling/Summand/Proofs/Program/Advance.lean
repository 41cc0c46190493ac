import Mathlib.Tactic.Common
import Summand.Program.Parser

/-!
# Readers on their way

A reader that has not come to its end is in some state, and has made some remarks on the tokens so
far.  `Reader.Advances` is that relation between two states: the reader goes from the one to the
other over a list of tokens, making these remarks, without being done.

Advancing is compositional (`Advances.trans`), and what is read from a state on is what is read from
the state to which the reader has advanced (`Advances.read_append`).  A reader either advances over
all tokens that it is given or is done at one of them (`advances_or_done`).
-/

namespace Summand.Reader

variable {State Result : Type} {reader : Reader State Result}

/-- Over the tokens the reader goes from the first state to the second with the remarks. -/
inductive Advances (reader : Reader State Result) :
    State → List Token → List Diagnostic → State → Prop
  | refl (state : State) : Advances reader state [] [] state
  | token {state next last : State} {t : Token} {tokens : List Token}
      {remarks : List Diagnostic} (feed : reader.feed state t = .more next)
      (rest : Advances reader next tokens remarks last) :
      Advances reader state (t :: tokens) ((reader.remark? state t).toList ++ remarks) last

/-- The reader goes over one token. -/
lemma Advances.one {state next : State} {t : Token} (h : reader.feed state t = .more next) :
    reader.Advances state [t] (reader.remark? state t).toList next := by
  have hadvances := Advances.token h (Advances.refl next)
  rwa [List.append_nil] at hadvances

/-- Two ways that meet are one way. -/
lemma Advances.trans {state middle last : State} {tokens tokens' : List Token}
    {remarks remarks' : List Diagnostic} (h : reader.Advances state tokens remarks middle)
    (h' : reader.Advances middle tokens' remarks' last) :
    reader.Advances state (tokens ++ tokens') (remarks ++ remarks') last := by
  induction h with
  | refl state => exact h'
  | token feed _ ih =>
    rw [List.cons_append, List.append_assoc]
    exact .token feed (ih h')

/-- What is read behind the tokens over which the reader has advanced is read from the state to
which it has come. -/
lemma Advances.read_append {state last : State} {tokens : List Token} {remarks : List Diagnostic}
    (h : reader.Advances state tokens remarks last) (offset : Nat) (rest : List Token) :
    reader.read offset state (tokens ++ rest) =
      ⟨(reader.read offset last rest).result,
        remarks ++ (reader.read offset last rest).remarks,
        tokens.length + (reader.read offset last rest).consumed⟩ := by
  induction h with
  | refl state => simp
  | token feed _ ih =>
    rw [List.cons_append, read, feed]
    simp only [ih, List.append_assoc, List.length_cons, Reading.mk.injEq, true_and]
    omega

/-- A reader that has advanced over all tokens gives the result that it has. -/
lemma Advances.read_eq {state last : State} {tokens : List Token} {remarks : List Diagnostic}
    (h : reader.Advances state tokens remarks last) (offset : Nat) :
    reader.read offset state tokens =
      ⟨reader.close last, remarks ++ (reader.missing last).map (Diagnostic.unexpectedEnd offset),
        tokens.length⟩ := by
  have hread := h.read_append offset []
  rwa [List.append_nil] at hread

/-- A reader advances over all tokens, or it is done at one of them. -/
lemma advances_or_done (reader : Reader State Result) (state : State) (tokens : List Token) :
    (∃ remarks last, reader.Advances state tokens remarks last) ∨
      ∃ before t after remarks last result, tokens = before ++ t :: after ∧
        reader.Advances state before remarks last ∧ reader.feed last t = .done result := by
  induction tokens generalizing state with
  | nil => exact Or.inl ⟨[], state, .refl state⟩
  | cons t tokens ih =>
    cases hfeed : reader.feed state t with
    | done result => exact Or.inr ⟨[], t, tokens, [], state, result, rfl, .refl state, hfeed⟩
    | more next =>
      rcases ih next with ⟨remarks, last, h⟩ | ⟨before, t', after, remarks, last, result, rfl, h, hdone⟩
      · exact Or.inl ⟨_, last, .token hfeed h⟩
      · exact Or.inr ⟨t :: before, t', after, _, last, result, rfl, .token hfeed h, hdone⟩

end Summand.Reader
