import Summand.Proofs.Evaluation.Operands
import Summand.Proofs.Evaluation.Preservation

/-!
# What can be remarked while a program runs

Running statements gives rise to three kinds of remarks, and as statements do not know where they
were written, all of them are placed at the start of the source (`Diagnostic.OfRunning`).  This is so
for formulas and for calls of what is no function, and so it is an invariant of evaluation
(`Invariant.ofRunning`).
-/

namespace Summand

/-- The remark can be made while a program runs. -/
structure Diagnostic.OfRunning (d : Diagnostic) : Prop where
  kind : d.kind = .undefinedIdentifier ∨ d.kind = .notCallable ∨ d.kind = .unsupportedOperator
  span : d.span = Span.at 0

/-- What is looked up in a formula may be unbound, and what is passed over has no value. -/
lemma Formula.ofRunning_remarks (env : Environment) (entries : List Entry) :
    ∀ d ∈ Formula.remarks env entries, d.OfRunning := by
  intro d hd
  rcases mem_remarks_cases hd with ⟨x, -, hremark⟩ | ⟨p, hremark⟩
  · cases x with
    | number text => simp [Operand.remark?] at hremark
    | identifier name =>
      simp only [Operand.remark?, Option.ite_none_left_eq_some, Option.some.injEq] at hremark
      obtain ⟨-, rfl⟩ := hremark
      exact ⟨Or.inl rfl, rfl⟩
  · obtain rfl := Option.some.inj hremark
    exact ⟨Or.inr (Or.inr rfl), rfl⟩

/-- A call is remarked on if it is not of a function. -/
lemma ofRunning_notCallable (message : String) : (notCallable message).OfRunning :=
  ⟨Or.inr (Or.inl rfl), rfl⟩

/-- Whatever is run, nothing else is remarked. -/
def Invariant.ofRunning : Invariant where
  body _ := True
  expr _ := True
  environment _ := True
  value _ := True
  fault _ := True
  remark := Diagnostic.OfRunning
  body_tail _ := trivial
  body_expr _ _ := trivial
  undefined := trivial
  bound _ _ _ := trivial
  declared _ _ := trivial
  formula _ _ := ⟨trivial, Formula.ofRunning_remarks _ _⟩
  entered _ _ _ := trivial
  unbound _ := ofRunning_notCallable _
  notFunction _ _ := ofRunning_notCallable _
  tooDeep _ _ := trivial

/-- Nothing else is remarked in a block that is run within a limit. -/
lemma ofRunning_runBlock (limit left : Nat) (env : Environment) (body : List Stmt) :
    ∀ d ∈ (runBlock (enterWithin limit left) env body).remarks, d.OfRunning :=
  (Invariant.ofRunning.kept_runBlock limit left trivial trivial).2.remarks

end Summand
