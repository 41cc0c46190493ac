import Summand.Proofs.Evaluation.Steps
import Summand.Proofs.Program.Mentions

/-!
# The operands of a formula

A machine that works off a formula puts no other operands on its stack and looks no others up than
those of the formula, and everything else on the stack is a sum (`Formula.Machine.Over`).  So the value
of a formula is what one of its names is bound to, unless it is a number or undefined
(`Formula.value_of_bound`), and a remark on it is about one of its operands or about an operator
(`Formula.mem_remarks_cases`).

The operands of a formula are among what the expression mentions, and what an expression mentions is
among what its statement does.
-/

namespace Summand

/-- A formula mentions its operands. -/
lemma Expr.mem_mentions_of_mem {entries : List Entry} {y : Operand} (h : .operand y ∈ entries) :
    .operand y ∈ (Expr.formula entries).mentions :=
  List.mem_filterMap.2 ⟨_, h, rfl⟩

/-- A statement mentions what its expression does. -/
lemma Stmt.mentions_subset_of_expr? {s : Stmt} {e : Expr} (h : s.expr? = some e) :
    e.mentions ⊆ s.mentions := by
  cases s with
  | function name body => simp [expr?] at h
  | binding name value =>
    obtain rfl := Option.some.inj h
    exact List.subset_cons_self _ _
  | ret value | expression value =>
    obtain rfl := Option.some.inj h
    exact List.Subset.refl _

namespace Formula

/-- Every operand that waits on the stack or has been looked up has the property, and every sum is a
number. -/
structure Machine.Over (P : Operand → Prop) (m : Machine) : Prop where
  waiting : ∀ y, Slot.pending y ∈ m.stack → P y
  looked : ∀ y, Event.lookUp y ∈ m.events → P y
  sums : ∀ v, Slot.resolved v ∈ m.stack → ∃ n, v = .number n

variable {P : Operand → Prop} {env : Environment} {m : Machine} {entries : List Entry}

/-- An operand is looked up for a slot if it waits there. -/
lemma Slot.mem_lookUps {slot? : Option Slot} {y : Operand} :
    Event.lookUp y ∈ lookUps slot? ↔ slot? = some (.pending y) := by
  rcases slot? with - | (z | v)
  · simp [lookUps]
  · simp [lookUps, eq_comm]
  · simp [lookUps]

/-- At the start there are no operands. -/
lemma Machine.over_start : Machine.Over P {} :=
  ⟨by simp, by simp, by simp⟩

/-- One entry of a formula puts no other operands on the stack than its own. -/
lemma Machine.Over.step (hm : m.Over P) {entry : Entry} (hentry : ∀ y, entry = .operand y → P y) :
    (m.step env entry).Over P := by
  have hslot (n : Nat) {y : Operand} (hy : m.stack[n]? = some (.pending y)) : P y :=
    hm.waiting y (List.mem_of_getElem? hy)
  cases entry with
  | operand x =>
    refine ⟨?_, hm.looked, ?_⟩
    · intro y hy
      rcases List.mem_cons.1 hy with heq | hy
      · cases heq
        exact hentry x rfl
      · exact hm.waiting y hy
    · intro v hv
      rcases List.mem_cons.1 hv with heq | hv
      · cases heq
      · exact hm.sums v hv
  | operator p =>
    cases p with
    | plus =>
      refine ⟨?_, ?_, ?_⟩
      · intro y hy
        rcases List.mem_cons.1 hy with heq | hy
        · cases heq
        · exact hm.waiting y (List.mem_of_mem_drop hy)
      · intro y hy
        simp only [Machine.step, add, List.mem_append, Slot.mem_lookUps] at hy
        rcases hy with (hy | hy) | hy
        · exact hm.looked y hy
        · exact hslot 0 hy
        · exact hslot 1 hy
      · intro v hv
        rcases List.mem_cons.1 hv with heq | hv
        · cases heq
          exact ⟨_, rfl⟩
        · exact hm.sums v (List.mem_of_mem_drop hv)
    | equals =>
      refine ⟨hm.waiting, ?_, hm.sums⟩
      intro y hy
      simp only [Machine.step, List.mem_append, List.mem_singleton, reduceCtorEq, or_false] at hy
      exact hm.looked y hy

/-- All operands in the machine are operands of the formula. -/
lemma Machine.over_run (h : ∀ y, .operand y ∈ entries → P y) : (Machine.run env entries).Over P := by
  have hfold (m : Machine) (hm : m.Over P) : (entries.foldl (step env) m).Over P := by
    induction entries generalizing m with
    | nil => exact hm
    | cons entry entries ih =>
      refine ih (fun y hy => h y (List.mem_cons_of_mem _ hy)) _ (hm.step ?_)
      rintro y rfl
      exact h y List.mem_cons_self
  exact hfold {} over_start

/-- What holds of undefined, of all numbers and of what the names in a formula are bound to holds of the
value of the formula. -/
lemma value_of_bound {motive : Value → Prop} (undefined : motive .undefined)
    (number : ∀ n, motive (.number n))
    (bound : ∀ name v, .operand (.identifier name) ∈ entries → env.get? name = some v → motive v) :
    motive (Formula.value env entries) := by
  have hover : (Machine.run env entries).Over fun y => .operand y ∈ entries :=
    Machine.over_run fun _ hy => hy
  unfold Formula.value
  rcases hbottom : (Machine.run env entries).bottom? with - | (y | v)
  · exact undefined
  · have hy := hover.waiting y (List.mem_of_getLast? hbottom)
    cases y with
    | number text => exact number _
    | identifier name =>
      cases hbound : env.get? name with
      | none => simpa [Slot.value, Operand.value, hbound] using undefined
      | some v => simpa [Slot.value, Operand.value, hbound] using bound name v hy hbound
  · obtain ⟨n, rfl⟩ := hover.sums v (List.mem_of_getLast? hbottom)
    exact number n

/-- Only operands of the formula are looked up. -/
lemma mem_of_lookUp_mem_events {y : Operand} (h : .lookUp y ∈ events env entries) :
    .operand y ∈ entries := by
  have hover : (Machine.run env entries).Over fun y => .operand y ∈ entries :=
    Machine.over_run fun _ hy => hy
  rcases List.mem_append.1 h with h | h
  · exact hover.looked y h
  · exact hover.waiting y (List.mem_of_getLast? (Slot.mem_lookUps.1 h))

/-- A remark on a formula is that on an operand of it, or on an operator that is passed over. -/
lemma mem_remarks_cases {d : Diagnostic} (h : d ∈ remarks env entries) :
    (∃ y, .operand y ∈ entries ∧ y.remark? env = some d) ∨
      ∃ p, (Event.passOver p).remark? env = some d := by
  obtain ⟨event, hevent, hremark⟩ := List.mem_filterMap.1 h
  cases event with
  | lookUp y => exact Or.inl ⟨y, mem_of_lookUp_mem_events hevent, hremark⟩
  | passOver p => exact Or.inr ⟨p, hremark⟩

end Formula

end Summand
