import Summand.Proofs.Evaluation.Operands
import Summand.Proofs.Evaluation.Preservation
import Summand.Proofs.Program.Spelled
import Summand.Proofs.Text.OneLine

/-!
# Names that evaluation hands on

The name of a function is whatever stands in front of its parentheses, line breaks included, but only
names and numerals can be looked up or called (`Stmt.SpelledAll`).  A function with any other name is
bound under that name alone, so it can never be read again.  This is the invariant of environments
(`Environment.Named`): what is bound under a name is a function with a name, if it is a function at
all.

Evaluation keeps this up (`Invariant.plain`): where the bindings are as they have to be, spelled
statements come to values that are named, and every fault and every remark is on one line.
-/

namespace Summand

open Text Token.Kind

/-! ## Values and environments -/

/-- Callees are on one line. -/
lemma oneLine_of_isCallee {text : String} (h : IsCallee text) : OneLine text :=
  h.elim oneLine_of_isName oneLine_of_isNumeral

/-- A function has a name and a spelled body. -/
def Value.Named : Value → Prop
  | .number _ => True
  | .function name body => IsName name.toList ∧ Stmt.SpelledAll body
  | .undefined => True

/-- Every function has a spelled body, and the functions that are bound under a name have a name. -/
def Environment.Named (env : Environment) : Prop :=
  ∀ key name body, env.get? key = some (.function name body) →
    Stmt.SpelledAll body ∧ (IsName key.toList → IsName name.toList)

namespace Environment

variable {env : Environment}

lemma named_empty : Environment.empty.Named := by
  intro key name body hbound
  simp at hbound

/-- What a name is bound to is named. -/
lemma Named.value (henv : env.Named) {key : String} {v : Value} (hkey : IsName key.toList)
    (hbound : env.get? key = some v) : v.Named := by
  cases v with
  | number x => trivial
  | function name body =>
    obtain ⟨hbody, hname⟩ := henv key name body hbound
    exact ⟨hname hkey, hbody⟩
  | undefined => trivial

/-- A binding keeps the invariant if the function in it, if any, has a spelled body, and a name or
the key for its name. -/
lemma Named.define (henv : env.Named) {key : String} {v : Value}
    (hv : ∀ name body, v = .function name body →
      Stmt.SpelledAll body ∧ (IsName key.toList → IsName name.toList)) :
    (env.define key v).Named := by
  intro other name body hbound
  rw [get?_define] at hbound
  split at hbound
  · rename_i heq
    subst heq
    exact hv name body (Option.some.inj hbound)
  · exact henv other name body hbound

/-- Values that are named can be bound to anything. -/
lemma Named.define_value (henv : env.Named) (key : String) {v : Value} (hv : v.Named) :
    (env.define key v).Named := by
  apply henv.define
  rintro name body rfl
  exact ⟨hv.2, fun _ => hv.1⟩

/-- Functions can be bound to their own names. -/
lemma Named.define_function (henv : env.Named) (name : String) {body : List Stmt}
    (hbody : Stmt.SpelledAll body) : (env.define name (.function name body)).Named := by
  apply henv.define
  intro name' body' heq
  cases heq
  exact ⟨hbody, id⟩

end Environment

/-! ## Formulas -/

section Formulas

variable {env : Environment} {entries : List Entry}

/-- The remark on an unbound name is on one line. -/
lemma Operand.oneLine_remark? {x : Operand} (hx : x.Spelled) :
    ∀ d ∈ x.remark? env, OneLine d.text := by
  intro d hd
  cases x with
  | number text => simp [remark?] at hd
  | identifier name =>
    simp only [remark?, Option.mem_def, Option.ite_none_left_eq_some, Option.some.injEq] at hd
    obtain ⟨-, rfl⟩ := hd
    apply Diagnostic.oneLine_text
    simp only [Diagnostic.whileRunning, oneLine_append]
    exact ⟨⟨by decide, oneLine_of_isName hx⟩, by decide⟩

/-- The operands of a spelled formula are spelled. -/
lemma Expr.Spelled.operand (h : (Expr.formula entries).Spelled) {x : Operand}
    (hx : .operand x ∈ entries) : x.Spelled :=
  h (.operand x) (mem_mentions_of_mem hx)

/-- The value of a formula is named, since it is what a name is bound to if it is a function. -/
lemma Formula.named_value (henv : env.Named) (hentries : (Expr.formula entries).Spelled) :
    (Formula.value env entries).Named :=
  value_of_bound trivial (fun _ => trivial) fun _ _ hname hbound =>
    henv.value (hentries.operand hname) hbound

/-- The remarks on a formula are on one line each. -/
lemma Formula.oneLine_remarks (hentries : (Expr.formula entries).Spelled) :
    ∀ d ∈ Formula.remarks env entries, OneLine d.text := by
  intro d hd
  rcases mem_remarks_cases hd with ⟨x, hx, hremark⟩ | ⟨p, hremark⟩
  · exact Operand.oneLine_remark? (hentries.operand hx) d hremark
  · obtain rfl := Option.some.inj hremark
    apply Diagnostic.oneLine_text
    cases p <;> decide

end Formulas

/-! ## Statements -/

/-- What is not a function is printed in the remark on a call of it. -/
lemma oneLine_notFunction {callee : String} (hcallee : IsCallee callee) {v : Value}
    (hv : ∀ name body, v ≠ .function name body) :
    OneLine ("`" ++ callee ++ "` is " ++ v.text ++ ", not a function") := by
  have htext : OneLine v.text :=
    Value.oneLine_text fun name body heq => absurd heq (hv name body)
  simp only [oneLine_append]
  exact ⟨⟨⟨⟨by decide, oneLine_of_isCallee hcallee⟩, by decide⟩, htext⟩, by decide⟩

lemma Stmt.spelledAll_cons {s : Stmt} {rest : List Stmt} :
    SpelledAll (s :: rest) ↔ (∀ m ∈ s.mentions, m.Spelled) ∧ SpelledAll rest := by
  rw [SpelledAll, mentionsAll, List.forall_mem_append]
  rfl

/-- A spelled call is of a callee. -/
lemma Expr.Spelled.callee {callee : String} (h : (Expr.call callee).Spelled) : IsCallee callee :=
  h (.callee callee) List.mem_cons_self

/-- Where the bindings are as they have to be, spelled statements come to named values, and to faults
and remarks on one line. -/
def Invariant.plain : Invariant where
  body := Stmt.SpelledAll
  expr := Expr.Spelled
  environment := Environment.Named
  value := Value.Named
  fault fault := OneLine fault.message
  remark d := OneLine d.text
  body_tail hbody := (Stmt.spelledAll_cons.1 hbody).2
  body_expr hbody he m hm :=
    (Stmt.spelledAll_cons.1 hbody).1 m (Stmt.mentions_subset_of_expr? he hm)
  undefined := trivial
  bound henv hv name := henv.define_value name hv
  declared henv hbody := henv.define_function _ (Stmt.spelledAll_cons.1 hbody).1
  formula henv hentries :=
    ⟨Formula.named_value henv hentries, Formula.oneLine_remarks hentries⟩
  entered henv _ hbound := (henv _ _ _ hbound).1
  unbound := by
    intro callee hcallee
    apply Diagnostic.oneLine_text
    simp only [notCallable, Diagnostic.whileRunning, oneLine_append]
    exact ⟨⟨by decide, oneLine_of_isCallee hcallee.callee⟩, by decide⟩
  notFunction hcallee hv := Diagnostic.oneLine_text (oneLine_notFunction hcallee.callee hv)
  tooDeep hcallee := Fault.oneLine_message (oneLine_of_isCallee hcallee.callee)

end Summand
