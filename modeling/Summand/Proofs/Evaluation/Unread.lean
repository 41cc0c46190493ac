import Mathlib.Data.List.Basic
import Summand.Proofs.Evaluation.Operands
import Summand.Proofs.Evaluation.Preservation

/-!
# Names that are not read

Statements read a name where it is an operand or a callee, the bodies of functions included
(`Stmt.readsAll`).  To bind a name is not to read it.

What a name is bound to does not matter to statements that never read it.  Two environments are
compared that bind every other name alike (`Environment.AgreesBut`).  Functions are called by looking
up their names, and run in the environment of the caller, so more has to be said: no function that is
bound under another name reads the name (`Environment.Avoids`).  This is an invariant of evaluation
(`Invariant.unread`), since values come from other names, from declarations in statements that do not
read the name, and from calls of such functions.  Under it the two environments may take the place of
each other (`Invariant.Relation.agreesBut`).  The main statement is `extend_define_of_unread`.
-/

namespace Summand

/-! ## Reading a name -/

/-- The name that is looked up for a mention. -/
def Mention.read? : Mention → Option String
  | .binding _ => none
  | .operand (.number _) => none
  | .operand (.identifier name) => some name
  | .callee text => some text

/-- The names that the expression reads. -/
def Expr.reads (e : Expr) : List String :=
  e.mentions.filterMap Mention.read?

/-- The names that the statement reads. -/
def Stmt.reads (s : Stmt) : List String :=
  s.mentions.filterMap Mention.read?

/-- The names that the statements read. -/
def Stmt.readsAll (body : List Stmt) : List String :=
  (Stmt.mentionsAll body).filterMap Mention.read?

/-- Statements do not read a name if neither the first of them nor the others do. -/
lemma Stmt.not_mem_readsAll_cons {x : String} {s : Stmt} {body : List Stmt} :
    x ∉ readsAll (s :: body) ↔ x ∉ s.reads ∧ x ∉ readsAll body := by
  rw [readsAll, mentionsAll, List.filterMap_append, List.mem_append, not_or]
  rfl

/-- The operands of a formula that does not read the name are not the name. -/
lemma Expr.ne_of_not_mem_reads {x : String} {entries : List Entry}
    (h : x ∉ (Expr.formula entries).reads) {y : Operand} (hy : .operand y ∈ entries) :
    y ≠ .identifier x := by
  rintro rfl
  exact h (List.mem_filterMap.2 ⟨_, mem_mentions_of_mem hy, rfl⟩)

/-- A call that does not read the name is of another name. -/
lemma Expr.callee_ne_of_not_mem_reads {x callee : String} (h : x ∉ (Expr.call callee).reads) :
    callee ≠ x := by
  rintro rfl
  exact h (List.mem_singleton_self callee)

/-- A statement reads what its expression does. -/
lemma Stmt.reads_subset_of_expr? {s : Stmt} {e : Expr} (h : s.expr? = some e) :
    e.reads ⊆ s.reads :=
  List.filterMap_subset _ (mentions_subset_of_expr? h)

/-! ## Formulas in two environments -/

/-- The operand has the same value in both environments, with the same remark. -/
structure Operand.Alike (env env' : Environment) (y : Operand) : Prop where
  value : y.value env = y.value env'
  remark : y.remark? env = y.remark? env'

namespace Formula

variable {env env' : Environment} {m : Machine} {entries : List Entry}

/-- The value of a slot depends on the environment only through the operand that waits there. -/
lemma Slot.value_congr {slot? : Option Slot}
    (h : ∀ y, slot? = some (.pending y) → y.value env = y.value env') :
    Slot.value env slot? = Slot.value env' slot? := by
  rcases slot? with - | (y | v)
  · rfl
  · exact h y rfl
  · rfl

/-- One entry is worked off alike in two environments if the operands on the stack are alike. -/
lemma Machine.step_congr (hm : m.Over (Operand.Alike env env')) (entry : Entry) :
    m.step env entry = m.step env' entry := by
  have hslot (n : Nat) : Slot.value env m.stack[n]? = Slot.value env' m.stack[n]? :=
    Slot.value_congr fun y hy => (hm.waiting y (List.mem_of_getElem? hy)).value
  cases entry with
  | operand x => rfl
  | operator p =>
    cases p with
    | plus => simp only [step, add, hslot]
    | equals => rfl

/-- A formula is worked off alike in two environments if its operands are alike. -/
lemma Machine.run_congr (h : ∀ y, .operand y ∈ entries → y.Alike env env') :
    Machine.run env entries = Machine.run env' entries := by
  have hfold (m : Machine) (hm : m.Over (Operand.Alike env env')) :
      entries.foldl (step env) m = entries.foldl (step env') m := by
    induction entries generalizing m with
    | nil => rw [List.foldl_nil, List.foldl_nil]
    | cons entry entries ih =>
      rw [List.foldl_cons, List.foldl_cons, ← step_congr hm entry]
      refine ih (fun y hy => h y (List.mem_cons_of_mem _ hy)) _ (hm.step ?_)
      rintro y rfl
      exact h y List.mem_cons_self
  exact hfold {} over_start

/-- A formula has the same value and the same remarks in two environments if its operands are
alike. -/
lemma value_remarks_congr (h : ∀ y, .operand y ∈ entries → y.Alike env env') :
    Formula.value env entries = Formula.value env' entries ∧
      remarks env entries = remarks env' entries := by
  have hrun := Machine.run_congr h
  have hover : (Machine.run env' entries).Over (Operand.Alike env env') := Machine.over_run h
  have hevents : events env entries = events env' entries := by
    unfold events
    rw [hrun]
  constructor
  · unfold Formula.value
    rw [hrun]
    exact Slot.value_congr fun y hy => (hover.waiting y (List.mem_of_getLast? hy)).value
  · unfold remarks
    rw [hevents]
    refine List.filterMap_congr fun event hevent => ?_
    cases event with
    | passOver p => rfl
    | lookUp y => exact (h y (mem_of_lookUp_mem_events hevent)).remark

end Formula

/-! ## Two environments that differ in one name -/

/-- A function does not read the name; other values read none. -/
def Value.Avoids (x : String) : Value → Prop
  | .number _ => True
  | .function _ body => x ∉ Stmt.readsAll body
  | .undefined => True

namespace Environment

/-- What is bound to other names does not read the name. -/
def Avoids (x : String) (env : Environment) : Prop :=
  ∀ key, key ≠ x → ∀ v, env.get? key = some v → v.Avoids x

/-- The environments bind every other name alike. -/
def AgreesBut (x : String) (env env' : Environment) : Prop :=
  ∀ key, key ≠ x → env.get? key = env'.get? key

variable {x : String} {env env' : Environment}

lemma Avoids.define (h : env.Avoids x) (key : String) {v : Value} (hv : v.Avoids x) :
    (env.define key v).Avoids x := by
  intro other hother u hu
  rw [get?_define] at hu
  split at hu
  · obtain rfl := Option.some.inj hu
    exact hv
  · exact h other hother u hu

lemma AgreesBut.define (h : env.AgreesBut x env') (key : String) (v : Value) :
    (env.define key v).AgreesBut x (env'.define key v) := by
  intro other hother
  rw [get?_define, get?_define, h other hother]

/-- Every operand but the name is alike. -/
lemma AgreesBut.alike (h : env.AgreesBut x env') {y : Operand} (hy : y ≠ .identifier x) :
    y.Alike env env' := by
  cases y with
  | number text => exact ⟨rfl, rfl⟩
  | identifier name =>
    have hname : name ≠ x := fun heq => hy (congrArg Operand.identifier heq)
    constructor
    · rw [Operand.value, Operand.value, h name hname]
    · rw [Operand.remark?, Operand.remark?, contains, contains, h name hname]

/-- A formula that does not read the name does not come to a value that reads it. -/
lemma Avoids.formula (h : env.Avoids x) {entries : List Entry}
    (hentries : x ∉ (Expr.formula entries).reads) : (Formula.value env entries).Avoids x := by
  refine Formula.value_of_bound trivial (fun _ => trivial) fun name v hname hbound => ?_
  refine h name ?_ v hbound
  rintro rfl
  exact Expr.ne_of_not_mem_reads hentries hname rfl

end Environment

/-- Where a name is not read, nothing comes to reading it. -/
def Invariant.unread (x : String) : Invariant where
  body body := x ∉ Stmt.readsAll body
  expr e := x ∉ e.reads
  environment := Environment.Avoids x
  value := Value.Avoids x
  fault _ := True
  remark _ := True
  body_tail hbody := (Stmt.not_mem_readsAll_cons.1 hbody).2
  body_expr hbody he hread :=
    (Stmt.not_mem_readsAll_cons.1 hbody).1 (Stmt.reads_subset_of_expr? he hread)
  undefined := trivial
  bound henv hv name := henv.define name hv
  declared henv hbody := henv.define _ (Stmt.not_mem_readsAll_cons.1 hbody).1
  formula henv hentries := ⟨henv.formula hentries, fun _ _ => trivial⟩
  entered henv hcallee hbound := henv _ (Expr.callee_ne_of_not_mem_reads hcallee) _ hbound
  unbound _ := trivial
  notFunction _ _ := trivial
  tooDeep _ _ := trivial

/-- What the name is bound to may be exchanged. -/
def Invariant.Relation.agreesBut (x : String) : (unread x).Relation where
  related := Environment.AgreesBut x
  define hrelated name v := hrelated.define name v
  formula hrelated hentries := Formula.value_remarks_congr fun _ hy =>
    hrelated.alike (Expr.ne_of_not_mem_reads hentries hy)
  callee hrelated hcallee := hrelated _ (Expr.callee_ne_of_not_mem_reads hcallee)

namespace Interpreter

/-- If a name is read neither by the statements nor by any function that is bound under another name,
then it does not matter whether the name is bound, and to what: the statements come to the same value
or fault with the same remarks, and leave every other name bound to the same. -/
theorem extend_define_of_unread (interpreter : Interpreter) (body : List Stmt) (env : Environment)
    (x : String) (v : Value) (hbody : x ∉ Stmt.readsAll body)
    (henv : ∀ key name inner, key ≠ x → env.get? key = some (.function name inner) →
      x ∉ Stmt.readsAll inner) :
    let (result, last, after) := interpreter.extend body env
    let (result', last', after') := interpreter.extend body (env.define x v)
    result = result' ∧ after = after' ∧ ∀ key, key ≠ x → last.get? key = last'.get? key := by
  have havoids : env.Avoids x := by
    intro key hkey u hu
    cases u with
    | number n => trivial
    | function name inner => exact henv key name inner hkey hu
    | undefined => trivial
  have hagrees : env.AgreesBut x (env.define x v) := fun key hkey =>
    (Environment.get?_define_of_ne env v hkey.symm).symm
  have hrun := Invariant.holds_runBlock (.agreesBut x) interpreter.limit interpreter.limit havoids
    hagrees hbody
  exact ⟨congrArg Outcome.result hrun.same,
    congrArg (interpreter.tell ∘ Outcome.remarks) hrun.same, hrun.related⟩

/-- The name can be bound to a function that reads it, and bound anew by the statements and by what
they call: the four remarks are the same. -/
theorem extend_define_of_unread_rebound :
    let y : Expr := .formula [.operand (.identifier "y")]
    let body : List Stmt := [.binding "x" (.call "f"), .function "x" [], .expression (.call "f")]
    let env := Environment.empty.define "f" (.function "f" [.binding "x" y, .ret y])
    let env' := env.define "x" (.function "x" [.expression (.call "x")])
    let interpreter : Interpreter := { limit := 1, channel := .fresh }
    "x" ∉ Stmt.readsAll body ∧
    (∀ key name inner, key ≠ "x" → env.get? key = some (.function name inner) →
      "x" ∉ Stmt.readsAll inner) ∧
    (interpreter.extend body env).1 = (interpreter.extend body env').1 ∧
    (interpreter.extend body env).2.2 = (interpreter.extend body env').2.2 ∧
    (interpreter.extend body env').2.2.channel.pending.length = 4 ∧
    ∀ key, key ≠ "x" → (interpreter.extend body env).2.1.get? key =
      (interpreter.extend body env').2.1.get? key := by
  intro y body env env' interpreter
  have hbody : "x" ∉ Stmt.readsAll body := by decide
  have henv : ∀ key name inner, key ≠ "x" → env.get? key = some (.function name inner) →
      "x" ∉ Stmt.readsAll inner := by
    intro key name inner hkey hbound
    rw [Environment.get?_define] at hbound
    split at hbound
    · cases hbound
      decide
    · simp at hbound
  obtain ⟨hresult, hafter, hlast⟩ := extend_define_of_unread interpreter body env "x"
    (.function "x" [.expression (.call "x")]) hbody henv
  exact ⟨hbody, henv, hresult, hafter, by decide +kernel, hlast⟩

end Interpreter

end Summand
