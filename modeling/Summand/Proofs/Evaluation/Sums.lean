import Mathlib.Data.List.Induction
import Mathlib.Data.List.Nodup
import Summand.Evaluation.Formula
import Summand.Program.ExprReader

/-!
# What a chain of operands comes to

The formula of a chain is worked off operand by operand (`run_entries`): each operand behind the first
is pushed, and then its operator is applied.  An addition replaces the two topmost slots by one, and
any other operator leaves them where they are, so behind the first operator that is no addition the
slot at the bottom is never reached again (`bottom?_foldl_join_equals`).  Hence the value of the
formula is the sum up to that operator, which is taken from the left with the later operand as the
left one.

For any formula at all, the operands that have been looked up and those that wait on the stack are
together the operands that have been worked off, each of them at a place of its own (`StandAt`).

The main statement is `value_of_chain`.
-/

namespace Summand

/-- The values added to a number one after the other, each on the left of the sum before it. -/
def Value.sum (start : Float) (vs : List Value) : Float :=
  vs.foldl (fun sum v => v.toNumber + sum) start

/-- The operands that are added to the first one: those in front of the first operator that is no
addition. -/
def Chain.summands (chain : Chain) : List Operand :=
  (chain.joined.takeWhile fun pair => pair.1 = .plus).map Prod.snd

/-- The first operand as it is, if nothing is added to it, or else the sum. -/
def Chain.value (env : Environment) (chain : Chain) : Value :=
  match chain.summands.map (Operand.value env) with
  | [] => chain.first.value env
  | vs => .number (Value.sum (chain.first.value env).toNumber vs)

/-- The operand that is looked up. -/
def Formula.Event.operand? : Event → Option Operand
  | .lookUp x => some x
  | .passOver _ => none

/-- The operand that waits in the slot. -/
def Formula.Slot.operand? : Slot → Option Operand
  | .pending x => some x
  | .resolved _ => none

/-- The operands are the entries of the formula at these places, no two of which are the same. -/
structure StandAt (entries : List Entry) (xs : List Operand) (places : List Nat) : Prop where
  nodup : places.Nodup
  entry : places.map (fun i => entries[i]?) = xs.map fun x => some (.operand x)

namespace Formula

variable {env : Environment}

/-! ## Chains on the stack -/

namespace Machine

/-- Works off an operand and its operator. -/
def join (env : Environment) (m : Machine) (pair : Operator × Operand) : Machine :=
  (m.step env (.operand pair.2)).step env (.operator pair.1)

/-- A chain is worked off operand by operand. -/
lemma run_entries (env : Environment) (chain : Chain) :
    run env chain.entries = chain.joined.foldl (join env) { stack := [.pending chain.first] } := by
  rw [run, Chain.entries, List.foldl_cons, List.foldl_flatMap]
  rfl

/-- An addition replaces the topmost slot. -/
lemma join_plus {m : Machine} {slot : Slot} {below : List Slot} (h : m.stack = slot :: below)
    (x : Operand) :
    m.join env (.plus, x) =
      { stack := .resolved (.number ((x.value env).toNumber +
          (Slot.value env (some slot)).toNumber)) :: below
        events := m.events ++ [.lookUp x] ++ Slot.lookUps (some slot) } := by
  simp [join, step, add, h, Slot.value, Slot.lookUps]

/-- Any other operator leaves the operand on top. -/
lemma join_equals (m : Machine) (x : Operand) :
    m.join env (.equals, x) =
      { stack := .pending x :: m.stack, events := m.events ++ [.passOver .equals] } := rfl

/-- With two slots on the stack, the bottom is out of reach. -/
lemma join_of_two_le (env : Environment) {m : Machine} (h : 2 ≤ m.stack.length)
    (pair : Operator × Operand) :
    2 ≤ (m.join env pair).stack.length ∧ (m.join env pair).bottom? = m.bottom? := by
  obtain ⟨p, x⟩ := pair
  obtain ⟨slot, next, below, hstack⟩ : ∃ slot next below, m.stack = slot :: next :: below := by
    match hstack : m.stack, h with
    | slot :: next :: below, _ => exact ⟨slot, next, below, rfl⟩
  cases p with
  | plus =>
    rw [join_plus hstack]
    simp [bottom?, hstack, List.getLast?_cons]
  | equals =>
    rw [join_equals]
    simp [bottom?, hstack, List.getLast?_cons]

/-- So it is for all operands that follow. -/
lemma bottom?_foldl_join_of_two_le {m : Machine} (h : 2 ≤ m.stack.length)
    (joined : List (Operator × Operand)) :
    (joined.foldl (join env) m).bottom? = m.bottom? := by
  induction joined generalizing m with
  | nil => rfl
  | cons pair joined ih =>
    obtain ⟨hheight, hbottom⟩ := join_of_two_le env h pair
    rw [List.foldl_cons, ih hheight, hbottom]

/-- An operator that is no addition puts the bottom out of reach. -/
lemma bottom?_foldl_join_equals {m : Machine} (h : m.stack ≠ []) (x : Operand)
    (joined : List (Operator × Operand)) :
    (((.equals, x) :: joined).foldl (join env) m).bottom? = m.bottom? := by
  obtain ⟨slot, below, hstack⟩ := List.exists_cons_of_ne_nil h
  rw [List.foldl_cons, bottom?_foldl_join_of_two_le (by simp [join_equals, hstack]), join_equals]
  simp [bottom?, hstack, List.getLast?_cons]

/-- Additions to a number leave one slot with the sum. -/
lemma foldl_join_plus (a : Float) (events : List Event) (xs : List Operand) :
    (xs.map (Operator.plus, ·)).foldl (join env) ⟨[.resolved (.number a)], events⟩ =
      ⟨[.resolved (.number (Value.sum a (xs.map (Operand.value env))))], events ++ xs.map .lookUp⟩ := by
  induction xs generalizing a events with
  | nil => simp [Value.sum]
  | cons x xs ih =>
    rw [List.map_cons, List.foldl_cons, join_plus rfl, ih]
    simp [Value.sum, Slot.value, Slot.lookUps, Value.toNumber, Value.number?]

/-- Additions to the first operand leave one slot with the sum.  The second operand is looked up before
the first one. -/
lemma foldl_join_plus_pending (x₀ x : Operand) (xs : List Operand) :
    ((x :: xs).map (Operator.plus, ·)).foldl (join env) { stack := [.pending x₀] } =
      ⟨[.resolved (.number
          (Value.sum (x₀.value env).toNumber ((x :: xs).map (Operand.value env))))],
        (x :: x₀ :: xs).map .lookUp⟩ := by
  rw [List.map_cons, List.foldl_cons, join_plus rfl, foldl_join_plus]
  simp [Value.sum, Slot.value, Slot.lookUps]

end Machine

/-- A chain starts with its summands; behind them there is nothing, or an operator that is no
addition. -/
lemma exists_joined_eq (x₀ : Operand) (joined : List (Operator × Operand)) :
    ∃ ignored, joined = (Chain.summands ⟨x₀, joined⟩).map (Operator.plus, ·) ++ ignored ∧
      ∀ pair ∈ ignored.head?, pair.1 = .equals := by
  induction joined with
  | nil => exact ⟨[], rfl, by simp⟩
  | cons pair joined ih =>
    obtain ⟨p, x⟩ := pair
    cases p with
    | plus =>
      obtain ⟨ignored, hjoined, hignored⟩ := ih
      have hsummands : Chain.summands ⟨x₀, (.plus, x) :: joined⟩ =
          x :: Chain.summands ⟨x₀, joined⟩ := rfl
      refine ⟨ignored, ?_, hignored⟩
      rw [hsummands, List.map_cons, List.cons_append, ← hjoined]
    | equals => exact ⟨(.equals, x) :: joined, rfl, by simp⟩

/-- The value of a chain. -/
lemma value_entries (env : Environment) (chain : Chain) :
    value env chain.entries = chain.value env := by
  have hsum : ∃ slot, ((chain.summands.map (Operator.plus, ·)).foldl (Machine.join env)
      { stack := [.pending chain.first] }).stack = [slot] ∧
      Slot.value env (some slot) = chain.value env := by
    unfold Chain.value
    cases chain.summands with
    | nil => exact ⟨_, rfl, rfl⟩
    | cons x xs =>
      rw [Machine.foldl_join_plus_pending]
      exact ⟨_, rfl, rfl⟩
  obtain ⟨slot, hstack, hvalue⟩ := hsum
  obtain ⟨ignored, hjoined, hignored⟩ := exists_joined_eq chain.first chain.joined
  rw [value, Machine.run_entries, hjoined, List.foldl_append]
  generalize (chain.summands.map (Operator.plus, ·)).foldl (Machine.join env)
    { stack := [.pending chain.first] } = m at hstack ⊢
  have hbottom : (ignored.foldl (Machine.join env) m).bottom? = m.bottom? := by
    cases ignored with
    | nil => rfl
    | cons pair ignored =>
      obtain ⟨p, x⟩ := pair
      obtain rfl : p = .equals := hignored _ rfl
      exact Machine.bottom?_foldl_join_equals (by simp [hstack]) x ignored
  rw [hbottom, Machine.bottom?, hstack]
  exact hvalue

/-! ## The events of a formula -/

/-- The last entry is worked off behind the others. -/
lemma Machine.run_append_singleton (env : Environment) (entries : List Entry) (entry : Entry) :
    run env (entries ++ [entry]) = (run env entries).step env entry := by
  rw [run, List.foldl_append]
  rfl

/-- No operator is passed over to find the value of a slot. -/
lemma Slot.countP_lookUps (slot? : Option Slot) :
    (lookUps slot?).countP (fun event => event.operand?.isNone) = 0 := by
  rcases slot? with - | (x | v) <;> rfl

/-- Each operator that is no addition is passed over once. -/
lemma Machine.countP_events_run (env : Environment) (entries : List Entry) :
    (run env entries).events.countP (fun event => event.operand?.isNone) =
      entries.count (.operator .equals) := by
  induction entries using List.reverseRecOn with
  | nil => rfl
  | append_singleton entries entry ih =>
    rw [run_append_singleton, List.count_append, ← ih]
    cases entry with
    | operand x => simp [step]
    | operator p =>
      cases p with
      | plus => simp [step, add, Slot.countP_lookUps]
      | equals => simp [step, Event.operand?]

/-- Each operator that is no addition is remarked on once. -/
lemma countP_remarks (env : Environment) (entries : List Entry) :
    (remarks env entries).countP (fun d => d.kind = .unsupportedOperator) =
      entries.count (.operator .equals) := by
  have hevents : (events env entries).countP (fun event => event.operand?.isNone) =
      entries.count (.operator .equals) := by
    rw [events, List.countP_append, Slot.countP_lookUps, Machine.countP_events_run, Nat.add_zero]
  rw [← hevents, remarks, List.countP_filterMap]
  refine List.countP_congr fun event _ => ?_
  cases event with
  | passOver p => simp [Event.remark?, Event.operand?, Diagnostic.whileRunning]
  | lookUp x =>
    cases x with
    | number text => simp [Event.remark?, Operand.remark?, Event.operand?]
    | identifier name =>
      by_cases hbound : env.contains name <;>
        simp [Event.remark?, Operand.remark?, Event.operand?, Diagnostic.whileRunning, hbound]

/-- In a chain of additions the second operand is looked up before the first one, and the others
follow. -/
lemma remarks_entries_of_plus (env : Environment) (x₀ x : Operand) (xs : List Operand) :
    remarks env (Chain.entries ⟨x₀, (x :: xs).map (.plus, ·)⟩) =
      (x :: x₀ :: xs).filterMap (Operand.remark? env) := by
  have hevents : events env (Chain.entries ⟨x₀, (x :: xs).map (.plus, ·)⟩) =
      (x :: x₀ :: xs).map .lookUp := by
    rw [events, Machine.run_entries, Machine.foldl_join_plus_pending]
    exact List.append_nil _
  rw [remarks, hevents, List.filterMap_map]
  rfl

/-! ## Operands at their places -/

/-- The operands that have been looked up, in their order, and then those that wait on the stack, the
topmost first. -/
def Machine.operands (m : Machine) : List Operand :=
  m.events.filterMap Event.operand? ++ m.stack.filterMap Slot.operand?

end Formula

namespace StandAt

variable {entries : List Entry} {xs ys : List Operand} {places : List Nat}

lemma lt (h : StandAt entries xs places) : ∀ i ∈ places, i < entries.length := by
  intro i hi
  have hmem : entries[i]? ∈ xs.map fun x => some (Entry.operand x) := by
    rw [← h.entry]
    exact List.mem_map_of_mem hi
  obtain ⟨x, -, hx⟩ := List.mem_map.1 hmem
  exact (List.getElem?_eq_some_iff.1 hx.symm).1

/-- Some of the operands stand at some of the places. -/
lemma sublist (h : StandAt entries xs places) (hys : ys.Sublist xs) :
    ∃ fewer, StandAt entries ys fewer := by
  have hentry := hys.map fun x => some (Entry.operand x)
  rw [← h.entry] at hentry
  obtain ⟨fewer, hfewer, heq⟩ := List.sublist_map_iff.1 hentry
  exact ⟨fewer, h.nodup.sublist hfewer, heq.symm⟩

/-- A further entry of the formula moves none of the others. -/
lemma append (h : StandAt entries xs places) (entry : Entry) :
    StandAt (entries ++ [entry]) xs places := by
  refine ⟨h.nodup, ?_⟩
  rw [← h.entry]
  exact List.map_congr_left fun i hi => List.getElem?_append_left (h.lt i hi)

/-- A further operand of the formula stands at a place of its own. -/
lemma insert (h : StandAt entries (xs ++ ys) places) (x : Operand) :
    ∃ more, StandAt (entries ++ [.operand x]) (xs ++ x :: ys) more := by
  obtain ⟨hnodup, hentry⟩ := h.append (.operand x)
  rw [List.map_append] at hentry
  obtain ⟨first, second, rfl, hfirst, hsecond⟩ := List.map_eq_append_iff.1 hentry
  have hnew : entries.length ∉ first ++ second := fun hmem => Nat.lt_irrefl _ (h.lt _ hmem)
  refine ⟨first ++ entries.length :: second, ?_, ?_⟩
  · exact List.nodup_middle.2 (List.nodup_cons.2 ⟨hnew, hnodup⟩)
  · simp [hfirst, hsecond]

end StandAt

namespace Formula

/-- An addition only moves operands from the stack to those that have been looked up. -/
lemma Machine.operands_add (env : Environment) (m : Machine) :
    (m.add env).operands = m.operands := by
  obtain ⟨stack, events⟩ := m
  rcases stack with - | ⟨slot, - | ⟨next, below⟩⟩
  · simp [operands, add, Slot.lookUps, Slot.operand?]
  · cases slot <;> simp [operands, add, Slot.lookUps, Slot.operand?, Event.operand?,
      List.filterMap_cons]
  · cases slot <;> cases next <;> simp [operands, add, Slot.lookUps, Slot.operand?, Event.operand?,
      List.filterMap_cons]

/-- All operands in the machine stand at different places of what has been worked off. -/
lemma Machine.exists_standAt_run (env : Environment) (entries : List Entry) :
    ∃ places, StandAt entries (run env entries).operands places := by
  induction entries using List.reverseRecOn with
  | nil => exact ⟨[], List.nodup_nil, rfl⟩
  | append_singleton entries entry ih =>
    obtain ⟨places, hplaces⟩ := ih
    rw [run_append_singleton]
    cases entry with
    | operand x => exact hplaces.insert x
    | operator p =>
      have hsame : ((run env entries).step env (.operator p)).operands =
          (run env entries).operands := by
        cases p with
        | plus => exact operands_add env _
        | equals => simp [step, operands, Event.operand?]
      rw [hsame]
      exact ⟨places, hplaces.append _⟩

/-- The operands that are looked up stand at different places of the formula. -/
lemma exists_standAt (env : Environment) (entries : List Entry) :
    ∃ places, StandAt entries ((events env entries).filterMap Event.operand?) places := by
  obtain ⟨places, hplaces⟩ := Machine.exists_standAt_run env entries
  refine hplaces.sublist ?_
  have hbottom : ((Slot.lookUps (Machine.run env entries).bottom?).filterMap Event.operand?).Sublist
      ((Machine.run env entries).stack.filterMap Slot.operand?) := by
    unfold Machine.bottom?
    cases hlast : (Machine.run env entries).stack.getLast? with
    | none => simp [Slot.lookUps]
    | some slot =>
      obtain ⟨above, hstack⟩ := List.getLast?_eq_some_iff.1 hlast
      rw [hstack, List.filterMap_append]
      cases slot with
      | pending x => exact List.sublist_append_right _ _
      | resolved v => exact List.nil_sublist _
  rw [events, List.filterMap_append]
  exact List.Sublist.append_left hbottom _

/-- The formula of a chain comes to the sum of the operands in front of the first operator that is no
addition, with each operand added on the left of the sum before it, or to the first operand as it is
if there is nothing to add.  The operands behind have no influence.  Each operator that is no addition
is remarked on once.  If all operators are additions, the second operand is looked up before the first
one and the others follow, so in this order unbound names are remarked on.  No entry of a formula, of
whatever shape, is looked up twice. -/
theorem value_of_chain (env : Environment) (chain : Chain) :
    value env chain.entries = chain.value env ∧
    (∀ env' (chain' : Chain), chain'.first.value env' = chain.first.value env →
      chain'.summands.map (Operand.value env') = chain.summands.map (Operand.value env) →
      value env' chain'.entries = value env chain.entries) ∧
    (∀ entries, (remarks env entries).countP (fun d => d.kind = .unsupportedOperator) =
      entries.count (.operator .equals)) ∧
    (∀ x xs, chain.joined = (x :: xs).map (.plus, ·) →
      remarks env chain.entries = (x :: chain.first :: xs).filterMap (Operand.remark? env)) ∧
    ∀ entries, ∃ places, StandAt entries ((events env entries).filterMap Event.operand?) places := by
  refine ⟨value_entries env chain, ?_, countP_remarks env, ?_, exists_standAt env⟩
  · intro env' chain' hfirst hsummands
    rw [value_entries, value_entries, Chain.value, Chain.value, hfirst, hsummands]
  · intro x xs hjoined
    obtain ⟨x₀, joined⟩ := chain
    obtain rfl : joined = (x :: xs).map (.plus, ·) := hjoined
    exact remarks_entries_of_plus env x₀ x xs

/-- Three unbound names that are added, and the same with an equals sign and two operands behind them,
of which one is bound. -/
theorem value_of_chain_unbound :
    let chain : Chain :=
      ⟨.identifier "a", [(.plus, .identifier "b"), (.plus, .identifier "c")]⟩
    let longer : Chain :=
      ⟨chain.first, chain.joined ++ [(.equals, .identifier "d"), (.plus, .number "5")]⟩
    let env := Environment.empty.define "d" (.number 1.5)
    longer.first.value env = chain.first.value .empty ∧
    longer.summands.map (Operand.value env) = chain.summands.map (Operand.value .empty) ∧
    value env longer.entries = value .empty chain.entries ∧
    chain.joined = [Operand.identifier "b", .identifier "c"].map (.plus, ·) ∧
    (remarks .empty chain.entries).map Diagnostic.message =
      ["`b` is not bound", "`a` is not bound", "`c` is not bound"] := by
  intro chain longer env
  have hunbound (name : String) (hname : "d" ≠ name) :
      (Operand.identifier name).value env = (Operand.identifier name).value .empty := by
    rw [Operand.value, Operand.value, Environment.get?_define_of_ne _ _ hname]
  have hfirst : longer.first.value env = chain.first.value .empty := hunbound "a" (by decide)
  have hsummands : longer.summands.map (Operand.value env) =
      chain.summands.map (Operand.value .empty) := by
    have hb := hunbound "b" (by decide)
    have hc := hunbound "c" (by decide)
    simp [longer, chain, Chain.summands, hb, hc]
  obtain ⟨-, hvalue, -, horder, -⟩ := value_of_chain .empty chain
  refine ⟨hfirst, hsummands, hvalue env longer hfirst hsummands, rfl, ?_⟩
  rw [horder (.identifier "b") [.identifier "c"] rfl]
  simp [chain, Operand.remark?, Environment.contains, Diagnostic.whileRunning]

end Formula

end Summand
