import Summand.Proofs.Evaluation.CallDepth

/-!
# Counting calls

How far calls are nested can also be counted in a word of the machine, which is raised when a body is
entered and lowered when it is left.  `CountingInterpreter` evaluates in this way: one interpreter is
handed through everything that is evaluated, remarks are passed on as they are made, and nothing in
the rules says that evaluation ends or that the counter stays in its range.

It does both (`exists_block`, `exists_evaluate`): the induction is on the depth of calls that is left
below the limit, and within it on the statements of a block.  The counter comes back to where it was
(`Restores`), whether a fault has ended the evaluation or not.  So an interpreter carries nothing over
from one use to the next, which is the main statement, `counting_ends_and_restores`.
-/

namespace Summand

/-- An interpreter that counts the calls it is inside of, in a word of `w` bits. -/
structure CountingInterpreter (w : Nat) where
  limit : BitVec w
  /-- The number of calls that are being evaluated. -/
  depth : BitVec w := 0
  channel : Channel := .closed
  /-- Every depth that was counted so far, in order. -/
  depths : List (BitVec w) := []

namespace CountingInterpreter

variable {w : Nat}

/-! ## Evaluation with a counter -/

/-- The interpreter after it has passed remarks on. -/
def tell (i : CountingInterpreter w) (remarks : List Diagnostic) : CountingInterpreter w :=
  { i with channel := i.channel.send remarks }

/-- The interpreter at another depth. -/
def count (i : CountingInterpreter w) (depth : BitVec w) : CountingInterpreter w :=
  { i with depth, depths := i.depths ++ [depth] }

/-- Counts one call more, unless the word is too short. -/
def deepen? (i : CountingInterpreter w) : Option (CountingInterpreter w) :=
  if i.depth.uaddOverflow 1 then none else some (i.count (i.depth + 1))

/-- Counts one call less, unless there is none. -/
def rise? (i : CountingInterpreter w) : Option (CountingInterpreter w) :=
  if i.depth.usubOverflow 1 then none else some (i.count (i.depth - 1))

-- Nothing comes out where evaluation does not end, and where the counter leaves its range.
mutual

/-- Runs statements with a value so far. -/
def block (i : CountingInterpreter w) (env : Environment) (last : Value) (body : List Stmt) :
    Option (Except Fault Value × Environment × CountingInterpreter w) :=
  match body with
  | [] => some (.ok last, env, i)
  | .function name inner :: rest => i |>.block (env.define name (.function name inner)) last rest
  | .binding name e :: rest => do
    match ← i |>.evaluate env e with
    | (.ok v, j) => j |>.block (env.define name v) last rest
    | (.error fault, j) => some (.error fault, env, j)
  | .ret e :: rest => do
    match ← i |>.evaluate env e with
    | (.ok v, j) => j |>.block env v rest
    | (.error fault, j) => some (.error fault, env, j)
  | .expression e :: rest => do
    match ← i |>.evaluate env e with
    | (.ok v, j) => j |>.block env v rest
    | (.error fault, j) => some (.error fault, env, j)
partial_fixpoint

/-- Evaluates an expression. -/
def evaluate (i : CountingInterpreter w) (env : Environment) (e : Expr) :
    Option (Except Fault Value × CountingInterpreter w) :=
  match e with
  | .formula entries =>
    some (.ok (Formula.value env entries), i.tell (Formula.remarks env entries))
  | .call callee => i |>.call callee env
partial_fixpoint

/-- Calls what a name is bound to. The counter is lowered again whatever the body comes to. -/
def call (i : CountingInterpreter w) (callee : String) (env : Environment) :
    Option (Except Fault Value × CountingInterpreter w) :=
  match env.get? callee with
  | some (.function _ body) =>
    if i.limit ≤ i.depth then
      some (.error (.callDepthExceeded callee i.limit.toNat), i)
    else do
      let inside ← i.deepen?
      let (result, _, last) ← inside |>.block env .undefined body
      let outside ← last.rise?
      some (result, outside)
  | some v =>
    some (.ok .undefined,
      i.tell [notCallable ("`" ++ callee ++ "` is " ++ v.text ++ ", not a function")])
  | none => some (.ok .undefined, i.tell [notCallable ("`" ++ callee ++ "` is not bound")])
partial_fixpoint

end

/-- Runs statements and keeps their bindings. -/
def extend (i : CountingInterpreter w) (body : List Stmt) (env : Environment) :
    Option (Except Fault Value × Environment × CountingInterpreter w) :=
  i.block env .undefined body

/-- Runs statements without keeping their bindings. -/
def run (i : CountingInterpreter w) (body : List Stmt) (env : Environment) :
    Option (Except Fault Value × CountingInterpreter w) := do
  let (result, _, after) ← i.extend body env
  some (result, after)

/-- The interpreter with another limit. -/
def setLimit (i : CountingInterpreter w) (limit : BitVec w) : CountingInterpreter w :=
  { i with limit }

/-! ## What an evaluation leaves of the interpreter -/

/-- Behind an evaluation with the remarks the interpreter is as it was, but for the remarks it has
passed on and the depths it has counted, none of them above the limit. -/
structure Restores (i j : CountingInterpreter w) (remarks : List Diagnostic) : Prop where
  limit : j.limit = i.limit
  depth : j.depth = i.depth
  channel : j.channel = i.channel.send remarks
  depths : ∃ counted, j.depths = i.depths ++ counted ∧ ∀ d ∈ counted, d ≤ i.limit

namespace Restores

variable {i j k : CountingInterpreter w} {first second : List Diagnostic}

lemma refl (i : CountingInterpreter w) : i.Restores i [] :=
  ⟨rfl, rfl, (Channel.send_nil _).symm, [], by simp⟩

/-- Passing remarks on moves no counter. -/
lemma tell (i : CountingInterpreter w) (remarks : List Diagnostic) :
    i.Restores (i.tell remarks) remarks :=
  ⟨rfl, rfl, rfl, [], by simp [CountingInterpreter.tell]⟩

lemma trans (hij : i.Restores j first) (hjk : j.Restores k second) :
    i.Restores k (first ++ second) := by
  obtain ⟨counted, hcounted, hle⟩ := hij.depths
  obtain ⟨counted', hcounted', hle'⟩ := hjk.depths
  rw [hij.limit] at hle'
  refine ⟨hjk.limit.trans hij.limit, hjk.depth.trans hij.depth, ?_, counted ++ counted', ?_, ?_⟩
  · rw [hjk.channel, hij.channel, Channel.send_append]
  · rw [hcounted', hcounted, List.append_assoc]
  · intro d hd
    rcases List.mem_append.1 hd with hd | hd
    · exact hle d hd
    · exact hle' d hd

end Restores

/-- The word is long enough to count one call if some limit is above some depth. -/
lemma one_toNat_of_lt {d limit : BitVec w} (h : d < limit) : (1 : BitVec w).toNat = 1 := by
  have hlimit := limit.isLt
  have hlt : 1 < 2 ^ w := by
    have := BitVec.lt_def.1 h
    omega
  exact (BitVec.toNat_ofNat 1 w).trans (Nat.mod_eq_of_lt hlt)

/-- A depth below the limit can be raised within the word. -/
lemma toNat_succ_of_lt {d limit : BitVec w} (h : d < limit) : (d + 1).toNat = d.toNat + 1 := by
  have hlimit := limit.isLt
  have hlt := BitVec.lt_def.1 h
  rw [BitVec.toNat_add, one_toNat_of_lt h]
  exact Nat.mod_eq_of_lt (by omega)

section Counting

variable {i : CountingInterpreter w}

/-- Below the limit the counter can be raised. -/
lemma deepen?_of_lt (h : i.depth < i.limit) : i.deepen? = some (i.count (i.depth + 1)) := by
  have hover : i.depth.uaddOverflow 1 = false := by
    have hlimit := i.limit.isLt
    have hlt := BitVec.lt_def.1 h
    simp only [BitVec.uaddOverflow, one_toNat_of_lt h, decide_eq_false_iff_not]
    omega
  rw [deepen?, hover]
  rfl

/-- A counter that was raised below the limit can be lowered again. -/
lemma rise?_of_eq_succ {d : BitVec w} (h : d < i.limit) (hd : i.depth = d + 1) :
    i.rise? = some (i.count d) := by
  have hover : i.depth.usubOverflow 1 = false := by
    simp only [hd, BitVec.usubOverflow, toNat_succ_of_lt h, one_toNat_of_lt h,
      decide_eq_false_iff_not]
    omega
  rw [rise?, hover, hd, BitVec.add_sub_cancel]
  rfl

/-- Counting a call before and uncounting it after an evaluation leaves the interpreter as it was. -/
lemma Restores.around {j : CountingInterpreter w} {remarks : List Diagnostic}
    (h : i.depth < i.limit) (hj : (i.count (i.depth + 1)).Restores j remarks) :
    i.Restores (j.count i.depth) remarks := by
  obtain ⟨counted, hcounted, hle⟩ := hj.depths
  have hsucc : i.depth + 1 ≤ i.limit := by
    have hlt := BitVec.lt_def.1 h
    rw [BitVec.le_def, toNat_succ_of_lt h]
    omega
  refine ⟨hj.limit, rfl, hj.channel, [i.depth + 1] ++ counted ++ [i.depth], ?_, ?_⟩
  · simp [count, hcounted]
  · intro d hd
    simp only [List.mem_append, List.mem_singleton] at hd
    rcases hd with (rfl | hd) | rfl
    · exact hsucc
    · exact hle d hd
    · exact BitVec.le_of_lt h

section Call

variable {env : Environment} {callee name : String} {body : List Stmt}

/-- At the limit no function is entered. -/
lemma call_of_le (hbound : env.get? callee = some (.function name body)) (h : i.limit ≤ i.depth) :
    i.call callee env = some (.error (.callDepthExceeded callee i.limit.toNat), i) := by
  rw [call.eq_def, hbound]
  exact if_pos h

/-- Below the limit a function is entered, and left again if its body ends. -/
lemma call_of_lt (hbound : env.get? callee = some (.function name body)) (h : i.depth < i.limit)
    {result : Except Fault Value} {last : Environment} {j : CountingInterpreter w}
    {remarks : List Diagnostic}
    (hbody : (i.count (i.depth + 1)).block env .undefined body = some (result, last, j))
    (hj : (i.count (i.depth + 1)).Restores j remarks) :
    i.call callee env = some (result, j.count i.depth) := by
  have hlimit : i.depth < j.limit := by
    rw [hj.limit]
    exact h
  rw [call.eq_def, hbound]
  refine (if_neg (BitVec.not_le.2 h)).trans ?_
  simp only [deepen?_of_lt h, bind, Option.bind_some, hbody, rise?_of_eq_succ hlimit hj.depth]

end Call

end Counting

/-! ## Evaluation ends -/

/-- At the depth, calling functions ends and comes to what entering their bodies comes to. -/
def Follows (limit depth : BitVec w) (enter : Enter) : Prop :=
  ∀ i : CountingInterpreter w, i.limit = limit → i.depth = depth →
    ∀ (env : Environment) (callee name : String) (body : List Stmt),
      env.get? callee = some (.function name body) →
      ∃ j, i.call callee env = some ((enter callee body env).result, j) ∧
        i.Restores j (enter callee body env).remarks

section Follows

variable {limit depth : BitVec w} {enter : Enter}

/-- Where calling functions ends, evaluating an expression does. -/
lemma evaluate_of_follows (h : Follows limit depth enter) {i : CountingInterpreter w}
    (hlimit : i.limit = limit) (hdepth : i.depth = depth) (env : Environment) (e : Expr) :
    ∃ j, i.evaluate env e = some ((Summand.evaluate enter env e).result, j) ∧
      i.Restores j (Summand.evaluate enter env e).remarks := by
  rw [evaluate.eq_def]
  cases e with
  | formula entries => exact ⟨_, rfl, .tell i _⟩
  | call callee =>
    cases hbound : env.get? callee with
    | none =>
      rw [Summand.evaluate, call_of_unbound hbound]
      refine ⟨_, ?_, .tell i _⟩
      simp only [call.eq_def, hbound]
    | some v =>
      cases v with
      | function name body =>
        rw [Summand.evaluate, call_of_function hbound]
        exact h i hlimit hdepth env callee name body hbound
      | number x =>
        rw [Summand.evaluate, call_of_notFunction hbound (by simp)]
        refine ⟨_, ?_, .tell i _⟩
        simp only [call.eq_def, hbound]
      | undefined =>
        rw [Summand.evaluate, call_of_notFunction hbound (by simp)]
        refine ⟨_, ?_, .tell i _⟩
        simp only [call.eq_def, hbound]

/-- Behind a statement with an expression that has a value the others are run. -/
lemma block_of_ok {s : Stmt} {e : Expr} (hs : s.expr? = some e) {i j : CountingInterpreter w}
    {env : Environment} {u : Value} (hvalue : i.evaluate env e = some (.ok u, j)) (v : Value)
    (rest : List Stmt) :
    i.block env v (s :: rest) = j.block (s.settle env v u).1 (s.settle env v u).2 rest := by
  cases s <;> simp only [Stmt.expr?, Option.some.injEq, reduceCtorEq] at hs <;> subst hs <;>
    simp [block.eq_def i, hvalue, Stmt.settle]

/-- A fault in the expression of a statement ends the run. -/
lemma block_of_error {s : Stmt} {e : Expr} (hs : s.expr? = some e) {i j : CountingInterpreter w}
    {env : Environment} {fault : Fault} (hvalue : i.evaluate env e = some (.error fault, j))
    (v : Value) (rest : List Stmt) :
    i.block env v (s :: rest) = some (.error fault, env, j) := by
  cases s <;> simp only [Stmt.expr?, Option.some.injEq, reduceCtorEq] at hs <;> subst hs <;>
    simp [block.eq_def i, hvalue]

/-- Where calling functions ends, running statements does. -/
lemma block_of_follows (h : Follows limit depth enter) {i : CountingInterpreter w}
    (hlimit : i.limit = limit) (hdepth : i.depth = depth) (env : Environment) (v : Value)
    (body : List Stmt) :
    ∃ j, i.block env v body = some (((Run.ofValue env v).steps enter body).result,
        ((Run.ofValue env v).steps enter body).environment, j) ∧
      i.Restores j ((Run.ofValue env v).steps enter body).remarks := by
  induction body generalizing i env v with
  | nil =>
    refine ⟨i, ?_, .refl i⟩
    rw [block.eq_def]
    rfl
  | cons s rest ih =>
    cases hs : s.expr? with
    | none =>
      obtain ⟨name, inner, rfl⟩ := Stmt.eq_function_of_expr? hs
      rw [block.eq_def, Run.steps_function]
      exact ih hlimit hdepth _ v
    | some e =>
      obtain ⟨j, hvalue, hij⟩ := evaluate_of_follows h hlimit hdepth env e
      rw [Run.steps_of_expr? hs]
      cases hresult : (Summand.evaluate enter env e).result with
      | error fault =>
        rw [hresult] at hvalue
        exact ⟨j, block_of_error hs hvalue v rest, hij⟩
      | ok u =>
        rw [hresult] at hvalue
        obtain ⟨k, hrest, hjk⟩ := ih (hij.limit.trans hlimit) (hij.depth.trans hdepth)
          (s.settle env v u).1 (s.settle env v u).2
        exact ⟨k, (block_of_ok hs hvalue v rest).trans hrest, hij.trans hjk⟩

end Follows

/-- Calling functions ends at every depth up to the limit, and comes to what entering their bodies
within the limit comes to. -/
lemma follows_enterWithin (limit : BitVec w) (left : Nat) (depth : BitVec w)
    (hleft : depth.toNat + left = limit.toNat) :
    Follows limit depth (enterWithin limit.toNat left) := by
  induction left generalizing depth with
  | zero =>
    rintro i rfl rfl env callee name body hbound
    have hle : i.limit ≤ i.depth := by
      rw [BitVec.le_def]
      omega
    exact ⟨i, call_of_le hbound hle, .refl i⟩
  | succ left ih =>
    rintro i rfl rfl env callee name body hbound
    have hlt : i.depth < i.limit := by
      rw [BitVec.lt_def]
      omega
    have hinner : Follows i.limit (i.depth + 1) (enterWithin i.limit.toNat left) := by
      apply ih
      rw [toNat_succ_of_lt hlt]
      omega
    obtain ⟨j, hbody, hj⟩ := block_of_follows (i := i.count (i.depth + 1)) hinner rfl rfl env
      .undefined body
    exact ⟨j.count i.depth, call_of_lt hbound hlt hbody hj, hj.around hlt⟩

/-- How function bodies are entered with the depth of calls that is left. -/
def enter (i : CountingInterpreter w) : Enter :=
  enterWithin i.limit.toNat (i.limit.toNat - i.depth.toNat)

/-- So does an interpreter with the depth that it has left. -/
lemma follows_enter {i : CountingInterpreter w} (h : i.depth ≤ i.limit) :
    Follows i.limit i.depth i.enter := by
  apply follows_enterWithin
  have hle := BitVec.le_def.1 h
  omega

/-- Up to the limit, running statements ends and leaves the counter as it was. -/
lemma exists_block {i : CountingInterpreter w} (h : i.depth ≤ i.limit) (env : Environment)
    (v : Value) (body : List Stmt) :
    let run := (Run.ofValue env v).steps i.enter body
    ∃ j, i.block env v body = some (run.result, run.environment, j) ∧ i.Restores j run.remarks :=
  block_of_follows (follows_enter h) rfl rfl env v body

/-- Up to the limit, evaluating an expression ends and leaves the counter as it was. -/
lemma exists_evaluate {i : CountingInterpreter w} (h : i.depth ≤ i.limit) (env : Environment)
    (e : Expr) :
    let o := Summand.evaluate i.enter env e
    ∃ j, i.evaluate env e = some (o.result, j) ∧ i.Restores j o.remarks :=
  evaluate_of_follows (follows_enter h) rfl rfl env e

/-! ## One use after the other -/

/-- What an interpreter can be used for. -/
inductive Use (w : Nat) where
  | run (body : List Stmt) (env : Environment)
  | extend (body : List Stmt) (env : Environment)
  | evaluate (e : Expr) (env : Environment)
  | setLimit (limit : BitVec w)

/-- What the caller gets back from a use, if it asks for a value: the result, and the environment that
was handed over, as it then is. -/
abbrev Returned := Option (Except Fault Value × Environment)

/-- The limit behind a use. -/
def Use.limit (limit : BitVec w) : Use w → BitVec w
  | .setLimit limit' => limit'
  | _ => limit

/-- What a use of a new interpreter with the limit gives back, and the remarks it makes. -/
def Use.fresh (limit : BitVec w) : Use w → Returned × List Diagnostic
  | .run body env =>
    let (result, after) := Interpreter.run ⟨limit.toNat, .fresh⟩ body env
    (some (result, env), after.channel.pending)
  | .extend body env =>
    let (result, last, after) := Interpreter.extend ⟨limit.toNat, .fresh⟩ body env
    (some (result, last), after.channel.pending)
  | .evaluate e env =>
    let (result, after) := Interpreter.evaluate ⟨limit.toNat, .fresh⟩ e env
    (some (result, env), after.channel.pending)
  | .setLimit _ => (none, [])

/-- Uses an interpreter. -/
def use (i : CountingInterpreter w) : Use w → Option (Returned × CountingInterpreter w)
  | .run body env => do
    let (result, j) ← i.run body env
    some (some (result, env), j)
  | .extend body env => do
    let (result, last, j) ← i.extend body env
    some (some (result, last), j)
  | .evaluate e env => do
    let (result, j) ← i.evaluate env e
    some (some (result, env), j)
  | .setLimit limit => some (none, i.setLimit limit)

/-- The interpreter behind one use after the other. -/
def uses (i : CountingInterpreter w) : List (Use w) → Option (CountingInterpreter w)
  | [] => some i
  | u :: rest => do
    let (_, j) ← i.use u
    j.uses rest

/-- A use of an interpreter that is inside of no call is answered as by a new interpreter, and leaves
the counter as it was. -/
lemma exists_use {i : CountingInterpreter w} (h : i.depth = 0) (u : Use w) :
    ∃ j, i.use u = some ((u.fresh i.limit).1, j) ∧
      (i.setLimit (u.limit i.limit)).Restores j (u.fresh i.limit).2 := by
  have hle : i.depth ≤ i.limit := by
    rw [h, BitVec.le_def]
    simp
  have henter : i.enter = enterWithin i.limit.toNat i.limit.toNat := by
    simp [enter, h]
  cases u with
  | run body env =>
    obtain ⟨j, hblock, hj⟩ := exists_block hle env .undefined body
    rw [henter] at hblock hj
    refine ⟨j, ?_, ?_⟩
    · simp only [use, run, extend, hblock]
      rfl
    · simp only [Use.fresh, Interpreter.run, Interpreter.extend, Interpreter.tell,
        Channel.pending_send_fresh]
      exact hj
  | extend body env =>
    obtain ⟨j, hblock, hj⟩ := exists_block hle env .undefined body
    rw [henter] at hblock hj
    refine ⟨j, ?_, ?_⟩
    · simp only [use, extend, hblock]
      rfl
    · simp only [Use.fresh, Interpreter.extend, Interpreter.tell, Channel.pending_send_fresh]
      exact hj
  | evaluate e env =>
    obtain ⟨j, hvalue, hj⟩ := exists_evaluate hle env e
    rw [henter] at hvalue hj
    refine ⟨j, ?_, ?_⟩
    · simp only [use, hvalue]
      rfl
    · simp only [Use.fresh, Interpreter.evaluate, Interpreter.tell, Channel.pending_send_fresh]
      exact hj
  | setLimit limit => exact ⟨i.setLimit limit, rfl, .refl _⟩

/-- Any number of uses come to an end, inside of no call. -/
lemma exists_uses {i : CountingInterpreter w} (h : i.depth = 0) (us : List (Use w)) :
    ∃ j, i.uses us = some j ∧ j.limit = us.foldl Use.limit i.limit ∧ j.depth = 0 := by
  induction us generalizing i with
  | nil => exact ⟨i, rfl, rfl, h⟩
  | cons u rest ih =>
    obtain ⟨j, huse, hj⟩ := exists_use h u
    obtain ⟨k, hrest, hlimit, hdepth⟩ := ih (hj.depth.trans h)
    refine ⟨k, ?_, ?_, hdepth⟩
    · simp only [uses, huse]
      exact hrest
    · rw [hlimit, hj.limit]
      rfl

/-- Evaluation with a counter ends in every environment, for all statements and expressions and at any
depth up to the limit, with what evaluation within the limit comes to; the counter never leaves its
range or passes the limit, and is back where it was, also behind a fault.  So after any uses of one
interpreter, each further use has the result, the environment and the remarks that a new interpreter
with the same limit gives. -/
theorem counting_ends_and_restores :
    (∀ i : CountingInterpreter w, i.depth ≤ i.limit → ∀ env : Environment,
      (∀ v body,
        let run := (Run.ofValue env v).steps i.enter body
        ∃ j, i.block env v body = some (run.result, run.environment, j) ∧
          i.Restores j run.remarks) ∧
      (∀ e,
        let o := Summand.evaluate i.enter env e
        ∃ j, i.evaluate env e = some (o.result, j) ∧ i.Restores j o.remarks)) ∧
    ∀ (limit : BitVec w) (channel : Channel) (earlier : List (Use w)) (u : Use w),
      ∃ i j, uses { limit, channel } earlier = some i ∧
        i.limit = earlier.foldl Use.limit limit ∧ i.depth = 0 ∧
        i.use u = some ((u.fresh i.limit).1, j) ∧
        (i.setLimit (u.limit i.limit)).Restores j (u.fresh i.limit).2 := by
  refine ⟨fun i h env => ⟨exists_block h env, exists_evaluate h env⟩, ?_⟩
  intro limit channel earlier u
  obtain ⟨i, huses, hlimit, hdepth⟩ := exists_uses (i := { limit, channel }) rfl earlier
  obtain ⟨j, huse, hj⟩ := exists_use hdepth u
  exact ⟨i, j, huses, hlimit, hdepth, huse, hj⟩

/-- With two calls allowed for, of which one is being evaluated, a function that calls itself is
entered once more before the fault, and the counter is back at one. -/
theorem counting_ends_and_restores_recursion :
    let env := Environment.empty.define "f" (.function "f" [.expression (.call "f")])
    let i : CountingInterpreter 64 := { limit := 2, depth := 1 }
    i.depth ≤ i.limit ∧
    ∃ j, i.evaluate env (.call "f") = some (.error (.callDepthExceeded "f" 2), j) ∧
      i.Restores j [] := by
  intro env i
  have hle : i.depth ≤ i.limit := by decide
  have ho : Summand.evaluate i.enter env (.call "f") = ⟨.error (.callDepthExceeded "f" 2), []⟩ := by
    simp [enter, i, env, Summand.evaluate, Summand.call, enterWithin, runBlock, Run.steps, Run.step,
      Run.yield, Run.outcome]
  obtain ⟨j, hvalue, hj⟩ := ((counting_ends_and_restores (w := 64)).1 i hle env).2 (.call "f")
  rw [ho] at hvalue hj
  exact ⟨hle, j, hvalue, hj⟩

end CountingInterpreter

end Summand
