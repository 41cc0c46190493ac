import Summand.Proofs.Program.Continuation

/-!
# Reading by descent

Blocks and expressions can also be read by functions that call each other, one for each construct,
with a cursor that every function moves and a counter of the function bodies that are being read.
`DescendingParser` reads in this way.  Nothing in its rules says that the reading ends, that the
cursor stays within the tokens or that the counter comes back to where it was.

All of this follows from comparing it with the readers that take one token at a time (`Leads`): while
the parser moves from one place to another, the reader goes from one state to another.  A function of
the parser that has come to its end has led in front of a statement, also when the tokens have run
out, because what a construct still lacks is remarked on by the function that reads it.  The induction
is on the tokens that are left; inside of a body it is the stack of open functions that makes up for
the counter (`readsBlock`).

So a parser carries nothing over from one use to the next but its place, which is the main statement,
`descent_ends_and_forgets`.
-/

namespace Summand

/-- A parser that descends into function bodies. -/
structure DescendingParser where
  tokens : List Token
  /-- The number of tokens in front of the cursor. -/
  position : Nat := 0
  /-- The number of function bodies that are being read. -/
  depth : Nat := 0
  channel : Channel := .closed

namespace DescendingParser

/-! ## The functions that read -/

/-- The token behind the cursor. -/
def current? (p : DescendingParser) : Option Token :=
  p.tokens[p.position]?

/-- Moves the cursor, whether there is a token or not. -/
def advance (p : DescendingParser) : DescendingParser :=
  { p with position := p.position + 1 }

/-- Passes remarks on. -/
def tell (p : DescendingParser) (remarks : List Diagnostic) : DescendingParser :=
  { p with channel := p.channel.send remarks }

/-- Moves behind a token that is passed over. -/
def skip (p : DescendingParser) (t : Token) : DescendingParser :=
  (p.tell t.skipped?.toList).advance

/-- Remarks on the end of the tokens. -/
def lack (p : DescendingParser) (expected : String) : DescendingParser :=
  p.tell [.unexpectedEnd (Token.endOf p.tokens) expected]

/-- Counts one body more. -/
def deepen (p : DescendingParser) : DescendingParser :=
  { p with depth := p.depth + 1 }

/-- Counts one body less, unless there is none. -/
def rise? (p : DescendingParser) : Option DescendingParser :=
  if p.depth = 0 then none else some { p with depth := p.depth - 1 }

-- Nothing comes out where the reading does not end, and where the counter would fall below zero.

/-- Passes over tokens up to one that is sought, and stops in front of it. -/
def skipUntil (p : DescendingParser) (sought : Token → Bool) (expected : String) :
    Option (Option Token × DescendingParser) :=
  match p.current? with
  | none => some (none, p.lack expected)
  | some t => if sought t then some (some t, p) else p.skip t |>.skipUntil sought expected
partial_fixpoint

/-- Reads a call from behind its opening parenthesis. -/
def arguments (p : DescendingParser) (callee : String) : Option (Expr × DescendingParser) :=
  match p.current? with
  | none => some (.call callee, p.lack "`)`")
  | some t => if t.text = ")" then some (.call callee, p.advance) else p.skip t |>.arguments callee
partial_fixpoint

/-- Reads an expression of which some operands have been read. -/
def formula (p : DescendingParser) (draft : Draft) : Option (Expr × DescendingParser) :=
  match p.current? with
  | none => some (draft.expr, p)
  | some t =>
    match t.role with
    | .operand x =>
      let remarks := if draft.lacksOperator then [ExprState.missingOperator t] else []
      (p.tell remarks).advance |>.formula (draft.push x)
    | .sign p? => p.advance |>.formula { draft with operator? := p? }
    | .terminator => some (draft.expr, p.advance)
    | .opening =>
      match draft.callee? with
      | some callee => arguments p.advance callee
      | none => p.skip t |>.formula draft
    | .stray => p.skip t |>.formula draft
partial_fixpoint

/-- Reads the name of a function, and stops in front of the opening parenthesis. -/
def functionName (p : DescendingParser) (text : String) :
    Option (Option String × DescendingParser) :=
  match p.current? with
  | none => some (none, p.lack "`(` after the function name")
  | some t =>
    if t.text = "(" then some (some text, p) else p.advance |>.functionName (text ++ t.text)
partial_fixpoint

/-- Passes over everything in front of the body of a function. -/
def functionHead (p : DescendingParser) : Option (Bool × DescendingParser) :=
  match p.current? with
  | none => some (false, p.lack "`\x7b` before the function body")
  | some t =>
    if t.text = "\x7b" then some (true, p)
    else if t.kind = .paren then p.advance |>.functionHead
    else p.skip t |>.functionHead
partial_fixpoint

/-- Reads a binding from behind its keyword. -/
def binding (p : DescendingParser) : Option (Option Stmt × DescendingParser) := do
  match ← p.skipUntil (fun t => t.kind = .word) "a binding name" with
  | (none, q) => some (none, q)
  | (some name, q) =>
    match ← q.advance.skipUntil (fun t => t.text = "=") "`=`" with
    | (none, r) => some (none, r)
    | (some _, r) =>
      let (e, last) ← r.advance.formula {}
      some (some (.binding name.text e), last)

mutual

/-- Reads statements behind those that have been read. -/
def block (p : DescendingParser) (body : List Stmt) : Option (List Stmt × DescendingParser) :=
  match p.current? with
  | none => some (body, if 0 < p.depth then p.lack "`\x7d`" else p)
  | some t =>
    match t.kind with
    | .functionKeyword => do
      let (s?, q) ← p.advance |>.function
      q |>.block (body ++ s?.toList)
    | .returnKeyword => do
      let (e, q) ← p.advance.formula {}
      q |>.block (body ++ [.ret e])
    | .letKeyword => do
      let (s?, q) ← p.advance.binding
      q |>.block (body ++ s?.toList)
    | .word => do
      let (e, q) ← p.formula {}
      q |>.block (body ++ [.expression e])
    | .brace =>
      if t.text = "\x7d" then
        let remarks := if p.depth = 0 then [BlockState.unbalancedBrace t] else []
        some (body, p.advance.tell remarks)
      else p.advance |>.block body
    | .space | .lineBreak | .semicolon => p.advance |>.block body
    | _ => p.skip t |>.block body
partial_fixpoint

/-- Reads a function from behind its keyword. -/
def function (p : DescendingParser) : Option (Option Stmt × DescendingParser) := do
  match ← p.functionName "" with
  | (none, q) => some (none, q)
  | (some name, q) =>
    match ← q.functionHead with
    | (false, r) => some (none, r)
    | (true, r) =>
      let (body, inside) ← r.advance.deepen |>.block []
      let outside ← inside.rise?
      some (some (.function (Text.trim name) body), outside)
partial_fixpoint

end

/-! ## Places -/

/-- The tokens behind the cursor. -/
def rest (p : DescendingParser) : List Token :=
  p.tokens.drop p.position

/-- The parser so many tokens further on, with remarks passed on. -/
def moved (p : DescendingParser) (n : Nat) (remarks : List Diagnostic) : DescendingParser :=
  { p with position := p.position + n, channel := p.channel.send remarks }

section Places

variable {p : DescendingParser} {t : Token}

/-- The token behind the cursor is the first of those behind the cursor. -/
lemma current?_eq (p : DescendingParser) : p.current? = p.rest.head? :=
  List.head?_drop.symm

lemma current?_of_rest {rest : List Token} (h : p.rest = t :: rest) : p.current? = some t := by
  rw [current?_eq, h, List.head?_cons]

lemma current?_of_rest_nil (h : p.rest = []) : p.current? = none := by
  rw [current?_eq, h, List.head?_nil]

@[simp] lemma rest_moved (p : DescendingParser) (n : Nat) (remarks : List Diagnostic) :
    (p.moved n remarks).rest = p.rest.drop n :=
  List.drop_drop.symm

lemma moved_zero (p : DescendingParser) : p.moved 0 [] = p := by
  simp [moved]

lemma moved_moved (p : DescendingParser) (m n : Nat) (first second : List Diagnostic) :
    (p.moved m first).moved n second = p.moved (m + n) (first ++ second) := by
  simp only [moved, Channel.send_append, Nat.add_assoc]

/-- To advance is to move over one token. -/
lemma advance_eq (p : DescendingParser) : p.advance = p.moved 1 [] := by
  simp [advance, moved]

lemma tell_advance (p : DescendingParser) (remarks : List Diagnostic) :
    (p.tell remarks).advance = p.moved 1 remarks := rfl

/-- To pass over a token is to move over it with the remark on it. -/
lemma skip_eq (p : DescendingParser) (t : Token) : p.skip t = p.moved 1 t.skipped?.toList := rfl

/-- To show something of every place, show it where no token is left, and at a token if it holds
behind the token. -/
@[elab_as_elim]
lemma placeInduction {motive : DescendingParser → Prop} (p : DescendingParser)
    (ending : ∀ p, p.rest = [] → motive p)
    (token : ∀ (p : DescendingParser) (t : Token) (rest : List Token), p.rest = t :: rest →
      (∀ remarks, motive (p.moved 1 remarks)) → motive p) : motive p := by
  induction hrest : p.rest generalizing p with
  | nil => exact ending p hrest
  | cons t rest ih =>
    refine token p t rest hrest fun remarks => ih _ ?_
    rw [rest_moved, hrest, List.drop_one, List.tail_cons]

end Places

/-! ## Expressions -/

/-- What a reader that starts at the cursor comes to, and the parser behind what it has consumed. -/
def follow {State Result : Type} (p : DescendingParser) (reader : Reader State Result)
    (s : State) : Result × DescendingParser :=
  let reading := reader.read (Token.endOf p.tokens) s p.rest
  (reading.result, p.moved reading.consumed reading.remarks)

section Follow

variable {State Result : Type} {reader : Reader State Result} {s next : State}
  {p : DescendingParser} {t : Token} {rest : List Token}

/-- Where no token is left, the reader gives the result that it has. -/
lemma follow_of_rest_nil (hrest : p.rest = []) :
    p.follow reader s = (reader.close s, p.moved 0
      ((reader.missing s).map (Diagnostic.unexpectedEnd (Token.endOf p.tokens)))) := by
  simp only [follow, hrest, Reader.read]

/-- Behind a token at which the reader is not done, it is followed from the next place on. -/
lemma follow_of_more (hrest : p.rest = t :: rest) (hfeed : reader.feed s t = .more next) :
    p.follow reader s = (p.moved 1 (reader.remark? s t).toList).follow reader next := by
  simp only [follow, rest_moved, hrest, Reader.read, hfeed, List.drop_one, List.tail_cons,
    moved_moved]
  rw [Nat.add_comm]
  rfl

/-- The reader is followed no further than behind a token at which it is done. -/
lemma follow_of_done {result : Result} (hrest : p.rest = t :: rest)
    (hfeed : reader.feed s t = .done result) :
    p.follow reader s = (result, p.moved 1 (reader.remark? s t).toList) := by
  simp only [follow, hrest, Reader.read, hfeed]

end Follow

/-- A call is read as by the reader of expressions. -/
lemma arguments_eq (p : DescendingParser) (callee : String) :
    p.arguments callee = some (p.follow exprReader (.arguments callee)) := by
  induction p using placeInduction with
  | ending p hrest =>
    rw [arguments.eq_def, current?_of_rest_nil hrest, follow_of_rest_nil hrest]
    rfl
  | token p t rest hrest ih =>
    rw [arguments.eq_def, current?_of_rest hrest]
    by_cases htext : t.text = ")"
    · have hfeed : exprReader.feed (.arguments callee) t = .done (.call callee) := by
        simp [exprReader, ExprState.feed, htext]
      rw [follow_of_done hrest hfeed]
      simp [htext, exprReader, ExprState.remark?, advance_eq]
    · have hfeed : exprReader.feed (.arguments callee) t = .more (.arguments callee) := by
        simp [exprReader, ExprState.feed, htext]
      rw [follow_of_more hrest hfeed]
      simp [htext, exprReader, ExprState.remark?, skip_eq, ih]

/-- An expression is read as by the reader of expressions. -/
lemma formula_eq (p : DescendingParser) (draft : Draft) :
    p.formula draft = some (p.follow exprReader (.formula draft)) := by
  induction p using placeInduction generalizing draft with
  | ending p hrest =>
    rw [formula.eq_def, current?_of_rest_nil hrest, follow_of_rest_nil hrest]
    simp [exprReader, ExprState.close, ExprState.missing, moved_zero]
  | token p t rest hrest ih =>
    rw [formula.eq_def, current?_of_rest hrest]
    cases hrole : t.role with
    | operand x =>
      have hfeed : exprReader.feed (.formula draft) t = .more (.formula (draft.push x)) := by
        simp [exprReader, ExprState.feed, hrole]
      rw [follow_of_more hrest hfeed]
      simp only [exprReader, ExprState.remark?, hrole, tell_advance, ih]
      split <;> rfl
    | sign p? =>
      have hfeed : exprReader.feed (.formula draft) t =
          .more (.formula { draft with operator? := p? }) := by
        simp [exprReader, ExprState.feed, hrole]
      rw [follow_of_more hrest hfeed]
      simp [exprReader, ExprState.remark?, hrole, advance_eq, ih]
    | terminator =>
      have hfeed : exprReader.feed (.formula draft) t = .done draft.expr := by
        simp [exprReader, ExprState.feed, hrole]
      rw [follow_of_done hrest hfeed]
      simp [exprReader, ExprState.remark?, hrole, advance_eq]
    | opening =>
      cases hcallee : draft.callee? with
      | some callee =>
        have hfeed : exprReader.feed (.formula draft) t = .more (.arguments callee) := by
          simp [exprReader, ExprState.feed, hrole, hcallee]
        rw [follow_of_more hrest hfeed]
        simp [exprReader, ExprState.remark?, hrole, hcallee, advance_eq, arguments_eq]
      | none =>
        have hfeed : exprReader.feed (.formula draft) t = .more (.formula draft) := by
          simp [exprReader, ExprState.feed, hrole, hcallee]
        rw [follow_of_more hrest hfeed]
        simp [exprReader, ExprState.remark?, hrole, hcallee, skip_eq, ih]
    | stray =>
      have hfeed : exprReader.feed (.formula draft) t = .more (.formula draft) := by
        simp [exprReader, ExprState.feed, hrole]
      rw [follow_of_more hrest hfeed]
      simp [exprReader, ExprState.remark?, hrole, skip_eq, ih]

/-! ## From place to place -/

/-- The second place is at or behind the first, and not behind the end. -/
def Reaches (p q : DescendingParser) : Prop :=
  ∃ n remarks, n ≤ p.rest.length ∧ q = p.moved n remarks

/-- While the parser moves from one place to the other, the reader of blocks goes from one state to
the other. -/
structure Leads (p : DescendingParser) (s : BlockState) (q : DescendingParser) (s' : BlockState) :
    Prop where
  reaches : p.Reaches q
  follow : p.follow blockReader s = q.follow blockReader s'

section Leads

variable {p q r : DescendingParser} {s s' s'' : BlockState}

lemma Reaches.refl (p : DescendingParser) : p.Reaches p :=
  ⟨0, [], Nat.zero_le _, p.moved_zero.symm⟩

lemma Reaches.trans (hpq : p.Reaches q) (hqr : q.Reaches r) : p.Reaches r := by
  obtain ⟨m, first, hm, rfl⟩ := hpq
  obtain ⟨n, second, hn, rfl⟩ := hqr
  rw [rest_moved, List.length_drop] at hn
  exact ⟨m + n, first ++ second, by omega, moved_moved p m n first second⟩

/-- The counter is the same at both places. -/
lemma Reaches.depth_eq (h : p.Reaches q) : q.depth = p.depth := by
  obtain ⟨n, remarks, -, rfl⟩ := h
  rfl

/-- As many tokens are left at most. -/
lemma Reaches.length_rest_le (h : p.Reaches q) : q.rest.length ≤ p.rest.length := by
  obtain ⟨n, remarks, -, rfl⟩ := h
  rw [rest_moved, List.length_drop]
  omega

/-- A place is behind one token if there is one. -/
lemma reaches_moved_one {t : Token} {rest : List Token} (hrest : p.rest = t :: rest)
    (remarks : List Diagnostic) : p.Reaches (p.moved 1 remarks) :=
  ⟨1, remarks, by simp [hrest], rfl⟩

/-- Where a reader is followed to is at or behind the place where it starts. -/
lemma reaches_follow {State Result : Type} (p : DescendingParser) (reader : Reader State Result)
    (s : State) : p.Reaches (p.follow reader s).2 :=
  ⟨_, _, reader.consumed_read_le _ s p.rest, rfl⟩

/-- A reader that is followed leaves fewer tokens, if there is one. -/
lemma length_rest_follow_lt {State Result : Type} (reader : Reader State Result) (s : State)
    (hrest : p.rest ≠ []) : (p.follow reader s).2.rest.length < p.rest.length := by
  have hconsumed := reader.consumed_read_pos (Token.endOf p.tokens) s hrest
  have hlength := List.length_pos_iff.2 hrest
  simp only [follow, rest_moved, List.length_drop]
  omega

lemma Leads.refl (p : DescendingParser) (s : BlockState) : p.Leads s p s :=
  ⟨.refl p, rfl⟩

lemma Leads.trans (hpq : p.Leads s q s') (hqr : q.Leads s' r s'') : p.Leads s r s'' :=
  ⟨hpq.reaches.trans hqr.reaches, hpq.follow.trans hqr.follow⟩

/-- One token leads to the state behind it. -/
lemma leads_of_more {t : Token} {rest : List Token} (hrest : p.rest = t :: rest)
    (hfeed : s.feed t = .more s') : p.Leads s (p.moved 1 (s.remark? t).toList) s' :=
  ⟨reaches_moved_one hrest _, follow_of_more hrest hfeed⟩

/-- A token that is not remarked on leads to the state behind it. -/
lemma leads_advance {t : Token} {rest : List Token} (hrest : p.rest = t :: rest)
    (hfeed : s.feed t = .more s') (hremark : s.remark? t = none) : p.Leads s p.advance s' := by
  have hstep := leads_of_more hrest hfeed
  rwa [hremark, Option.toList_none, ← advance_eq] at hstep

/-- A token that is passed over leads to the state behind it. -/
lemma leads_skip {t : Token} {rest : List Token} (hrest : p.rest = t :: rest)
    (hfeed : s.feed t = .more s') (hremark : s.remark? t = t.skipped?) :
    p.Leads s (p.skip t) s' := by
  have hstep := leads_of_more hrest hfeed
  rwa [hremark, ← skip_eq] at hstep

/-- The end of the tokens leads to a state with the same statements in which one thing less is
missing. -/
lemma leads_lack (hrest : p.rest = []) {expected : String} (hclose : s.close = s'.close)
    (hmissing : s.missing = expected :: s'.missing) : p.Leads s (p.lack expected) s' := by
  have hlack : p.lack expected = p.moved 0 [.unexpectedEnd (Token.endOf p.tokens) expected] := rfl
  have hend : (p.lack expected).rest = [] := by
    rw [hlack, rest_moved, hrest, List.drop_nil]
  refine ⟨⟨0, _, Nat.zero_le _, hlack⟩, ?_⟩
  rw [follow_of_rest_nil hrest, follow_of_rest_nil hend, hlack, moved_moved]
  simp only [blockReader, hclose, hmissing, List.map_cons, List.singleton_append]
  rfl

/-- An expression that is read leads in front of the next statement. -/
lemma leads_expression (p : DescendingParser) (purpose : Purpose) (state : ExprState)
    (body : List Stmt) (frames : List Frame) :
    p.Leads ⟨.expression purpose state, body, frames⟩ (p.follow exprReader state).2
      ⟨.statement, body ++ [purpose.statement (p.follow exprReader state).1], frames⟩ := by
  induction p using placeInduction generalizing state with
  | ending p hrest =>
    refine ⟨reaches_follow p exprReader state, ?_⟩
    have hend : (p.follow exprReader state).2.rest = [] := by
      rw [follow_of_rest_nil hrest, rest_moved, hrest, List.drop_nil]
    rw [follow_of_rest_nil hrest, follow_of_rest_nil hend, follow_of_rest_nil hrest, moved_moved]
    simp only [blockReader, BlockState.close, BlockState.settledBody, BlockState.missing,
      BlockState.missingHere, exprReader, List.map_append, List.nil_append, Nat.add_zero]
    rfl
  | token p t rest hrest ih =>
    cases hfeed : state.feed t with
    | more next =>
      have hblock : BlockState.feed ⟨.expression purpose state, body, frames⟩ t =
          .more ⟨.expression purpose next, body, frames⟩ := by
        simp [BlockState.feed, hfeed, BlockState.ofExpr]
      rw [follow_of_more hrest hfeed]
      exact (leads_of_more hrest hblock).trans (ih _ next)
    | done e =>
      have hblock : BlockState.feed ⟨.expression purpose state, body, frames⟩ t =
          .more ⟨.statement, body ++ [purpose.statement e], frames⟩ := by
        simp [BlockState.feed, hfeed, BlockState.ofExpr]
      rw [follow_of_done hrest hfeed]
      exact leads_of_more hrest hblock

end Leads

/-! ## Statements -/

/-- While tokens are passed over, the reader stays in its state; at the end it is in front of a
statement that does not come. -/
lemma exists_skipUntil (p : DescendingParser) {sought : Token → Bool} {expected : String}
    (s s' : BlockState)
    (hstay : ∀ t, sought t = false → s.feed t = .more s ∧ s.remark? t = t.skipped?)
    (hclose : s.close = s'.close) (hmissing : s.missing = expected :: s'.missing) :
    (∃ t rest q, p.skipUntil sought expected = some (some t, q) ∧ p.Leads s q s ∧
      q.rest = t :: rest ∧ sought t = true) ∨
    ∃ q, p.skipUntil sought expected = some (none, q) ∧ p.Leads s q s' := by
  induction p using placeInduction with
  | ending p hrest =>
    refine Or.inr ⟨p.lack expected, ?_, leads_lack hrest hclose hmissing⟩
    rw [skipUntil.eq_def, current?_of_rest_nil hrest]
  | token p t rest hrest ih =>
    rw [skipUntil.eq_def, current?_of_rest hrest]
    cases hsought : sought t with
    | true => exact Or.inl ⟨t, rest, p, by simp [hsought], .refl p s, hrest, hsought⟩
    | false =>
      have hstep := leads_skip hrest (hstay t hsought).1 (hstay t hsought).2
      simp only [hsought, Bool.false_eq_true, if_false]
      rcases ih t.skipped?.toList with ⟨u, rest', q, hskip, hleads, hq, hu⟩ | ⟨q, hskip, hleads⟩
      · exact Or.inl ⟨u, rest', q, hskip, hstep.trans hleads, hq, hu⟩
      · exact Or.inr ⟨q, hskip, hstep.trans hleads⟩

/-- A binding leads in front of the next statement, also if the tokens run out in it. -/
lemma exists_binding (p : DescendingParser) (body : List Stmt) (frames : List Frame) :
    ∃ s? q, p.binding = some (s?, q) ∧
      p.Leads ⟨.bindingName, body, frames⟩ q ⟨.statement, body ++ s?.toList, frames⟩ := by
  have hname : ∀ t : Token, decide (t.kind = .word) = false →
      BlockState.feed ⟨.bindingName, body, frames⟩ t = .more ⟨.bindingName, body, frames⟩ ∧
      BlockState.remark? ⟨.bindingName, body, frames⟩ t = t.skipped? := by
    intro t ht
    simp [BlockState.feed, BlockState.remark?, of_decide_eq_false ht]
  have hequals (name : String) : ∀ t : Token, decide (t.text = "=") = false →
      BlockState.feed ⟨.bindingEquals name, body, frames⟩ t =
        .more ⟨.bindingEquals name, body, frames⟩ ∧
      BlockState.remark? ⟨.bindingEquals name, body, frames⟩ t = t.skipped? := by
    intro t ht
    simp [BlockState.feed, BlockState.remark?, of_decide_eq_false ht]
  have hnone : (⟨.statement, body, frames⟩ : BlockState) =
      ⟨.statement, body ++ (none : Option Stmt).toList, frames⟩ := by
    simp
  unfold binding
  rcases p.exists_skipUntil ⟨.bindingName, body, frames⟩ ⟨.statement, body, frames⟩ hname rfl rfl
    with ⟨t, rest, q, hskip, hleads, hq, ht⟩ | ⟨q, hskip, hleads⟩
  · have hfound : q.Leads ⟨.bindingName, body, frames⟩ q.advance
        ⟨.bindingEquals t.text, body, frames⟩ := by
      rw [decide_eq_true_iff] at ht
      exact leads_advance hq (by simp [BlockState.feed, ht]) (by simp [BlockState.remark?, ht])
    rcases q.advance.exists_skipUntil ⟨.bindingEquals t.text, body, frames⟩
        ⟨.statement, body, frames⟩ (hequals t.text) rfl rfl
      with ⟨u, rest', r, hskip', hleads', hr, hu⟩ | ⟨r, hskip', hleads'⟩
    · have hfound' : r.Leads ⟨.bindingEquals t.text, body, frames⟩ r.advance
          ⟨.expression (.binding t.text) .start, body, frames⟩ := by
        rw [decide_eq_true_iff] at hu
        exact leads_advance hr (by simp [BlockState.feed, hu]) (by simp [BlockState.remark?, hu])
      have hexpr := leads_expression r.advance (.binding t.text) .start body frames
      refine ⟨some (.binding t.text (r.advance.follow exprReader .start).1), _, ?_,
        (hleads.trans hfound).trans ((hleads'.trans hfound').trans hexpr)⟩
      simp [hskip, hskip', formula_eq, ExprState.start]
    · refine ⟨none, r, by simp [hskip, hskip'], ?_⟩
      rw [← hnone]
      exact (hleads.trans hfound).trans hleads'
  · refine ⟨none, q, by simp [hskip], ?_⟩
    rw [← hnone]
    exact hleads

/-- The name of a function leads in front of the opening parenthesis, or to the end. -/
lemma exists_functionName (p : DescendingParser) (text : String) (body : List Stmt)
    (frames : List Frame) :
    (∃ name t rest q, p.functionName text = some (some name, q) ∧
      p.Leads ⟨.functionName text, body, frames⟩ q ⟨.functionName name, body, frames⟩ ∧
      q.rest = t :: rest ∧ t.text = "(") ∨
    ∃ q, p.functionName text = some (none, q) ∧
      p.Leads ⟨.functionName text, body, frames⟩ q ⟨.statement, body, frames⟩ := by
  induction p using placeInduction generalizing text with
  | ending p hrest =>
    refine Or.inr ⟨_, ?_, leads_lack hrest rfl rfl⟩
    rw [functionName.eq_def, current?_of_rest_nil hrest]
  | token p t rest hrest ih =>
    rw [functionName.eq_def, current?_of_rest hrest]
    by_cases htext : t.text = "("
    · exact Or.inl ⟨text, t, rest, p, by simp [htext], .refl p _, hrest, htext⟩
    · have hstep : p.Leads ⟨.functionName text, body, frames⟩ p.advance
          ⟨.functionName (text ++ t.text), body, frames⟩ :=
        leads_advance hrest (by simp [BlockState.feed, htext]) (by simp [BlockState.remark?, htext])
      simp only [htext, if_false]
      rcases advance_eq p ▸ ih [] (text ++ t.text) with
        ⟨name, u, rest', q, hname, hleads, hq, hu⟩ | ⟨q, hname, hleads⟩
      · exact Or.inl ⟨name, u, rest', q, hname, hstep.trans hleads, hq, hu⟩
      · exact Or.inr ⟨q, hname, hstep.trans hleads⟩

/-- A token in front of the body of a function is passed over, a parenthesis without a remark. -/
lemma exists_functionHead_step {p : DescendingParser} {t : Token} {rest : List Token}
    {s s' : BlockState} (hrest : p.rest = t :: rest) (htext : t.text ≠ "\x7b")
    (hfeed : s.feed t = .more s')
    (hremark : s.remark? t = if t.kind = .paren then none else t.skipped?) :
    ∃ remarks, p.functionHead = (p.moved 1 remarks).functionHead ∧
      p.Leads s (p.moved 1 remarks) s' := by
  refine ⟨(s.remark? t).toList, ?_, leads_of_more hrest hfeed⟩
  rw [functionHead.eq_def, current?_of_rest hrest, hremark]
  by_cases hparen : t.kind = .paren
  · simp [htext, hparen, advance_eq]
  · simp [htext, hparen, skip_eq]

/-- What stands in front of the body of a function leads in front of the opening brace, or to the
end. -/
lemma exists_functionHead (p : DescendingParser) (name : String) (body : List Stmt)
    (frames : List Frame) :
    (∃ t rest q, p.functionHead = some (true, q) ∧
      p.Leads ⟨.functionHead name, body, frames⟩ q ⟨.functionHead name, body, frames⟩ ∧
      q.rest = t :: rest ∧ t.text = "\x7b") ∨
    ∃ q, p.functionHead = some (false, q) ∧
      p.Leads ⟨.functionHead name, body, frames⟩ q ⟨.statement, body, frames⟩ := by
  induction p using placeInduction with
  | ending p hrest =>
    refine Or.inr ⟨_, ?_, leads_lack hrest rfl rfl⟩
    rw [functionHead.eq_def, current?_of_rest_nil hrest]
  | token p t rest hrest ih =>
    by_cases htext : t.text = "\x7b"
    · refine Or.inl ⟨t, rest, p, ?_, .refl p _, hrest, htext⟩
      rw [functionHead.eq_def, current?_of_rest hrest]
      simp [htext]
    · have hfeed : BlockState.feed ⟨.functionHead name, body, frames⟩ t =
          .more ⟨.functionHead name, body, frames⟩ := by
        simp [BlockState.feed, htext]
      obtain ⟨remarks, hhead, hstep⟩ := exists_functionHead_step hrest htext hfeed
        (by simp [BlockState.remark?, htext])
      rw [hhead]
      rcases ih remarks with ⟨u, rest', q, hhead', hleads, hq, hu⟩ | ⟨q, hhead', hleads⟩
      · exact Or.inl ⟨u, rest', q, hhead', hstep.trans hleads, hq, hu⟩
      · exact Or.inr ⟨q, hhead', hstep.trans hleads⟩

/-- What is read on when a body has been read: behind the body of a function the statements around
it, and nothing behind the whole block. -/
def leave (q : DescendingParser) (body : List Stmt) :
    List Frame → List Stmt × DescendingParser
  | [] => (body, q)
  | frame :: frames => q.follow blockReader ⟨.statement, frame.finish body, frames⟩

/-- Statements are read to the end of their block, wherever the block stands. -/
def ReadsBlock (p : DescendingParser) : Prop :=
  ∀ body frames, p.depth = frames.length →
    ∃ body' q, p.block body = some (body', q) ∧ p.Reaches q ∧
      p.follow blockReader ⟨.statement, body, frames⟩ = q.leave body' frames

/-- What is read one level deeper can be left again, and leads to the same state. -/
lemma Leads.exists_rise {p q : DescendingParser} {s s' : BlockState} (h : p.deepen.Leads s q s') :
    ∃ r, q.rise? = some r ∧ p.Leads s r s' := by
  obtain ⟨⟨n, remarks, hn, rfl⟩, hfollow⟩ := h
  refine ⟨p.moved n remarks, by simp [rise?, deepen, moved], ⟨n, remarks, hn, rfl⟩, ?_⟩
  exact congrArg (fun out => (out.1, { out.2 with depth := p.depth })) hfollow

/-- A function leads in front of the next statement, also if the tokens run out in it. -/
lemma exists_function {p : DescendingParser}
    (ih : ∀ q : DescendingParser, q.rest.length ≤ p.rest.length → q.ReadsBlock) (body : List Stmt)
    (frames : List Frame) (hdepth : p.depth = frames.length) :
    ∃ s? q, p.function = some (s?, q) ∧
      p.Leads ⟨.functionName "", body, frames⟩ q ⟨.statement, body ++ s?.toList, frames⟩ := by
  have hnone : (⟨.statement, body, frames⟩ : BlockState) =
      ⟨.statement, body ++ (none : Option Stmt).toList, frames⟩ := by
    simp
  rw [function.eq_def]
  rcases p.exists_functionName "" body frames with
    ⟨name, t, rest, q, hname, hleads, hq, ht⟩ | ⟨q, hname, hleads⟩
  · -- The opening parenthesis ends the name, but is consumed with what stands in front of the body.
    have hfeed : BlockState.feed ⟨.functionName name, body, frames⟩ t =
        .more ⟨.functionHead (Text.trim name), body, frames⟩ := by
      simp [BlockState.feed, ht]
    obtain ⟨remarks, hhead, hopen⟩ := exists_functionHead_step hq (by simp [ht]) hfeed
      (by simp [BlockState.remark?, ht])
    rcases (q.moved 1 remarks).exists_functionHead (Text.trim name) body frames with
      ⟨u, rest', r, hhead', hleads', hr, hu⟩ | ⟨r, hhead', hleads'⟩
    · have hbrace : r.Leads ⟨.functionHead (Text.trim name), body, frames⟩ r.advance
          ⟨.statement, [], ⟨Text.trim name, body⟩ :: frames⟩ :=
        leads_advance hr (by simp [BlockState.feed, hu]) (by simp [BlockState.remark?, hu])
      have hbefore := ((hleads.trans hopen).trans hleads').trans hbrace
      have hinside : r.advance.deepen.depth = (⟨Text.trim name, body⟩ :: frames).length := by
        rw [List.length_cons, ← hdepth, ← hbefore.reaches.depth_eq]
        rfl
      obtain ⟨inner, inside, hblock, hreaches, hfollow⟩ :=
        ih r.advance.deepen hbefore.reaches.length_rest_le [] _ hinside
      obtain ⟨outside, hrise, houtside⟩ := Leads.exists_rise ⟨hreaches, hfollow⟩
      refine ⟨some (.function (Text.trim name) inner), outside, ?_, hbefore.trans houtside⟩
      simp [hname, hhead, hhead', hblock, hrise]
    · refine ⟨none, r, by simp [hname, hhead, hhead'], ?_⟩
      rw [← hnone]
      exact (hleads.trans hopen).trans hleads'
  · refine ⟨none, q, by simp [hname], ?_⟩
    rw [← hnone]
    exact hleads

/-- Where no token is left, a body ends, and the brace of a function is missing. -/
lemma readsBlock_of_rest_nil {p : DescendingParser} (hrest : p.rest = []) : p.ReadsBlock := by
  intro body frames hdepth
  refine ⟨body, if 0 < p.depth then p.lack "`\x7d`" else p, ?_, ?_⟩
  · rw [block.eq_def, current?_of_rest_nil hrest]
  · cases frames with
    | nil =>
      rw [List.length_nil] at hdepth
      simp only [hdepth, Nat.lt_irrefl, if_false]
      refine ⟨.refl p, ?_⟩
      rw [follow_of_rest_nil hrest]
      simp [blockReader, BlockState.close, BlockState.settledBody, BlockState.missing,
        BlockState.missingHere, moved_zero, leave]
    | cons frame frames =>
      have hpos : 0 < p.depth := by simp [hdepth]
      simp only [hpos, if_true]
      have hend : p.Leads ⟨.statement, body, frame :: frames⟩ (p.lack "`\x7d`")
          ⟨.statement, frame.finish body, frames⟩ := leads_lack hrest rfl rfl
      exact ⟨hend.reaches, hend.follow⟩

/-- Statements behind a place to which the parser has been led are read to the end of their block. -/
lemma Leads.exists_leave {p q : DescendingParser} {s : BlockState} {body : List Stmt}
    {frames : List Frame} (h : p.Leads s q ⟨.statement, body, frames⟩) (hq : q.ReadsBlock)
    (hdepth : p.depth = frames.length) :
    ∃ body' r, q.block body = some (body', r) ∧ p.Reaches r ∧
      p.follow blockReader s = r.leave body' frames := by
  rw [← h.reaches.depth_eq] at hdepth
  obtain ⟨body', r, hblock, hreaches, hfollow⟩ := hq body frames hdepth
  exact ⟨body', r, hblock, h.reaches.trans hreaches, h.follow.trans hfollow⟩

/-- A closing brace ends a body. -/
lemma exists_closeBrace {p : DescendingParser} {t : Token} {rest : List Token}
    (hrest : p.rest = t :: rest) (hkind : t.kind = .brace) (htext : t.text = "\x7d")
    (body : List Stmt) (frames : List Frame) (hdepth : p.depth = frames.length) :
    let q := p.advance.tell (if p.depth = 0 then [BlockState.unbalancedBrace t] else [])
    p.Reaches q ∧ p.follow blockReader ⟨.statement, body, frames⟩ = q.leave body frames := by
  have hmoved (remarks : List Diagnostic) : p.advance.tell remarks = p.moved 1 remarks := rfl
  simp only [hmoved]
  refine ⟨reaches_moved_one hrest _, ?_⟩
  cases frames with
  | nil =>
    have hfeed : blockReader.feed ⟨.statement, body, []⟩ t = .done body := by
      simp [blockReader, BlockState.feed, BlockState.feedStatement, hkind, htext,
        BlockState.closeBrace]
    rw [follow_of_done hrest hfeed]
    simp [hdepth, leave, blockReader, BlockState.remark?, BlockState.remarkStatement?, hkind, htext]
  | cons frame frames =>
    have hfeed : blockReader.feed ⟨.statement, body, frame :: frames⟩ t =
        .more ⟨.statement, frame.finish body, frames⟩ := by
      simp [blockReader, BlockState.feed, BlockState.feedStatement, hkind, htext,
        BlockState.closeBrace]
    rw [follow_of_more hrest hfeed]
    simp [hdepth, leave, blockReader, BlockState.remark?, BlockState.remarkStatement?, hkind, htext]

/-- A word in front of a statement is the first token of an expression. -/
lemma leads_word {p : DescendingParser} {t : Token} {rest : List Token} (hrest : p.rest = t :: rest)
    (hkind : t.kind = .word) (body : List Stmt) (frames : List Frame) :
    p.Leads ⟨.statement, body, frames⟩ p ⟨.expression .expression .start, body, frames⟩ := by
  have hstatement : BlockState.feed ⟨.statement, body, frames⟩ t =
      .more (BlockState.ofExpr ⟨.statement, body, frames⟩ .expression (ExprState.start.feed t)) := by
    simp [BlockState.feed, BlockState.feedStatement, hkind]
  have hexpression : BlockState.feed ⟨.expression .expression .start, body, frames⟩ t =
      .more (BlockState.ofExpr ⟨.statement, body, frames⟩ .expression (ExprState.start.feed t)) := by
    cases hfeed : ExprState.start.feed t <;> simp [BlockState.feed, hfeed, BlockState.ofExpr]
  have hremark : BlockState.remark? ⟨.statement, body, frames⟩ t =
      BlockState.remark? ⟨.expression .expression .start, body, frames⟩ t := by
    simp [BlockState.remark?, BlockState.remarkStatement?, hkind, ExprState.start,
      ExprState.remark?, Token.role, Operand.ofToken?, Draft.lacksOperator]
  have hleads := leads_of_more hrest hstatement
  rw [hremark] at hleads
  exact ⟨.refl p, hleads.follow.trans (leads_of_more hrest hexpression).follow.symm⟩

/-- Statements are read to the end of their block from every place. -/
lemma readsBlock (p : DescendingParser) : p.ReadsBlock := by
  induction hlength : p.rest.length using Nat.strongRecOn generalizing p with
  | ind n ih =>
    subst hlength
    cases hrest : p.rest with
    | nil => exact readsBlock_of_rest_nil hrest
    | cons t rest =>
      intro body frames hdepth
      have hadvance : p.advance.rest.length < p.rest.length := by
        rw [advance_eq, rest_moved, hrest]
        simp
      rw [block.eq_def, current?_of_rest hrest]
      dsimp only
      cases hkind : t.kind with
      | functionKeyword =>
        have hstep : p.Leads ⟨.statement, body, frames⟩ p.advance
            ⟨.functionName "", body, frames⟩ :=
          leads_advance hrest (by simp [BlockState.feed, BlockState.feedStatement, hkind])
            (by simp [BlockState.remark?, BlockState.remarkStatement?, hkind])
        obtain ⟨s?, q, hfunction, hleads⟩ := exists_function
          (fun q hq => ih _ (Nat.lt_of_le_of_lt hq hadvance) q rfl) body frames hdepth
        have hq := Nat.lt_of_le_of_lt hleads.reaches.length_rest_le hadvance
        obtain ⟨body', r, hblock, hleave⟩ := (hstep.trans hleads).exists_leave (ih _ hq q rfl) hdepth
        exact ⟨body', r, by simp [hfunction, hblock], hleave⟩
      | returnKeyword =>
        have hstep : p.Leads ⟨.statement, body, frames⟩ p.advance
            ⟨.expression .ret .start, body, frames⟩ :=
          leads_advance hrest (by simp [BlockState.feed, BlockState.feedStatement, hkind])
            (by simp [BlockState.remark?, BlockState.remarkStatement?, hkind])
        have hleads := leads_expression p.advance .ret .start body frames
        have hq := Nat.lt_of_le_of_lt hleads.reaches.length_rest_le hadvance
        obtain ⟨body', r, hblock, hleave⟩ := (hstep.trans hleads).exists_leave (ih _ hq _ rfl) hdepth
        refine ⟨body', r, ?_, hleave⟩
        simpa [formula_eq, ExprState.start, Purpose.statement] using hblock
      | letKeyword =>
        have hstep : p.Leads ⟨.statement, body, frames⟩ p.advance ⟨.bindingName, body, frames⟩ :=
          leads_advance hrest (by simp [BlockState.feed, BlockState.feedStatement, hkind])
            (by simp [BlockState.remark?, BlockState.remarkStatement?, hkind])
        obtain ⟨s?, q, hbinding, hleads⟩ := p.advance.exists_binding body frames
        have hq := Nat.lt_of_le_of_lt hleads.reaches.length_rest_le hadvance
        obtain ⟨body', r, hblock, hleave⟩ := (hstep.trans hleads).exists_leave (ih _ hq q rfl) hdepth
        exact ⟨body', r, by simp [hbinding, hblock], hleave⟩
      | word =>
        have hleads := leads_expression p .expression .start body frames
        have hq := length_rest_follow_lt exprReader .start (p := p) (by simp [hrest])
        obtain ⟨body', r, hblock, hleave⟩ :=
          ((leads_word hrest hkind body frames).trans hleads).exists_leave (ih _ hq _ rfl) hdepth
        refine ⟨body', r, ?_, hleave⟩
        simpa [formula_eq, ExprState.start, Purpose.statement] using hblock
      | brace =>
        by_cases htext : t.text = "\x7d"
        · exact ⟨body, _, by simp [htext], exists_closeBrace hrest hkind htext body frames hdepth⟩
        · have hstep : p.Leads ⟨.statement, body, frames⟩ p.advance ⟨.statement, body, frames⟩ :=
            leads_advance hrest (by simp [BlockState.feed, BlockState.feedStatement, hkind, htext])
              (by simp [BlockState.remark?, BlockState.remarkStatement?, hkind, htext])
          simp only [htext, if_false]
          exact hstep.exists_leave (ih _ hadvance _ rfl) hdepth
      | space | lineBreak | semicolon =>
        have hstep : p.Leads ⟨.statement, body, frames⟩ p.advance ⟨.statement, body, frames⟩ :=
          leads_advance hrest (by simp [BlockState.feed, BlockState.feedStatement, hkind])
            (by simp [BlockState.remark?, BlockState.remarkStatement?, hkind])
        exact hstep.exists_leave (ih _ hadvance _ rfl) hdepth
      | number | paren | punctuator | other =>
        have hstep : p.Leads ⟨.statement, body, frames⟩ (p.skip t) ⟨.statement, body, frames⟩ :=
          leads_skip hrest (by simp [BlockState.feed, BlockState.feedStatement, hkind])
            (by simp [BlockState.remark?, BlockState.remarkStatement?, hkind])
        exact hstep.exists_leave (ih _ hadvance _ rfl) hdepth

/-- Outside of every function statements are read as by the reader of blocks. -/
lemma block_eq {p : DescendingParser} (hdepth : p.depth = 0) :
    p.block [] = some (p.follow blockReader .start) := by
  obtain ⟨body, q, hblock, -, hfollow⟩ := p.readsBlock [] [] hdepth
  rw [hblock]
  exact congrArg some hfollow.symm

end DescendingParser

/-! ## Using a parser again and again -/

/-- A block is read up to the end of the tokens or behind an unmatched brace, on which the last remark
is made. -/
lemma BlockState.read_ends (offset : Nat) (tokens : List Token) :
    (blockReader.read offset .start tokens).consumed = tokens.length ∨
      ∃ before t after, tokens = before ++ t :: after ∧
        (blockReader.read offset .start tokens).consumed = before.length + 1 ∧
        t.kind = .brace ∧ t.text = "\x7d" ∧
        (blockReader.read offset .start tokens).remarks.getLast? = some (unbalancedBrace t) := by
  rcases blockReader.advances_or_done .start tokens with
    ⟨remarks, last, hadvances⟩ | ⟨before, t, after, remarks, last, result, rfl, hadvances, hdone⟩
  · left
    rw [hadvances.read_eq offset]
  · obtain ⟨-, -, -, hkind, htext⟩ := feed_done_cases hdone
    have hremark : blockReader.remark? last t = some (unbalancedBrace t) := remark?_of_done hdone
    refine Or.inr ⟨before, t, after, rfl, ?_, hkind, htext, ?_⟩
    · rw [hadvances.read_append, Reader.read, hdone]
    · rw [hadvances.read_append, Reader.read, hdone, hremark]
      simp

/-- What is read behind some tokens does not depend on them: the tokens end at the same place, and
nothing is said about their end if none is left. -/
lemma Reader.read_drop {State Result : Type} (reader : Reader State Result) {s : State}
    (hs : reader.missing s = []) (tokens : List Token) (n : Nat) :
    reader.read (Token.endOf (tokens.drop n)) s (tokens.drop n) =
      reader.read (Token.endOf tokens) s (tokens.drop n) := by
  by_cases hn : n < tokens.length
  · have hend : Token.endOf (tokens.drop n) = Token.endOf tokens := by
      rw [Token.endOf, Token.endOf, List.getLast?_drop, if_neg (by omega)]
    rw [hend]
  · rw [List.drop_eq_nil_of_le (by omega), read, read, hs, List.map_nil, List.map_nil]

namespace Parser

/-- What a parser can be asked to read. -/
inductive Task where
  /-- A block; a whole program is one. -/
  | block
  | expr
deriving DecidableEq

/-- What has been read. -/
inductive Product where
  | block (body : List Stmt)
  | expr (e : Expr)

/-- Reads what is asked for. -/
def perform (parser : Parser) : Task → Product × Parser
  | .block => (.block parser.readBlock.1, parser.readBlock.2)
  | .expr => (.expr parser.readExpr.1, parser.readExpr.2)

/-- What the reader for a task makes of tokens. -/
def Task.reading (task : Task) (offset : Nat) (tokens : List Token) : Reading Product :=
  match task with
  | .block =>
    let reading := blockReader.read offset .start tokens
    ⟨.block reading.result, reading.remarks, reading.consumed⟩
  | .expr =>
    let reading := exprReader.read offset .start tokens
    ⟨.expr reading.result, reading.remarks, reading.consumed⟩

namespace Task

lemma consumed_le (task : Task) (offset : Nat) (tokens : List Token) :
    (task.reading offset tokens).consumed ≤ tokens.length := by
  cases task with
  | block => exact blockReader.consumed_read_le offset _ tokens
  | expr => exact exprReader.consumed_read_le offset _ tokens

lemma consumed_pos (task : Task) (offset : Nat) {tokens : List Token} (h : tokens ≠ []) :
    0 < (task.reading offset tokens).consumed := by
  cases task with
  | block => exact blockReader.consumed_read_pos offset _ h
  | expr => exact exprReader.consumed_read_pos offset _ h

lemma reading_drop (task : Task) (tokens : List Token) (n : Nat) :
    task.reading (Token.endOf (tokens.drop n)) (tokens.drop n) =
      task.reading (Token.endOf tokens) (tokens.drop n) := by
  cases task with
  | block => rw [reading, reading, blockReader.read_drop rfl]
  | expr => rw [reading, reading, exprReader.read_drop rfl]

end Task

end Parser

namespace DescendingParser

/-- A parser in front of the first token. -/
def ofTokens (tokens : List Token) (channel : Channel) : DescendingParser :=
  { tokens, channel }

/-- The parser without its counter. -/
def plain (p : DescendingParser) : Parser :=
  ⟨p.tokens, p.position, p.channel⟩

/-- Reads what is asked for. -/
def perform (p : DescendingParser) : Parser.Task → Option (Parser.Product × DescendingParser)
  | .block => (p.block []).map fun out => (.block out.1, out.2)
  | .expr => (p.formula {}).map fun out => (.expr out.1, out.2)

/-- Reads one thing after the other. -/
def performAll (p : DescendingParser) : List Parser.Task → Option DescendingParser
  | [] => some p
  | task :: tasks => do
    let (_, q) ← p.perform task
    q.performAll tasks

/-- What a use of a parser comes to, from one place to another. -/
structure Serves (task : Parser.Task) (p q : DescendingParser) (product : Parser.Product)
    (remarks : List Diagnostic) : Prop where
  tokens : q.tokens = p.tokens
  depth : q.depth = p.depth
  channel : q.channel = p.channel.send remarks
  forward : p.position ≤ q.position
  within : q.position ≤ p.tokens.length
  /-- A token is consumed if there is one. -/
  progress : p.position < p.tokens.length → p.position < q.position
  /-- A block ends with the tokens or with an unmatched brace, on which the last remark is made. -/
  ending : task = .block → q.position = p.tokens.length ∨
    ∃ t d, p.position < q.position ∧ p.tokens[q.position - 1]? = some t ∧ t.kind = .brace ∧
      t.text = "\x7d" ∧ remarks.getLast? = some d ∧ d.kind = .unbalancedBrace ∧ d.span = t.span
  /-- A new parser on the tokens that are left reads the same with the same remarks. -/
  memoryless : ∃ r, (ofTokens (p.tokens.drop p.position) .fresh).perform task = some (product, r) ∧
    r.channel.pending = remarks ∧ q.position = p.position + r.position

/-- Outside of every function a parser reads as the readers do that take one token at a time. -/
lemma perform_eq {p : DescendingParser} (hdepth : p.depth = 0) (task : Parser.Task) :
    p.perform task =
      let reading := task.reading (Token.endOf p.tokens) p.rest
      some (reading.result, p.moved reading.consumed reading.remarks) := by
  cases task with
  | block =>
    rw [perform, block_eq hdepth]
    rfl
  | expr =>
    rw [perform, formula_eq]
    rfl

/-- So does the parser without the counter. -/
lemma perform_plain (p : DescendingParser) (task : Parser.Task) :
    p.plain.perform task =
      let reading := task.reading (Token.endOf p.tokens) p.rest
      (reading.result, (p.moved reading.consumed reading.remarks).plain) := by
  cases task with
  | block => rfl
  | expr => rfl

/-- One use of a parser that is inside of no function and not behind its tokens. -/
lemma exists_serves {p : DescendingParser} (hdepth : p.depth = 0)
    (hposition : p.position ≤ p.tokens.length) (task : Parser.Task) :
    ∃ product q remarks, p.perform task = some (product, q) ∧
      p.plain.perform task = (product, q.plain) ∧ Serves task p q product remarks := by
  have hlength : p.rest.length = p.tokens.length - p.position := List.length_drop
  have hle := task.consumed_le (Token.endOf p.tokens) p.rest
  refine ⟨_, _, _, perform_eq hdepth task, perform_plain p task, rfl, rfl, rfl,
    Nat.le_add_right _ _, ?_, ?_, ?_, ?_⟩
  · simp only [moved]
    omega
  · intro hlt
    have hrest : p.rest ≠ [] := List.length_pos_iff.1 (by omega)
    have hpos := task.consumed_pos (Token.endOf p.tokens) hrest
    simp only [moved]
    omega
  · rintro rfl
    rcases BlockState.read_ends (Token.endOf p.tokens) p.rest with
      hall | ⟨before, t, after, hrest, hconsumed, hkind, htext, hlast⟩
    · left
      simp only [moved, Parser.Task.reading, hall]
      omega
    · right
      refine ⟨t, _, ?_, ?_, hkind, htext, hlast, rfl, rfl⟩
      · simp only [moved, Parser.Task.reading, hconsumed]
        omega
      · simp only [moved, Parser.Task.reading, hconsumed]
        have hget : p.rest[before.length]? = some t := by simp [hrest]
        rwa [rest, List.getElem?_drop] at hget
  · -- The new parser starts at the front, and its tokens end where those of the old one do.
    have hfresh : task.reading (Token.endOf (ofTokens p.rest .fresh).tokens)
        (ofTokens p.rest .fresh).rest = task.reading (Token.endOf p.tokens) p.rest :=
      task.reading_drop p.tokens p.position
    refine ⟨_, (perform_eq rfl task).trans (by rw [← rest, hfresh]), ?_, ?_⟩
    · exact Channel.pending_send_fresh _
    · simp [moved, ofTokens]

/-- Any number of uses come to an end, inside of no function and not behind the tokens. -/
lemma exists_performAll {p : DescendingParser} (hdepth : p.depth = 0)
    (hposition : p.position ≤ p.tokens.length) (tasks : List Parser.Task) :
    ∃ q, p.performAll tasks = some q ∧ q.tokens = p.tokens ∧ q.depth = 0 ∧
      q.position ≤ p.tokens.length ∧
      q.plain = tasks.foldl (fun parser task => (parser.perform task).2) p.plain := by
  induction tasks generalizing p with
  | nil => exact ⟨p, rfl, rfl, hdepth, hposition, rfl⟩
  | cons task tasks ih =>
    obtain ⟨product, q, remarks, hperform, hplain, hserves⟩ :=
      exists_serves hdepth hposition task
    have hwithin : q.position ≤ q.tokens.length := by
      rw [hserves.tokens]
      exact hserves.within
    obtain ⟨r, hall, htokens, hdepth', hposition', hplain'⟩ :=
      ih (hserves.depth.trans hdepth) hwithin
    rw [hserves.tokens] at htokens hposition'
    refine ⟨r, ?_, htokens, hdepth', hposition', ?_⟩
    · simp only [performAll, hperform]
      exact hall
    · rw [hplain', List.foldl_cons, hplain]

/-- Reading by descent ends for all tokens, after any uses of one parser, with what the readers give
that take one token at a time.  Each use moves the cursor forward within the tokens, over at least one
if there is one, and leaves the counter at zero; a block is read up to the end of the tokens or behind
an unmatched brace, on which its last remark is made; and each use comes to what a new parser on the
tokens that are left comes to. -/
theorem descent_ends_and_forgets (tokens : List Token) (channel : Channel)
    (earlier : List Parser.Task) (task : Parser.Task) :
    ∃ p q product remarks,
      (ofTokens tokens channel).performAll earlier = some p ∧
      p.plain = earlier.foldl (fun parser task => (parser.perform task).2)
        (Parser.ofTokens tokens channel) ∧
      p.tokens = tokens ∧ p.depth = 0 ∧ p.position ≤ tokens.length ∧
      p.perform task = some (product, q) ∧
      p.plain.perform task = (product, q.plain) ∧
      Serves task p q product remarks := by
  obtain ⟨p, hall, htokens, hdepth, hposition, hplain⟩ :=
    exists_performAll (p := ofTokens tokens channel) rfl (Nat.zero_le _) earlier
  have hwithin : p.position ≤ p.tokens.length := by
    rw [htokens]
    exact hposition
  obtain ⟨product, q, remarks, hperform, hplain', hserves⟩ := exists_serves hdepth hwithin task
  exact ⟨p, q, product, remarks, hall, hplain, htokens, hdepth, hposition, hperform, hplain',
    hserves⟩

end DescendingParser

end Summand
