import Summand.Proofs.Program.Trace

/-!
# Where the names and operands of a program come from

A program mentions names and operands: the names of its bindings, the operands of its formulas and
the callees of its calls.  `Stmt.mentionsAll` lists them in the order in which they are written, the
bodies of functions included and the names of functions left out.

Each mention comes from a token of its own.  What becomes of a token that is an operand or a name is
its `Fate`, and it depends on the state in which the token is met and on the tokens behind it: an
expression can still turn into a call of its first operand (`becomesCall`), and a binding can still
fail to get a value (`getsValue`).  A token that is recorded has the text and the kind of its mention
(`from_of_mention?`).  The main statement is `mentions_read`: in the order of the tokens, the mentions of
those that are recorded are the mentions of the program.
-/

namespace Summand

/-! ## The mentions of a program -/

/-- A name or an operand that is written in a program. -/
inductive Mention where
  /-- The name of a binding. -/
  | binding (name : String)
  | operand (x : Operand)
  | callee (text : String)
deriving DecidableEq

/-- Operands are mentioned, operators are not. -/
def Entry.mention? : Entry → Option Mention
  | .operand x => some (.operand x)
  | .operator _ => none

/-- The mentions of an expression, in their order. -/
def Expr.mentions : Expr → List Mention
  | .formula entries => entries.filterMap Entry.mention?
  | .call callee => [.callee callee]

namespace Stmt

mutual

/-- The mentions of a statement, in their order. -/
def mentions : Stmt → List Mention
  | .function _ body => mentionsAll body
  | .binding name value => .binding name :: value.mentions
  | .ret value => value.mentions
  | .expression value => value.mentions

/-- The mentions of statements, one after the other. -/
def mentionsAll : List Stmt → List Mention
  | [] => []
  | s :: rest => mentions s ++ mentionsAll rest

end

/-- Two lists of statements mention what the one and the other do. -/
@[simp] lemma mentionsAll_append (first second : List Stmt) :
    mentionsAll (first ++ second) = mentionsAll first ++ mentionsAll second := by
  induction first with
  | nil => simp [mentionsAll]
  | cons s first ih => simp [mentionsAll, ih]

/-- One statement has its own mentions. -/
@[simp] lemma mentionsAll_singleton (s : Stmt) : mentionsAll [s] = s.mentions := by
  simp [mentionsAll]

end Stmt

/-- What a statement mentions besides its expression. -/
def Purpose.mentions : Purpose → List Mention
  | .binding name => [.binding name]
  | .ret => []
  | .expression => []

/-- A statement mentions what it is for and what its expression does. -/
@[simp] lemma Purpose.mentions_statement (purpose : Purpose) (e : Expr) :
    (purpose.statement e).mentions = purpose.mentions ++ e.mentions := by
  cases purpose <;> simp [statement, mentions, Stmt.mentions]

/-- The mentions of a chain are its operands. -/
def Chain.mentions (chain : Chain) : List Mention :=
  .operand chain.first :: chain.joined.map fun pair => .operand pair.2

/-- The formula of a chain mentions the operands of the chain. -/
lemma Chain.filterMap_entries (chain : Chain) :
    chain.entries.filterMap Entry.mention? = chain.mentions := by
  have hfirst : Entry.mention? (.operand chain.first) = some (.operand chain.first) := rfl
  unfold entries mentions
  rw [List.filterMap_cons_some hfirst]
  congr 1
  induction chain.joined with
  | nil => rfl
  | cons pair joined ih =>
    rw [List.flatMap_cons, List.filterMap_append, ih]
    rfl

/-- The token has the text of the mention and is of a kind that can stand for it. -/
def Mention.From : Mention → Token → Prop
  | .binding name, t => t.kind = .word ∧ t.text = name
  | .operand (.number text), t => t.kind = .number ∧ t.text = text
  | .operand (.identifier name), t => t.kind = .word ∧ t.text = name
  | .callee text, t => (t.kind = .number ∨ t.kind = .word) ∧ t.text = text

/-- An operand comes from the token that denotes it. -/
lemma Mention.from_operand {t : Token} {x : Operand} (h : Operand.ofToken? t = some x) :
    (Mention.operand x).From t := by
  unfold Operand.ofToken? at h
  split at h
  · rename_i hkind
    cases h
    exact ⟨hkind, rfl⟩
  · rename_i hkind
    cases h
    exact ⟨hkind, rfl⟩
  · simp at h

/-- What an expression will mention of what has been read, depending on whether it turns into a call
of its first operand. -/
def Draft.mentions (draft : Draft) (called : Bool) : List Mention :=
  match draft.chain? with
  | none => []
  | some chain => if called then [.callee chain.first.text] else chain.mentions

/-- The expression as it stands mentions what has been read. -/
lemma Draft.mentions_expr (draft : Draft) : draft.expr.mentions = draft.mentions false := by
  unfold expr mentions
  cases draft.chain? with
  | none => rfl
  | some chain => exact chain.filterMap_entries

/-! ## The fate of a token -/

/-- A token that a reader consumes, with the state in which it is met. -/
abbrev Visit := BlockState × Token

/-- What becomes of a token that is an operand or a name. -/
inductive Fate where
  /-- It is the name of a binding. -/
  | binding
  /-- It is an operand of a formula. -/
  | operand
  /-- It is the callee of a call. -/
  | callee
  /-- It is remarked on. -/
  | reported
  /-- It was joined to the first operand of an expression that then turned into a call. -/
  | overridden
  /-- It is the name of a binding that has not got a value when the tokens run out. -/
  | abandoned
deriving DecidableEq

/-- What is recorded in the program of a token with this fate. -/
def Fate.mention? (t : Token) : Fate → Option Mention
  | .binding => some (.binding t.text)
  | .operand => (Operand.ofToken? t).map .operand
  | .callee => some (.callee t.text)
  | .reported => none
  | .overridden => none
  | .abandoned => none

/-- What becomes of the next operand of an expression, depending on whether the expression turns into
a call of its first operand. -/
def Draft.fate (draft : Draft) (called : Bool) : Fate :=
  match draft.chain?, draft.operator? with
  | none, _ => if called then .callee else .operand
  | some _, some _ => if called then .overridden else .operand
  | some _, none => .reported

namespace BlockState

/-- The expression that is being read turns into a call of its first operand. -/
def becomesCall : List Visit → Bool
  | [] => false
  | (s, t) :: later =>
    match s.mode with
    | .expression _ (.formula draft) =>
      match (ExprState.formula draft).feed t with
      | .more (.arguments _) => true
      | .more (.formula _) => becomesCall later
      | .done _ => false
    | _ => false

/-- The binding that is being read gets a value. -/
def getsValue (visits : List Visit) : Bool :=
  visits.any fun visit => visit.2.text = "="

/-- What becomes of a token, if it is an operand or a name and stands outside of the name of a
function. -/
def fate? (s : BlockState) (t : Token) (later : List Visit) : Option Fate :=
  (Operand.ofToken? t).bind fun x =>
    match s.mode, x with
    | .statement, .identifier _ => some (Draft.fate {} (becomesCall later))
    | .functionName _, _ => none
    | .bindingName, .identifier _ => some (if getsValue later then .binding else .abandoned)
    | .expression _ (.formula draft), _ => some (draft.fate (becomesCall later))
    | _, _ => some .reported

/-- The visits, each with the fate of its token. -/
def account : List Visit → List (Visit × Option Fate)
  | [] => []
  | (s, t) :: later => ((s, t), s.fate? t later) :: account later

/-- What a token is recorded as. -/
def mention? (s : BlockState) (t : Token) (later : List Visit) : Option Mention :=
  (s.fate? t later).bind (Fate.mention? t)

/-- The mentions of the tokens that are recorded, in the order of the tokens. -/
def recorded (account : List (Visit × Option Fate)) : List Mention :=
  account.filterMap fun entry => entry.2.bind (Fate.mention? entry.1.2)

/-! ## The tokens behind the mentions -/

/-- Only names are recorded as names of bindings. -/
lemma exists_identifier_of_fate? {s : BlockState} {t : Token} {later : List Visit}
    (h : s.fate? t later = some .binding) : ∃ name, Operand.ofToken? t = some (.identifier name) := by
  have hdraft (draft : Draft) (called : Bool) : draft.fate called ≠ .binding := by
    unfold Draft.fate
    split <;> (try split) <;> simp
  obtain ⟨x, hx, hfate⟩ := Option.bind_eq_some_iff.1 h
  split at hfate
  · exact absurd (Option.some.inj hfate) (hdraft _ _)
  · simp at hfate
  · exact ⟨_, hx⟩
  · exact absurd (Option.some.inj hfate) (hdraft _ _)
  · simp at hfate

/-- What a token is recorded as comes from the token. -/
lemma from_of_mention? {s : BlockState} {t : Token} {later : List Visit} {m : Mention}
    (h : s.mention? t later = some m) : m.From t := by
  obtain ⟨fate, hfate, hm⟩ := Option.bind_eq_some_iff.1 h
  obtain ⟨x, hx, -⟩ := Option.bind_eq_some_iff.1 hfate
  have hfrom := Mention.from_operand hx
  cases fate with
  | binding =>
    obtain ⟨name, hname⟩ := exists_identifier_of_fate? hfate
    obtain rfl := Option.some.inj hm
    exact ⟨(Mention.from_operand hname).1, rfl⟩
  | operand =>
    simp only [Fate.mention?, hx, Option.map_some, Option.some.injEq] at hm
    rwa [← hm]
  | callee =>
    obtain rfl := Option.some.inj hm
    cases x with
    | number text => exact ⟨Or.inl hfrom.1, rfl⟩
    | identifier name => exact ⟨Or.inr hfrom.1, rfl⟩
  | reported | overridden | abandoned => simp [Fate.mention?] at hm

/-! ## What one token adds -/

/-- The mentions of the statements that are finished. -/
def settled (s : BlockState) : List Mention :=
  s.frames.reverse.flatMap (fun frame => Stmt.mentionsAll frame.outer) ++ Stmt.mentionsAll s.body

/-- The mentions of what has been read of the statement that is not finished. -/
def pending (s : BlockState) (visits : List Visit) : List Mention :=
  match s.mode with
  | .bindingEquals name => if getsValue visits then [.binding name] else []
  | .expression purpose (.formula draft) => purpose.mentions ++ draft.mentions (becomesCall visits)
  | .expression purpose (.arguments callee) => purpose.mentions ++ [.callee callee]
  | _ => []

/-- Finishing a statement settles its mentions. -/
lemma settled_finish (mode : Mode) (body : List Stmt) (frames : List Frame) (added : Stmt) :
    settled ⟨mode, body ++ [added], frames⟩ = settled ⟨mode, body, frames⟩ ++ added.mentions := by
  simp [settled]

/-- Opening the body of a function settles nothing. -/
lemma settled_open (mode mode' : Mode) (name : String) (body : List Stmt) (frames : List Frame) :
    settled ⟨mode, [], ⟨name, body⟩ :: frames⟩ = settled ⟨mode', body, frames⟩ := by
  simp [settled, Stmt.mentionsAll]

/-- Closing the body of a function settles nothing, because its name does not count. -/
lemma settled_close (mode mode' : Mode) (body : List Stmt) (frame : Frame) (frames : List Frame) :
    settled ⟨mode, frame.finish body, frames⟩ = settled ⟨mode', body, frame :: frames⟩ := by
  simp [settled, Frame.finish, Stmt.mentions]

/-- The statements as they stand mention what is settled, if no statement is unfinished. -/
lemma mentionsAll_foldl_finish (mode : Mode) (body : List Stmt) (frames : List Frame) :
    Stmt.mentionsAll (frames.foldl (fun body frame => frame.finish body) body) =
      settled ⟨mode, body, frames⟩ := by
  induction frames generalizing body with
  | nil => simp [settled]
  | cons frame frames ih => rw [List.foldl_cons, ih, settled_close mode mode]

/-- The statements as they stand mention what is settled and what is pending. -/
lemma mentionsAll_close (s : BlockState) : Stmt.mentionsAll s.close = s.settled ++ s.pending [] := by
  obtain ⟨mode, body, frames⟩ := s
  rw [close, mentionsAll_foldl_finish mode]
  cases mode with
  | expression purpose state =>
    rw [settledBody, settled_finish, Purpose.mentions_statement]
    cases state with
    | formula draft =>
      rw [ExprState.close, Draft.mentions_expr]
      rfl
    | arguments callee => rfl
  | statement | functionName text | functionHead name | bindingName => simp [settledBody, pending]
  | bindingEquals name => simp [settledBody, pending, getsValue]

/-- The text of an operand is that of its token. -/
lemma text_of_ofToken? {t : Token} {x : Operand} (h : Operand.ofToken? t = some x) :
    x.text = t.text := by
  unfold Operand.ofToken? at h
  split at h
  · cases h
    rfl
  · cases h
    rfl
  · simp at h

/-- A token has the role of an operand if and only if it is one. -/
lemma role_eq_operand_iff {t : Token} {x : Operand} :
    t.role = .operand x ↔ Operand.ofToken? t = some x := by
  unfold Token.role
  cases Operand.ofToken? t with
  | some y => simp
  | none =>
    simp only [reduceCtorEq, iff_false]
    split
    all_goals first | simp | (split <;> simp)

/-- What a token of a formula leads to.  It is pushed if it is an operand; otherwise the operands stay
as they are, unless they turn into a call of the first of them or the formula comes to its end. -/
lemma feed_formula_cases (draft : Draft) (t : Token) :
    (∃ x, Operand.ofToken? t = some x ∧
      (ExprState.formula draft).feed t = .more (.formula (draft.push x))) ∨
    (Operand.ofToken? t = none ∧
      ((∃ draft', draft'.chain? = draft.chain? ∧
          (ExprState.formula draft).feed t = .more (.formula draft')) ∨
        (∃ chain, draft.chain? = some chain ∧
          (ExprState.formula draft).feed t = .more (.arguments chain.first.text)) ∨
        (ExprState.formula draft).feed t = .done draft.expr)) := by
  cases hx : Operand.ofToken? t with
  | some x =>
    have hrole := role_eq_operand_iff.2 hx
    exact Or.inl ⟨x, rfl, by simp [ExprState.feed, hrole]⟩
  | none =>
    refine Or.inr ⟨rfl, ?_⟩
    cases hrole : t.role with
    | operand x => simp [role_eq_operand_iff.1 hrole] at hx
    | sign p? => exact Or.inl ⟨{ draft with operator? := p? }, rfl, by simp [ExprState.feed, hrole]⟩
    | terminator => exact Or.inr (Or.inr (by simp [ExprState.feed, hrole]))
    | stray => exact Or.inl ⟨draft, rfl, by simp [ExprState.feed, hrole]⟩
    | opening =>
      cases hcallee : draft.callee? with
      | none => exact Or.inl ⟨draft, rfl, by simp [ExprState.feed, hrole, hcallee]⟩
      | some callee =>
        -- Only a first operand with no operator waiting can be called.
        unfold Draft.callee? at hcallee
        split at hcallee
        · rename_i hoperator
          obtain ⟨chain, hchain, rfl⟩ := Option.map_eq_some_iff.1 hcallee
          refine Or.inr (Or.inl ⟨chain, hchain, ?_⟩)
          simp [ExprState.feed, hrole, Draft.callee?, hoperator, hchain]
        · simp at hcallee

/-- An operand of an expression adds what its fate says. -/
lemma mentions_push {t : Token} {x : Operand} (ht : Operand.ofToken? t = some x) (draft : Draft)
    (called : Bool) :
    (draft.push x).mentions called =
      draft.mentions called ++ ((draft.fate called).mention? t).toList := by
  have htext := text_of_ofToken? ht
  obtain ⟨chain?, operator?⟩ := draft
  cases chain? with
  | none =>
    cases called with
    | true => simp [Draft.push, Draft.mentions, Draft.fate, Fate.mention?, htext]
    | false =>
      simp [Draft.push, Draft.mentions, Draft.fate, Fate.mention?, Chain.mentions, ht]
  | some chain =>
    cases operator? with
    | none => simp [Draft.push, Draft.mentions, Draft.fate, Fate.mention?]
    | some p =>
      cases called with
      | true => simp [Draft.push, Draft.mentions, Draft.fate, Fate.mention?]
      | false =>
        simp [Draft.push, Draft.mentions, Draft.fate, Fate.mention?, Chain.mentions, ht]

/-- A token that is no operand is not recorded. -/
lemma mention?_of_ofToken?_eq_none {t : Token} (ht : Operand.ofToken? t = none) (s : BlockState)
    (later : List Visit) : s.mention? t later = none := by
  simp [mention?, fate?, ht]

/-- A token of an expression adds what it is recorded as. -/
lemma settled_pending_ofExpr (purpose : Purpose) (state : ExprState) (body : List Stmt)
    (frames : List Frame) (t : Token) (later : List Visit) :
    let s : BlockState := ⟨.expression purpose state, body, frames⟩
    let next := s.ofExpr purpose (state.feed t)
    next.settled ++ next.pending later =
      s.settled ++ s.pending ((s, t) :: later) ++ (s.mention? t later).toList := by
  intro s next
  cases state with
  | arguments callee =>
    have hnone : s.mention? t later = none := by
      cases hx : Operand.ofToken? t with
      | none => exact mention?_of_ofToken?_eq_none hx s later
      | some x => simp [mention?, fate?, hx, s, Fate.mention?]
    rw [hnone, Option.toList_none, List.append_nil]
    by_cases hclose : t.text = ")"
    · have hnext : next = ⟨.statement, body ++ [purpose.statement (.call callee)], frames⟩ := by
        simp [next, s, ExprState.feed, hclose, ofExpr]
      rw [hnext, settled_finish, Purpose.mentions_statement]
      simp [s, pending, settled, Expr.mentions]
    · have hnext : next = s := by simp [next, s, ExprState.feed, hclose, ofExpr]
      rw [hnext]
      rfl
  | formula draft =>
    rcases feed_formula_cases draft t with ⟨x, hx, hfeed⟩ |
      ⟨hx, ⟨draft', hchain, hfeed⟩ | ⟨chain, hchain, hfeed⟩ | hfeed⟩
    · have hcall : becomesCall ((s, t) :: later) = becomesCall later := by
        simp [becomesCall, s, hfeed]
      have hmention : s.mention? t later = (draft.fate (becomesCall later)).mention? t := by
        simp [mention?, fate?, hx, s]
      simp only [next, hfeed, ofExpr, hmention, pending, s, hcall, mentions_push hx, settled,
        List.append_assoc]
    · have hcall : becomesCall ((s, t) :: later) = becomesCall later := by
        simp [becomesCall, s, hfeed]
      have hmentions : draft'.mentions (becomesCall later) = draft.mentions (becomesCall later) := by
        simp only [Draft.mentions, hchain]
      rw [mention?_of_ofToken?_eq_none hx, Option.toList_none, List.append_nil]
      simp only [next, hfeed, ofExpr, pending, s, hcall, hmentions, settled]
    · have hcall : becomesCall ((s, t) :: later) = true := by simp [becomesCall, s, hfeed]
      have hmentions : draft.mentions true = [.callee chain.first.text] := by
        simp [Draft.mentions, hchain]
      rw [mention?_of_ofToken?_eq_none hx, Option.toList_none, List.append_nil]
      simp only [next, hfeed, ofExpr, pending, s, hcall, hmentions, settled]
    · have hcall : becomesCall ((s, t) :: later) = false := by simp [becomesCall, s, hfeed]
      have hnext : next = ⟨.statement, body ++ [purpose.statement draft.expr], frames⟩ := by
        simp only [next, hfeed, ofExpr, s]
      rw [mention?_of_ofToken?_eq_none hx, hnext, settled_finish, Purpose.mentions_statement,
        Draft.mentions_expr, Option.toList_none, List.append_nil]
      simp only [pending, s, hcall, settled, List.append_nil, List.append_assoc]

/-- A token that is passed over is not recorded, and nothing changes about what is pending. -/
lemma pending_of_ignores {s : BlockState} {t : Token} (h : s.mode.Ignores t) (later : List Visit) :
    s.pending ((s, t) :: later) = s.pending later ∧ s.mention? t later = none := by
  obtain ⟨mode, body, frames⟩ := s
  cases mode with
  | statement =>
    obtain ⟨-, -, -, hword, -⟩ := h
    refine ⟨rfl, ?_⟩
    cases hkind : t.kind <;> simp_all [mention?, fate?, Operand.ofToken?, Fate.mention?]
  | bindingName =>
    refine ⟨rfl, ?_⟩
    cases hkind : t.kind <;> simp_all [Mode.Ignores, mention?, fate?, Operand.ofToken?, Fate.mention?]
  | functionHead name =>
    refine ⟨rfl, ?_⟩
    cases hx : Operand.ofToken? t <;> simp [mention?, fate?, hx, Fate.mention?]
  | bindingEquals name =>
    have htext : t.text ≠ "=" := h
    have hvalue : getsValue ((⟨.bindingEquals name, body, frames⟩, t) :: later) = getsValue later := by
      simp [getsValue, htext]
    refine ⟨?_, ?_⟩
    · simp only [pending, hvalue]
    · cases hx : Operand.ofToken? t <;> simp [mention?, fate?, hx, Fate.mention?]
  | functionName text | expression purpose state => exact absurd h id

/-- A token adds to the mentions what it is recorded as. -/
lemma settled_pending_of_more {s next : BlockState} {t : Token} (h : s.feed t = .more next)
    (later : List Visit) :
    next.settled ++ next.pending later =
      s.settled ++ s.pending ((s, t) :: later) ++ (s.mention? t later).toList := by
  cases step_of_more h with
  | @expression purpose state hmode =>
    obtain ⟨mode, body, frames⟩ := s
    obtain rfl : mode = .expression purpose state := hmode
    exact settled_pending_ofExpr purpose state body frames t later
  | passing hignored =>
    obtain ⟨hpending, hmention⟩ := pending_of_ignores hignored later
    rw [hpending, hmention, Option.toList_none, List.append_nil]
  | word hmode hkind =>
    have hx : Operand.ofToken? t = some (.identifier t.text) := by simp [Operand.ofToken?, hkind]
    have hmention : s.mention? t later = (Draft.fate {} (becomesCall later)).mention? t := by
      simp [mention?, fate?, hx, hmode]
    have hpush := mentions_push hx {} (becomesCall later)
    rw [hmention]
    simpa [settled, pending, hmode, Purpose.mentions, Draft.mentions] using hpush
  | ret hmode hkind | binding hmode hkind | function hmode hkind =>
    have hx : Operand.ofToken? t = none := by simp [Operand.ofToken?, hkind]
    rw [mention?_of_ofToken?_eq_none hx]
    simp [settled, pending, hmode, ExprState.start, Draft.mentions, Purpose.mentions]
  | @closing frame frames hmode hkind htext hinside =>
    obtain ⟨mode, body, _⟩ := s
    obtain rfl : mode = .statement := hmode
    obtain rfl := hinside
    have hx : Operand.ofToken? t = none := by simp [Operand.ofToken?, hkind]
    rw [mention?_of_ofToken?_eq_none hx, settled_close .statement .statement]
    simp [pending]
  | bound hmode hkind =>
    have hx : Operand.ofToken? t = some (.identifier t.text) := by simp [Operand.ofToken?, hkind]
    cases hvalue : getsValue later <;>
      simp [mention?, fate?, hx, hmode, hvalue, Fate.mention?, settled, pending]
  | @equals name hmode htext =>
    have hmention : s.mention? t later = none := by
      cases hx : Operand.ofToken? t <;> simp [mention?, fate?, hx, hmode, Fate.mention?]
    rw [hmention]
    simp [settled, pending, getsValue, hmode, htext, ExprState.start, Draft.mentions,
      Purpose.mentions]
  | name hmode htext | parenthesis hmode htext =>
    have hmention : s.mention? t later = none := by
      cases hx : Operand.ofToken? t <;> simp [mention?, fate?, hx, hmode]
    rw [hmention]
    simp [settled, pending, hmode]
  | @opening name hmode htext =>
    have hsettled : settled ⟨.statement, [], ⟨name, s.body⟩ :: s.frames⟩ = s.settled :=
      settled_open .statement s.mode name s.body s.frames
    have hmention : s.mention? t later = none := by
      cases hx : Operand.ofToken? t <;> simp [mention?, fate?, hx, hmode, Fate.mention?]
    rw [hmention, hsettled]
    simp [pending, hmode]

/-! ## What all tokens add -/

/-- The first token of an account is recorded in front of the others. -/
lemma recorded_account_cons (s : BlockState) (t : Token) (later : List Visit) :
    recorded (account ((s, t) :: later)) =
      (s.mention? t later).toList ++ recorded (account later) := by
  rw [account, recorded, List.filterMap_cons, mention?]
  cases (s.fate? t later).bind (Fate.mention? t) <;> rfl

/-- What is read mentions what is settled, what is pending, and the tokens that are recorded, each once
and in their order. -/
lemma mentions_read (offset : Nat) (s : BlockState) (tokens : List Token) :
    Stmt.mentionsAll (blockReader.read offset s tokens).result =
      s.settled ++ s.pending (blockReader.trace s tokens) ++
        recorded (account (blockReader.trace s tokens)) := by
  induction tokens generalizing s with
  | nil =>
    have hread : (blockReader.read offset s []).result = s.close := rfl
    rw [hread, mentionsAll_close]
    exact (List.append_nil _).symm
  | cons t tokens ih =>
    cases hfeed : blockReader.feed s t with
    | more next =>
      have hread : (blockReader.read offset s (t :: tokens)).result =
          (blockReader.read offset next tokens).result := by
        rw [Reader.read, hfeed]
      have hstep : s.feed t = .more next := hfeed
      rw [hread, ih next, settled_pending_of_more hstep, Reader.trace_of_more hfeed,
        recorded_account_cons, List.append_assoc]
    | done result =>
      -- The brace that ends the whole block stands in front of a statement and is no operand.
      obtain ⟨rfl, hmode, hframes, hkind, -⟩ := feed_done_cases hfeed
      have hx : Operand.ofToken? t = none := by simp [Operand.ofToken?, hkind]
      rw [Reader.read, hfeed, Reader.trace_of_done hfeed, recorded_account_cons,
        mention?_of_ofToken?_eq_none hx]
      simp [settled, pending, hmode, hframes, account, recorded]

end BlockState

end Summand
