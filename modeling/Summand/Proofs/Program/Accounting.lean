import Mathlib.Data.List.Nodup
import Summand.Proofs.Program.Mentions
import Summand.Proofs.Token.Coverage

/-!
# An account of the operands

No operand is lost without a trace, except in one place.  An `Account` lists the tokens that the
reader of blocks consumes, each with its fate, and `Accounts` says what such a list tells about a
program and the remarks on it.  A token that is an operand, and that is no part of the name of a
function, is recorded in the program, or remarked on once, or was joined to the first operand of an
expression that then turned into a call.

The main statement is `exists_accounts`: if the tokens of a source do not run out too early, there is
such an account of them.
-/

namespace Summand

open Token.Kind Text

/-! ## Statement of an account -/

/-- The token is a number or a word. -/
def Token.isOperand (t : Token) : Bool :=
  t.kind = .number || t.kind = .word

/-- The remark is that the token is passed over or lacks an operator. -/
def Diagnostic.drops (d : Diagnostic) (t : Token) : Bool :=
  (d.kind = .skippedToken || d.kind = .missingOperator) && d.span = t.span

/-- The first operand of the formula that is being read. -/
def Mode.first? : Mode → Option Operand
  | .expression _ (.formula draft) => draft.chain?.map Chain.first
  | _ => none

namespace BlockState

/-- Behind these visits the reader is in the name of a function: a keyword has been met in front of a
statement, and no opening parenthesis since then. -/
def InFunctionName (before : List Visit) : Prop :=
  ∃ earlier s keyword run, before = earlier ++ (s, keyword) :: run ∧ s.mode = .statement ∧
    keyword.kind = .functionKeyword ∧ ∀ visit ∈ run, visit.2.text ≠ "("

/-- The token that is met in the state is accepted as a right operand, and the expression goes on to
an opening parenthesis that leads into a call of its first operand. -/
def Overridden (s : BlockState) (later : List Visit) : Prop :=
  ∃ purpose draft chain, s.mode = .expression purpose (.formula draft) ∧
    draft.chain? = some chain ∧ draft.operator?.isSome ∧
    ∃ inside last paren after next, later = inside ++ (last, paren) :: after ∧
      (∀ visit ∈ inside ++ [(last, paren)], visit.1.mode.first? = some chain.first) ∧
      last.feed paren = .more next ∧
      next.mode = .expression purpose (.arguments chain.first.text)

/-- The list gives every consumed token its fate. -/
structure Accounts (tokens : List Token) (program : Program) (remarks : List Diagnostic)
    (account : List (Visit × Option Fate)) : Prop where
  /-- The tokens are listed as they are consumed. -/
  visits : account.map Prod.fst = blockReader.trace .start tokens
  /-- Those with a fate are the operands outside of the names of functions. -/
  due : ∀ before s t fate? after, account = before ++ ((s, t), fate?) :: after →
    (fate?.isSome ↔ t.isOperand ∧ ¬ InFunctionName (before.map Prod.fst))
  /-- Those that are recorded make up the mentions of the program. -/
  mentions : recorded account = Stmt.mentionsAll program
  /-- Those that are reported are remarked on once, and the others never. -/
  reported : ∀ s t fate, ((s, t), some fate) ∈ account →
    remarks.countP (·.drops t) = if fate = .reported then 1 else 0
  overridden : ∀ before s t after, account = before ++ ((s, t), some .overridden) :: after →
    Overridden s (after.map Prod.fst)
  /-- Every binding has got a value. -/
  finished : ∀ visit, (visit, some .abandoned) ∉ account

/-! ## Entries of an account -/

/-- An account lists the visits that it is made from. -/
@[simp] lemma map_fst_account (visits : List Visit) : (account visits).map Prod.fst = visits := by
  induction visits with
  | nil => rfl
  | cons visit later ih =>
    obtain ⟨s, t⟩ := visit
    rw [account, List.map_cons, ih]

/-- Every entry of an account is about a visit, and its fate follows from the visits behind it. -/
lemma account_eq_append {visits : List Visit} {before after : List (Visit × Option Fate)}
    {s : BlockState} {t : Token} {fate? : Option Fate}
    (h : account visits = before ++ ((s, t), fate?) :: after) :
    visits = before.map Prod.fst ++ (s, t) :: after.map Prod.fst ∧
      fate? = s.fate? t (after.map Prod.fst) := by
  have hvisits : visits = before.map Prod.fst ++ (s, t) :: after.map Prod.fst := by
    rw [← map_fst_account visits, h, List.map_append, List.map_cons]
  refine ⟨hvisits, ?_⟩
  induction before generalizing visits with
  | nil =>
    obtain rfl : visits = (s, t) :: after.map Prod.fst := hvisits
    exact (Prod.mk.inj (List.cons.inj h).1).2.symm
  | cons entry before ih =>
    cases visits with
    | nil => simp [account] at h
    | cons visit later =>
      have hlater : account later = before ++ ((s, t), fate?) :: after := (List.cons.inj h).2
      exact ih hlater (List.cons.inj hvisits).2

/-- The operands are the tokens that denote one. -/
lemma isOperand_iff {t : Token} : t.isOperand ↔ ∃ x, Operand.ofToken? t = some x := by
  unfold Token.isOperand Operand.ofToken?
  cases t.kind <;> simp

/-- An operand has a fate unless it is met in the name of a function. -/
lemma isSome_fate?_iff {s : BlockState} {t : Token} {later : List Visit} :
    (s.fate? t later).isSome ↔ t.isOperand ∧ ∀ text, s.mode ≠ .functionName text := by
  rw [isOperand_iff]
  unfold fate?
  cases hx : Operand.ofToken? t with
  | none => simp
  | some x =>
    cases hmode : s.mode with
    | functionName text => simp
    | statement | bindingName => cases x <;> simp
    | functionHead name | bindingEquals name => simp
    | expression purpose state => cases state <;> simp

/-! ## The names of functions -/

/-- An expression does not lead into the name of a function. -/
lemma mode_ofExpr_ne (s : BlockState) (purpose : Purpose) (progress : Progress ExprState Expr)
    (text : String) : (s.ofExpr purpose progress).mode ≠ .functionName text := by
  cases progress <;> simp [ofExpr]

/-- A token leads into the name of a function if it is the keyword in front of a statement, and stays
there if it is no opening parenthesis. -/
lemma functionName_of_more {s next : BlockState} {t : Token} (h : s.feed t = .more next) :
    (∃ text, next.mode = .functionName text) ↔
      (s.mode = .statement ∧ t.kind = .functionKeyword) ∨
        ((∃ text, s.mode = .functionName text) ∧ t.text ≠ "(") := by
  cases step_of_more h with
  | expression hmode => simp [mode_ofExpr_ne, hmode]
  | function hmode hkind => simp [hmode, hkind]
  | name hmode htext | parenthesis hmode htext => simp [hmode, htext]
  | word hmode hkind | ret hmode hkind | binding hmode hkind | closing hmode hkind =>
    simp [hmode, hkind]
  | bound hmode | equals hmode | opening hmode => simp [hmode]
  | passing hignored =>
    -- The reader takes notice of every token in a name, and of a keyword in front of a statement.
    cases hmode : s.mode with
    | functionName text => simp [hmode, Mode.Ignores] at hignored
    | statement =>
      rw [hmode] at hignored
      simpa using hignored.1
    | functionHead name | bindingName | bindingEquals name | expression purpose state => simp

/-- A name of a function that the reader is in behind one visit more was begun with that visit or
behind it. -/
lemma inFunctionName_cons {s : BlockState} {t : Token} {before : List Visit} :
    InFunctionName ((s, t) :: before) ↔
      InFunctionName before ∨
        (s.mode = .statement ∧ t.kind = .functionKeyword ∧ ∀ visit ∈ before, visit.2.text ≠ "(") := by
  constructor
  · rintro ⟨earlier, s', keyword, run, hbefore, hmode, hkind, hrun⟩
    cases earlier with
    | nil =>
      obtain ⟨⟨rfl, rfl⟩, rfl⟩ := List.cons_eq_cons.1 hbefore |>.imp_left Prod.mk.inj
      exact Or.inr ⟨hmode, hkind, hrun⟩
    | cons visit earlier =>
      obtain ⟨-, rfl⟩ := List.cons.inj hbefore
      exact Or.inl ⟨earlier, s', keyword, run, rfl, hmode, hkind, hrun⟩
  · rintro (⟨earlier, s', keyword, run, rfl, hmode, hkind, hrun⟩ | ⟨hmode, hkind, hrun⟩)
    · exact ⟨(s, t) :: earlier, s', keyword, run, rfl, hmode, hkind, hrun⟩
    · exact ⟨[], s, t, before, rfl, hmode, hkind, hrun⟩

/-- The reader is in the name of a function behind the visits that lead into one, and behind those that
do not lead out of the name in which it was at the start. -/
lemma functionName_iff_of_advances {s last : BlockState} {tokens : List Token}
    {remarks : List Diagnostic} (h : blockReader.Advances s tokens remarks last) :
    (∃ text, last.mode = .functionName text) ↔
      InFunctionName (blockReader.trace s tokens) ∨
        ((∃ text, s.mode = .functionName text) ∧
          ∀ visit ∈ blockReader.trace s tokens, visit.2.text ≠ "(") := by
  induction h with
  | refl s => simp [Reader.trace, InFunctionName]
  | @token s next last t tokens remarks feed rest ih =>
    rw [Reader.trace_of_more feed, ih, functionName_of_more feed, inFunctionName_cons]
    simp only [List.forall_mem_cons]
    tauto

/-- From the start on, the reader is in the name of a function just where it has been led into one. -/
lemma functionName_iff {tokens : List Token} {before later : List Visit} {s : BlockState} {t : Token}
    (h : blockReader.trace .start tokens = before ++ (s, t) :: later) :
    (∃ text, s.mode = .functionName text) ↔ InFunctionName before := by
  obtain ⟨rest, remarks, -, hadvances, hbefore, -⟩ := Reader.exists_advances_of_trace_eq h
  rw [functionName_iff_of_advances hadvances, hbefore]
  simp [start]

/-! ## Calls -/

/-- A further operand leaves the first one as it is. -/
lemma exists_first_push {draft : Draft} {chain : Chain} (h : draft.chain? = some chain)
    (x : Operand) :
    ∃ chain', (draft.push x).chain? = some chain' ∧ chain'.first = chain.first := by
  obtain ⟨chain?, operator?⟩ := draft
  obtain rfl : chain? = some chain := h
  cases operator? with
  | none => exact ⟨chain, rfl, rfl⟩
  | some p => exact ⟨_, rfl, rfl⟩

/-- If the expression that is being read turns into a call, then an opening parenthesis leads there,
and up to it the first operand stays the same. -/
lemma exists_call_of_becomesCall {purpose : Purpose} {draft : Draft} {chain : Chain} {s : BlockState}
    {tokens : List Token} (hmode : s.mode = .expression purpose (.formula draft))
    (hchain : draft.chain? = some chain) (h : becomesCall (blockReader.trace s tokens)) :
    ∃ inside last paren after next, blockReader.trace s tokens = inside ++ (last, paren) :: after ∧
      (∀ visit ∈ inside ++ [(last, paren)], visit.1.mode.first? = some chain.first) ∧
      last.feed paren = .more next ∧
      next.mode = .expression purpose (.arguments chain.first.text) := by
  induction tokens generalizing s draft chain with
  | nil => simp [Reader.trace, becomesCall] at h
  | cons t tokens ih =>
    have hfirst : s.mode.first? = some chain.first := by simp [Mode.first?, hmode, hchain]
    have hfeed : blockReader.feed s t =
        .more (s.ofExpr purpose ((ExprState.formula draft).feed t)) := by
      simp [blockReader, feed, hmode]
    rw [Reader.trace_of_more hfeed] at h ⊢
    -- The expression goes on with the same first operand, turns into the call, or comes to its end.
    have hon {draft' : Draft} {chain' : Chain}
        (hstate : (ExprState.formula draft).feed t = .more (.formula draft'))
        (hchain' : draft'.chain? = some chain') (hsame : chain'.first = chain.first) :
        ∃ inside last paren after next,
          (s, t) :: blockReader.trace (s.ofExpr purpose ((ExprState.formula draft).feed t)) tokens =
            inside ++ (last, paren) :: after ∧
          (∀ visit ∈ inside ++ [(last, paren)], visit.1.mode.first? = some chain.first) ∧
          last.feed paren = .more next ∧
          next.mode = .expression purpose (.arguments chain.first.text) := by
      simp only [becomesCall, hmode, hstate] at h
      obtain ⟨inside, last, paren, after, next, htrace, hinside, hcall⟩ := ih rfl hchain' h
      rw [hsame] at hinside hcall
      rw [hstate, htrace]
      refine ⟨(s, t) :: inside, last, paren, after, next, rfl, ?_, hcall⟩
      rw [List.cons_append, List.forall_mem_cons]
      exact ⟨hfirst, hinside⟩
    rcases feed_formula_cases draft t with ⟨x, -, hstate⟩ |
      ⟨-, ⟨draft', hchain', hstate⟩ | ⟨chain', hchain', hstate⟩ | hstate⟩
    · obtain ⟨chain', hchain', hsame⟩ := exists_first_push hchain x
      exact hon hstate hchain' hsame
    · exact hon hstate (hchain'.trans hchain) rfl
    · obtain rfl : chain' = chain := Option.some.inj (hchain'.symm.trans hchain)
      refine ⟨[], s, t, _, _, rfl, ?_, hfeed, ?_⟩
      · simpa using hfirst
      · rw [hstate]
        rfl
    · simp [becomesCall, hmode, hstate] at h

/-- Only a right operand of an expression that turns into a call is overridden. -/
lemma cases_of_fate?_eq_overridden {s : BlockState} {t : Token} {later : List Visit}
    (h : s.fate? t later = some .overridden) :
    ∃ purpose draft chain x, s.mode = .expression purpose (.formula draft) ∧
      draft.chain? = some chain ∧ draft.operator?.isSome ∧ Operand.ofToken? t = some x ∧
      becomesCall later := by
  unfold fate? at h
  obtain ⟨x, hx, hfate⟩ := Option.bind_eq_some_iff.1 h
  split at hfate
  · cases hcall : becomesCall later <;> simp [Draft.fate, hcall] at hfate
  · simp at hfate
  · cases hvalue : getsValue later <;> simp [hvalue] at hfate
  · rename_i purpose draft hmode
    obtain ⟨chain?, operator?⟩ := draft
    cases chain? with
    | none => cases hcall : becomesCall later <;> simp [Draft.fate, hcall] at hfate
    | some chain =>
      cases operator? with
      | none => simp [Draft.fate] at hfate
      | some p =>
        cases hcall : becomesCall later with
        | false => simp [Draft.fate, hcall] at hfate
        | true => exact ⟨purpose, _, chain, _, hmode, rfl, rfl, hx, rfl⟩
  · simp at hfate

/-- The visits behind an overridden token show how. -/
lemma overridden_of_fate? {rest : List Token} {s : BlockState} {t : Token} {later : List Visit}
    (htrace : blockReader.trace s (t :: rest) = (s, t) :: later)
    (hfate : s.fate? t later = some .overridden) : Overridden s later := by
  obtain ⟨purpose, draft, chain, x, hmode, hchain, hoperator, hx, hcall⟩ :=
    cases_of_fate?_eq_overridden hfate
  have hfeed : blockReader.feed s t =
      .more (s.ofExpr purpose (.more (.formula (draft.push x)))) := by
    simp [blockReader, feed, hmode, ExprState.feed, role_eq_operand_iff.2 hx]
  rw [Reader.trace_of_more hfeed, List.cons.injEq] at htrace
  obtain ⟨-, rfl⟩ := htrace
  obtain ⟨chain', hchain', hsame⟩ := exists_first_push hchain x
  obtain ⟨inside, last, paren, after, next, hlater, hinside, hnext⟩ :=
    exists_call_of_becomesCall rfl hchain' hcall
  rw [hsame] at hinside hnext
  exact ⟨purpose, draft, chain, hmode, hchain, hoperator, inside, last, paren, after, next, hlater,
    hinside, hnext⟩

/-- The program has a call if a token is overridden. -/
lemma exists_callee_of_overridden {tokens : List Token} {before later : List Visit} {s : BlockState}
    {t : Token} (h : blockReader.trace .start tokens = before ++ (s, t) :: later)
    (hfate : s.fate? t later = some .overridden) (offset : Nat) :
    ∃ callee, .callee callee ∈
      Stmt.mentionsAll (blockReader.read offset .start tokens).result := by
  obtain ⟨rest, remarks, rfl, hadvances, -, htrace⟩ := Reader.exists_advances_of_trace_eq h
  obtain ⟨purpose, draft, chain, x, hmode, hchain, -, hx, hcall⟩ :=
    cases_of_fate?_eq_overridden hfate
  have hcall' : becomesCall ((s, t) :: later) = true := by
    simp [becomesCall, hmode, ExprState.feed, role_eq_operand_iff.2 hx, hcall]
  refine ⟨chain.first.text, ?_⟩
  rw [hadvances.read_append, mentions_read, htrace]
  simp [pending, hmode, hcall', Draft.mentions, hchain]

/-! ## Bindings without a value -/

/-- If a binding gets no value, the tokens run out. -/
lemma exists_unexpectedEnd_of_getsValue {name : String} {s : BlockState}
    (hmode : s.mode = .bindingEquals name) {tokens : List Token}
    (h : getsValue (blockReader.trace s tokens) = false) (offset : Nat) :
    ∃ d ∈ (blockReader.read offset s tokens).remarks, d.kind = .unexpectedEnd := by
  induction tokens with
  | nil =>
    refine ⟨.unexpectedEnd offset "`=`", ?_, rfl⟩
    simp [Reader.read, blockReader, missing, missingHere, hmode]
  | cons t tokens ih =>
    have htext : t.text ≠ "=" := by
      intro htext
      simp [getsValue, Reader.trace, htext] at h
    have hfeed : blockReader.feed s t = .more s := by simp [blockReader, feed, hmode, htext]
    rw [Reader.trace_of_more hfeed] at h
    have hlater : getsValue (blockReader.trace s tokens) = false := by
      simpa [getsValue, htext] using h
    obtain ⟨d, hd, hkind⟩ := ih hlater
    refine ⟨d, ?_, hkind⟩
    rw [Reader.read, hfeed]
    exact List.mem_append_right _ hd

/-- Only the name of a binding that gets no value is abandoned. -/
lemma cases_of_fate?_eq_abandoned {s : BlockState} {t : Token} {later : List Visit}
    (h : s.fate? t later = some .abandoned) :
    s.mode = .bindingName ∧ t.kind = .word ∧ getsValue later = false := by
  unfold fate? at h
  obtain ⟨x, hx, hfate⟩ := Option.bind_eq_some_iff.1 h
  split at hfate
  · cases hcall : becomesCall later <;> simp [Draft.fate, hcall] at hfate
  · simp at hfate
  · rename_i name hmode
    refine ⟨hmode, ?_, ?_⟩
    · by_contra hkind
      cases hkind' : t.kind <;> simp_all [Operand.ofToken?]
    · cases hvalue : getsValue later
      · rfl
      · simp [hvalue] at hfate
  · rename_i purpose draft hmode
    obtain ⟨chain?, operator?⟩ := draft
    cases chain? <;> cases operator? <;> cases hcall : becomesCall later <;>
      simp [Draft.fate, hcall] at hfate
  · simp at hfate

/-- No name of a binding is abandoned if the tokens do not run out too early. -/
lemma fate?_ne_abandoned {tokens : List Token} {before later : List Visit} {s : BlockState}
    {t : Token} (h : blockReader.trace .start tokens = before ++ (s, t) :: later) {offset : Nat}
    (hremarks : ∀ d ∈ (blockReader.read offset .start tokens).remarks, d.kind ≠ .unexpectedEnd) :
    s.fate? t later ≠ some .abandoned := by
  intro hfate
  obtain ⟨rest, remarks, rfl, hadvances, -, htrace⟩ := Reader.exists_advances_of_trace_eq h
  obtain ⟨hmode, hkind, hvalue⟩ := cases_of_fate?_eq_abandoned hfate
  have hfeed : blockReader.feed s t = .more { s with mode := .bindingEquals t.text } := by
    simp [blockReader, feed, hmode, hkind]
  rw [Reader.trace_of_more hfeed, List.cons.injEq] at htrace
  obtain ⟨-, rfl⟩ := htrace
  obtain ⟨d, hd, hend⟩ := exists_unexpectedEnd_of_getsValue rfl hvalue offset
  refine hremarks d ?_ hend
  rw [hadvances.read_append, Reader.read, hfeed]
  exact List.mem_append_right _ (List.mem_append_right _ hd)

/-! ## Remarks -/

/-- The text of an operand has no other characters than those of names and the point. -/
lemma not_mem_text_of_isOperand {t : Token} (hspells : Spells t.kind t.text.toList)
    (hoperand : t.isOperand) {c : Char} (hname : isNameChar c = false) (hpoint : c ≠ '.') :
    c ∉ t.text.toList := by
  have hdigit := isDigit_eq_false_of_isNameChar hname
  intro hc
  simp only [Token.isOperand, Bool.or_eq_true, decide_eq_true_eq] at hoperand
  rcases hoperand with hkind | hkind
  · rw [hkind] at hspells
    have hnumeral : IsNumeral t.text.toList := hspells
    rcases hnumeral.isDigit_or_point c hc with hc' | hc'
    · simp [hc'] at hdigit
    · exact hpoint hc'
  · rw [hkind] at hspells
    simp [hspells.2.1 c hc] at hname

/-- An operand is no bracket and no sign. -/
lemma text_ne_of_isOperand {t : Token} (hspells : Spells t.kind t.text.toList)
    (hoperand : t.isOperand) :
    t.text ≠ "(" ∧ t.text ≠ ")" ∧ t.text ≠ "\x7b" ∧ t.text ≠ "=" := by
  have hchar (c : Char) (hname : isNameChar c = false) (hpoint : c ≠ '.') :
      t.text ≠ String.ofList [c] := by
    intro htext
    apply not_mem_text_of_isOperand hspells hoperand hname hpoint
    simp [htext]
  exact ⟨hchar '(' (by decide) (by decide), hchar ')' (by decide) (by decide),
    hchar '\x7b' (by decide) (by decide), hchar '=' (by decide) (by decide)⟩

/-- An operand that is passed over is remarked on. -/
lemma isSome_skipped?_of_isOperand {t : Token} (h : t.isOperand) : t.skipped?.isSome := by
  unfold Token.isOperand at h
  unfold Token.skipped?
  cases hkind : t.kind <;> simp_all

/-- An operand is remarked on if and only if that is its fate. -/
lemma isSome_remark?_iff {s : BlockState} {t : Token} (hspells : Spells t.kind t.text.toList)
    (hoperand : t.isOperand) (later : List Visit) :
    (s.remark? t).isSome ↔ s.fate? t later = some .reported := by
  obtain ⟨hopening, hclosing, hbrace, hequals⟩ := text_ne_of_isOperand hspells hoperand
  have hskipped := isSome_skipped?_of_isOperand hoperand
  obtain ⟨x, hx⟩ := isOperand_iff.1 hoperand
  have hkind : t.kind ≠ .paren := by
    intro hparen
    simp [Token.isOperand, hparen] at hoperand
  obtain ⟨mode, body, frames⟩ := s
  cases mode with
  | statement =>
    cases hkind' : t.kind with
    | number =>
      simp only [Operand.ofToken?, hkind', Option.some.injEq] at hx
      simp [remark?, remarkStatement?, hkind', hskipped, fate?, Operand.ofToken?]
    | word =>
      cases hcall : becomesCall later <;>
        simp [remark?, remarkStatement?, hkind', fate?, Operand.ofToken?, Draft.fate, hcall]
    | functionKeyword | returnKeyword | letKeyword | space | semicolon | lineBreak | brace | paren
    | punctuator | other => simp [Token.isOperand, hkind'] at hoperand
  | functionName text => simp [remark?, hopening, fate?, hx]
  | functionHead name => simp [remark?, hbrace, hkind, hskipped, fate?, hx]
  | bindingName =>
    cases hkind' : t.kind with
    | number => simp [remark?, hkind', hskipped, fate?, Operand.ofToken?]
    | word =>
      cases hvalue : getsValue later <;> simp [remark?, hkind', fate?, Operand.ofToken?, hvalue]
    | functionKeyword | returnKeyword | letKeyword | space | semicolon | lineBreak | brace | paren
    | punctuator | other => simp [Token.isOperand, hkind'] at hoperand
  | bindingEquals name => simp [remark?, hequals, hskipped, fate?, hx]
  | expression purpose state =>
    cases state with
    | arguments callee => simp [remark?, ExprState.remark?, hclosing, hskipped, fate?, hx]
    | formula draft =>
      have hrole := role_eq_operand_iff.2 hx
      obtain ⟨chain?, operator?⟩ := draft
      cases chain? <;> cases operator? <;> cases hcall : becomesCall later <;>
        simp [remark?, ExprState.remark?, hrole, Draft.lacksOperator, fate?, hx, Draft.fate, hcall]

/-- What is said about an operand is that it is passed over or lacks an operator. -/
lemma drops_of_remark? {s : BlockState} {t : Token} (hoperand : t.isOperand) {d : Diagnostic}
    (h : s.remark? t = some d) : d.drops t := by
  obtain ⟨hkind | hkind | ⟨-, result, hdone⟩, hspan⟩ := remark?_cases h
  · simp [Diagnostic.drops, hkind, hspan]
  · simp [Diagnostic.drops, hkind, hspan]
  · obtain ⟨-, -, -, hbrace, -⟩ := feed_done_cases hdone
    simp [Token.isOperand, hbrace] at hoperand

/-- If the tokens do not run out too early, all remarks are on tokens. -/
lemma remarks_eq_located {offset : Nat} {tokens : List Token}
    (h : ∀ d ∈ (blockReader.read offset .start tokens).remarks, d.kind ≠ .unexpectedEnd) :
    (blockReader.read offset .start tokens).remarks = blockReader.located .start tokens := by
  rcases read_cases offset tokens with ⟨last, hremarks, -, -, -⟩ | ⟨before, t, -, hremarks, -, -⟩
  · have hmissing : last.missing = [] := by
      by_contra hne
      obtain ⟨expected, hexpected⟩ := List.exists_mem_of_ne_nil _ hne
      refine h (.unexpectedEnd offset expected) ?_ rfl
      rw [hremarks]
      exact List.mem_append_right _ (List.mem_map_of_mem hexpected)
    rw [hremarks, hmissing, List.map_nil, List.append_nil]
  · exact hremarks

/-- The tokens of a trace have different spans if all tokens do. -/
lemma nodup_spans_trace {tokens : List Token} (h : (tokens.map Token.span).Nodup) :
    ((blockReader.trace .start tokens).map fun visit => visit.2.span).Nodup := by
  have hmap : (blockReader.trace .start tokens).map (fun visit => visit.2.span) =
      ((blockReader.trace .start tokens).map Prod.snd).map Token.span := by
    rw [List.map_map]
    rfl
  rw [hmap, blockReader.map_snd_trace 0]
  exact h.sublist ((List.take_sublist _ _).map Token.span)

/-- There is at most one remark that drops a token, and there is one if the token is remarked on. -/
lemma countP_drops_located {tokens : List Token} (hspans : (tokens.map Token.span).Nodup)
    {before later : List Visit} {s : BlockState} {t : Token}
    (h : blockReader.trace .start tokens = before ++ (s, t) :: later) (hoperand : t.isOperand) :
    (blockReader.located .start tokens).countP (·.drops t) =
      if (s.remark? t).isSome then 1 else 0 := by
  have hnodup := nodup_spans_trace hspans
  rw [h, List.map_append, List.map_cons, List.nodup_append, List.nodup_cons] at hnodup
  obtain ⟨-, ⟨hlater, -⟩, hbefore⟩ := hnodup
  -- A remark on another token has another span.
  have hother (visits : List Visit) (hvisits : ∀ visit ∈ visits, visit.2.span ≠ t.span) :
      (visits.filterMap fun visit => blockReader.remark? visit.1 visit.2).countP (·.drops t) = 0 := by
    rw [List.countP_eq_zero]
    intro d hd hdrops
    obtain ⟨visit, hvisit, hremark⟩ := List.mem_filterMap.1 hd
    apply hvisits visit hvisit
    rw [← (remark?_cases hremark).2]
    simp only [Diagnostic.drops, Bool.and_eq_true, decide_eq_true_eq] at hdrops
    exact hdrops.2
  have hbefore' := hother before fun visit hvisit =>
    hbefore _ (List.mem_map_of_mem hvisit) _ List.mem_cons_self
  have hlater' := hother later fun visit hvisit hspan =>
    hlater (hspan ▸ List.mem_map_of_mem hvisit)
  unfold Reader.located
  rw [h, List.filterMap_append, List.countP_append, hbefore', List.filterMap_cons]
  cases hremark : s.remark? t with
  | none =>
    have hnone : blockReader.remark? s t = none := hremark
    simpa [hnone] using hlater'
  | some d =>
    have hsome : blockReader.remark? s t = some d := hremark
    simpa [hsome, List.countP_cons, drops_of_remark? hoperand hremark] using hlater'

/-! ## Counting -/

/-- The remarks that drop operands are those on the operands of the trace. -/
lemma countP_located {tokens : List Token} (hspans : (tokens.map Token.span).Nodup) :
    (blockReader.located .start tokens).countP (fun d =>
        ((blockReader.trace .start tokens).map Prod.snd).any fun t => t.isOperand && d.drops t) =
      (blockReader.trace .start tokens).countP fun visit =>
        visit.2.isOperand && (visit.1.remark? visit.2).isSome := by
  have hnodup := nodup_spans_trace hspans
  unfold Reader.located
  rw [List.countP_filterMap]
  apply List.countP_congr
  rintro ⟨s, t⟩ hvisit
  change ((s.remark? t).map _).getD false = true ↔ (t.isOperand && (s.remark? t).isSome) = true
  cases hremark : s.remark? t with
  | none => simp
  | some d =>
    simp only [Option.map_some, Option.getD_some, Option.isSome_some, Bool.and_true]
    rw [List.any_eq_true]
    constructor
    · rintro ⟨u, hu, hdrops⟩
      obtain ⟨visit, hvisit', rfl⟩ := List.mem_map.1 hu
      obtain ⟨hoperand, hdrops⟩ := Bool.and_eq_true_iff.1 hdrops
      simp only [Diagnostic.drops, Bool.and_eq_true, decide_eq_true_eq] at hdrops
      have hspan : visit.2.span = t.span := by
        rw [← hdrops.2]
        exact (remark?_cases hremark).2
      have hsame : visit = (s, t) := List.inj_on_of_nodup_map hnodup hvisit' hvisit hspan
      rwa [hsame] at hoperand
    · intro hoperand
      refine ⟨t, List.mem_map_of_mem hvisit, ?_⟩
      rw [hoperand, drops_of_remark? hoperand hremark]
      rfl

/-- If each element of a list counts in just one of two ways, the two counts add up. -/
lemma countP_eq_add {α : Type} {p q r : α → Bool} {l : List α}
    (h : ∀ a ∈ l, (if p a then 1 else 0) = (if q a then 1 else 0) + (if r a then 1 else 0)) :
    l.countP p = l.countP q + l.countP r := by
  induction l with
  | nil => rfl
  | cons a l ih =>
    rw [List.forall_mem_cons] at h
    have hl := ih h.2
    simp only [List.countP_cons]
    omega

/-- An entry of the account of a list of tokens belongs to a visit on which the account goes on. -/
lemma exists_visit_of_mem_account {visits : List Visit} {s : BlockState} {t : Token}
    {fate? : Option Fate} (h : ((s, t), fate?) ∈ account visits) :
    ∃ before later, visits = before ++ (s, t) :: later ∧ fate? = s.fate? t later := by
  obtain ⟨before, after, hsplit⟩ := List.append_of_mem h
  exact ⟨_, _, account_eq_append hsplit⟩

/-- A token that is due is recorded or reported, if it is neither overridden nor abandoned. -/
lemma countP_isSome_account {visits : List Visit}
    (hoverridden : ∀ visit, (visit, some .overridden) ∉ account visits)
    (habandoned : ∀ visit, (visit, some .abandoned) ∉ account visits) :
    (account visits).countP (fun entry => entry.2.isSome) =
      (recorded (account visits)).length +
        (account visits).countP (fun entry => entry.2 = some .reported) := by
  unfold recorded
  rw [List.length_filterMap_eq_countP]
  apply countP_eq_add
  rintro ⟨⟨s, t⟩, fate?⟩ hentry
  cases fate? with
  | none => rfl
  | some fate =>
    cases fate with
    | binding | callee | reported => rfl
    | overridden => exact absurd hentry (hoverridden _)
    | abandoned => exact absurd hentry (habandoned _)
    | operand =>
      obtain ⟨before, later, -, hfate⟩ := exists_visit_of_mem_account hentry
      have hsome : (s.fate? t later).isSome := by rw [← hfate]; rfl
      obtain ⟨x, hx⟩ := isOperand_iff.1 (isSome_fate?_iff.1 hsome).1
      simp [Fate.mention?, hx]

/-- The tokens that are reported are the operands that are remarked on. -/
lemma countP_reported_account {visits : List Visit}
    (hspells : ∀ visit ∈ visits, Spells visit.2.kind visit.2.text.toList) :
    (account visits).countP (fun entry => entry.2 = some .reported) =
      visits.countP fun visit => visit.2.isOperand && (visit.1.remark? visit.2).isSome := by
  conv_rhs => rw [← map_fst_account visits]
  rw [List.countP_map]
  apply List.countP_congr
  rintro ⟨⟨s, t⟩, fate?⟩ hentry
  obtain ⟨before, later, rfl, rfl⟩ := exists_visit_of_mem_account hentry
  have ht := hspells (s, t) (List.mem_append_right _ List.mem_cons_self)
  simp only [decide_eq_true_eq, Function.comp_apply, Bool.and_eq_true]
  constructor
  · intro hfate
    have hsome : (s.fate? t later).isSome := by rw [hfate]; rfl
    have hoperand := (isSome_fate?_iff.1 hsome).1
    exact ⟨hoperand, (isSome_remark?_iff ht hoperand later).2 hfate⟩
  · rintro ⟨hoperand, hremark⟩
    exact (isSome_remark?_iff ht hoperand later).1 hremark

/-! ## The account of a source -/

/-- The fates of the tokens of a source are an account of them, if the tokens do not run out too
early. -/
lemma accounts_account {tokens : List Token}
    (hspells : ∀ t ∈ tokens, Spells t.kind t.text.toList)
    (hspans : (tokens.map Token.span).Nodup) {offset : Nat}
    (h : ∀ d ∈ (blockReader.read offset .start tokens).remarks, d.kind ≠ .unexpectedEnd) :
    Accounts tokens (blockReader.read offset .start tokens).result
      (blockReader.read offset .start tokens).remarks (account (blockReader.trace .start tokens)) := by
  have hspells' := blockReader.forall_mem_trace .start hspells
  constructor
  case visits => exact map_fst_account _
  case due =>
    intro before s t fate? after hsplit
    obtain ⟨hvisits, rfl⟩ := account_eq_append hsplit
    rw [isSome_fate?_iff, ← functionName_iff hvisits, not_exists]
  case mentions => rw [mentions_read]; rfl
  case reported =>
    intro s t fate hentry
    obtain ⟨before, later, hvisits, hfate⟩ := exists_visit_of_mem_account hentry
    have hsome : (s.fate? t later).isSome := by rw [← hfate]; rfl
    have hoperand := (isSome_fate?_iff.1 hsome).1
    have ht := hspells' (s, t) (by rw [hvisits]; exact List.mem_append_right _ List.mem_cons_self)
    rw [remarks_eq_located h, countP_drops_located hspans hvisits hoperand]
    simp only [isSome_remark?_iff ht hoperand later, ← hfate, Option.some.injEq]
  case overridden =>
    intro before s t after hsplit
    obtain ⟨hvisits, hfate⟩ := account_eq_append hsplit
    obtain ⟨rest, remarks, -, -, -, htrace⟩ := Reader.exists_advances_of_trace_eq hvisits
    exact overridden_of_fate? htrace hfate.symm
  case finished =>
    rintro ⟨s, t⟩ hentry
    obtain ⟨before, later, hvisits, hfate⟩ := exists_visit_of_mem_account hentry
    exact fate?_ne_abandoned hvisits h hfate.symm

end BlockState

/-- If the tokens of a source do not run out too early, there is an account of those that are
consumed.  If the program has no call besides, then the operands outside of the names of functions are
as many as the operands and the names of bindings in the program and the remarks that drop operands
together. -/
theorem exists_accounts (source : String) (policy : UnknownPolicy) (channel : Channel) :
    let tokens := (Lexer.ofSource source policy channel).readAll.1
    let program := (Parser.ofTokens tokens .fresh).readBlock.1
    let parser := (Parser.ofTokens tokens .fresh).readBlock.2
    let remarks := parser.channel.pending
    (∀ d ∈ remarks, d.kind ≠ .unexpectedEnd) →
      ∃ account, BlockState.Accounts tokens program remarks account ∧
        account.map (fun entry => entry.1.2) = tokens.take parser.position ∧
        ((∀ callee, .callee callee ∉ Stmt.mentionsAll program) →
          account.countP (fun entry => entry.2.isSome) =
            (Stmt.mentionsAll program).length + remarks.countP fun d =>
              (tokens.take parser.position).any fun t => t.isOperand && d.drops t) := by
  intro tokens program parser remarks h
  have hspells : ∀ t ∈ tokens, Spells t.kind t.text.toList := fun t ht =>
    Lexer.spells_of_mem_readAll ht
  have hspans : (tokens.map Token.span).Nodup := (Lexer.ascending_readAll source policy channel).nodup
  have hremarks : remarks = (blockReader.read (Token.endOf tokens) .start tokens).remarks :=
    Channel.pending_send_fresh _
  have hposition : parser.position =
      (blockReader.read (Token.endOf tokens) .start tokens).consumed := Nat.zero_add _
  have hconsumed : (blockReader.trace .start tokens).map Prod.snd = tokens.take parser.position := by
    rw [hposition]
    exact blockReader.map_snd_trace _ _ _
  rw [hremarks] at h ⊢
  have haccounts := BlockState.accounts_account hspells hspans h
  refine ⟨_, haccounts, ?_, ?_⟩
  · have hmap := congrArg (List.map Prod.snd) haccounts.visits
    rwa [List.map_map, hconsumed] at hmap
  · intro hcall
    have hoverridden : ∀ visit, (visit, some .overridden) ∉
        BlockState.account (blockReader.trace .start tokens) := by
      rintro ⟨s, t⟩ hentry
      obtain ⟨before, later, hvisits, hfate⟩ := BlockState.exists_visit_of_mem_account hentry
      obtain ⟨callee, hcallee⟩ := BlockState.exists_callee_of_overridden hvisits hfate.symm
        (Token.endOf tokens)
      exact hcall callee hcallee
    have hspelled := blockReader.forall_mem_trace .start hspells
    rw [BlockState.countP_isSome_account hoverridden haccounts.finished, haccounts.mentions,
      BlockState.countP_reported_account hspelled, ← BlockState.countP_located hspans, hconsumed,
      BlockState.remarks_eq_located h]
    rfl

/-- An account of a source in which operands meet with all fates that they can have, and the count of
those of a similar source without a call. -/
theorem exists_accounts_with_and_without_call :
    (let tokens := (Lexer.ofSource
        "let x 1 = a b + c(2);\nfunction f 3 (y) \x7b return 4 + 5; \x7d 6" .halt .closed).readAll.1
      let program := (Parser.ofTokens tokens .fresh).readBlock.1
      let remarks := (Parser.ofTokens tokens .fresh).readBlock.2.channel.pending
      (∀ d ∈ remarks, d.kind ≠ .unexpectedEnd) ∧
        ∃ account, BlockState.Accounts tokens program remarks account) ∧
    (let tokens := (Lexer.ofSource
        "let x 1 = a b + c;\nfunction f 3 (y) \x7b return 4 + 5; \x7d 6" .halt .closed).readAll.1
      let program := (Parser.ofTokens tokens .fresh).readBlock.1
      let remarks := (Parser.ofTokens tokens .fresh).readBlock.2.channel.pending
      (∀ d ∈ remarks, d.kind ≠ .unexpectedEnd) ∧
        (∀ callee, .callee callee ∉ Stmt.mentionsAll program) ∧
        ∃ account, BlockState.Accounts tokens program remarks account ∧
          account.countP (fun entry => entry.2.isSome) = 9) := by
  constructor
  · intro tokens program remarks
    have hremarks : ∀ d ∈ remarks, d.kind ≠ .unexpectedEnd := by decide +kernel
    obtain ⟨account, haccounts, -⟩ := exists_accounts
      "let x 1 = a b + c(2);\nfunction f 3 (y) \x7b return 4 + 5; \x7d 6" .halt .closed hremarks
    exact ⟨hremarks, account, haccounts⟩
  · intro tokens program remarks
    have hremarks : ∀ d ∈ remarks, d.kind ≠ .unexpectedEnd := by decide +kernel
    have hmentions : Stmt.mentionsAll program = [.binding "x", .operand (.identifier "a"),
        .operand (.identifier "c"), .operand (.number "4"), .operand (.number "5")] := by
      decide +kernel
    have hcall : ∀ callee, .callee callee ∉ Stmt.mentionsAll program := by simp [hmentions]
    obtain ⟨account, haccounts, -, hcount⟩ := exists_accounts
      "let x 1 = a b + c;\nfunction f 3 (y) \x7b return 4 + 5; \x7d 6" .halt .closed hremarks
    refine ⟨hremarks, hcall, account, haccounts, ?_⟩
    rw [hcount hcall]
    decide +kernel

end Summand
