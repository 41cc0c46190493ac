import Summand.Program.Printer
import Summand.Proofs.Program.Advance
import Summand.Proofs.Token.Lexemes

/-!
# Reading back what was printed

A program is `Writable` if its texts can stand in a source: operands are numbers and names, formulas
have their operators behind the operands that they join, a statement that starts with an expression
starts with a name, and function names are trimmed and free of parentheses.  Function names may be
odd otherwise, with line breaks, keywords, braces or unknown characters in them.

The main statement, `readBlock_print`, says that a writable program is read back from its printed
form, with every token consumed and nothing to remark.  The lexer and the reader of blocks are
followed together: `Takes` says that the reader goes silently from one state to another over the
tokens with which a text starts, and leaves the rest of the text.  Each piece of a printed program
has a law of this form in which the rest is arbitrary, and the laws compose.
-/

namespace Summand

open Token.Kind Text

/-! ## Writable programs -/

/-- A name that is no keyword. -/
def IsIdentifier (text : String) : Prop :=
  IsName text.toList ∧ ¬IsKeyword text.toList

instance (text : String) : Decidable (IsIdentifier text) :=
  inferInstanceAs (Decidable (_ ∧ _))

/-- A number or a name. -/
def Operand.Writable : Operand → Prop
  | .number text => IsNumeral text.toList
  | .identifier name => IsIdentifier name

instance : (x : Operand) → Decidable x.Writable
  | .number text => inferInstanceAs (Decidable (IsNumeral text.toList))
  | .identifier name => inferInstanceAs (Decidable (IsIdentifier name))

/-- Operands, each with an operator behind it. -/
def Entry.WritableJoined : List Entry → Prop
  | [] => True
  | .operand x :: .operator _ :: rest => x.Writable ∧ WritableJoined rest
  | _ => False

/-- Nothing, or an operand and then operands with an operator behind each of them. -/
def Entry.WritableFormula : List Entry → Prop
  | [] => True
  | .operand x :: rest => x.Writable ∧ WritableJoined rest
  | _ => False

/-- A formula in good order, or a call of a number or a name. -/
def Expr.Writable : Expr → Prop
  | .formula entries => Entry.WritableFormula entries
  | .call callee => IsIdentifier callee ∨ IsNumeral callee.toList

/-- The expression starts with a name. -/
def Expr.StartsWithName : Expr → Prop
  | .formula (.operand (.identifier _) :: _) => True
  | .formula _ => False
  | .call callee => IsIdentifier callee

/-- The text can be the name of a function. -/
def IsFunctionName (name : String) : Prop :=
  trim name = name ∧ '(' ∉ name.toList

namespace Stmt

mutual

/-- The statement can be written so that it is read back. -/
def Writable : Stmt → Prop
  | .function name body => IsFunctionName name ∧ WritableAll body
  | .binding name value => IsIdentifier name ∧ value.Writable
  | .ret value => value.Writable
  | .expression value => value.Writable ∧ value.StartsWithName

/-- The statements can be written so that they are read back. -/
def WritableAll : List Stmt → Prop
  | [] => True
  | s :: rest => Writable s ∧ WritableAll rest

end

end Stmt

/-- The program can be written so that it is read back. -/
def Program.Writable (program : Program) : Prop :=
  Stmt.WritableAll program

/-! ## Going silently over a text -/

/-- From the first state the reader of blocks goes over the tokens with which the text starts to the
second state, without a remark, and what is left of the text is the rest. -/
def Takes (s : BlockState) (cs : List Char) (s' : BlockState) (rest : List Char) : Prop :=
  ∃ ls, Lexer.lexemes cs = ls ++ Lexer.lexemes rest ∧
    ∀ position, blockReader.Advances s (Token.place position ls) [] s'

/-- Two ways that meet are one way. -/
lemma Takes.trans {s₁ s₂ s₃ : BlockState} {cs₁ cs₂ cs₃ : List Char} (h : Takes s₁ cs₁ s₂ cs₂)
    (h' : Takes s₂ cs₂ s₃ cs₃) : Takes s₁ cs₁ s₃ cs₃ := by
  obtain ⟨ls, hls, hadvances⟩ := h
  obtain ⟨ls', hls', hadvances'⟩ := h'
  refine ⟨ls ++ ls', ?_, ?_⟩
  · rw [hls, hls', List.append_assoc]
  · intro position
    rw [Token.place_append]
    exact (hadvances position).trans (hadvances' _)

/-- The reader takes the first token of a text. -/
lemma Takes.token {s s' : BlockState} {kind : Token.Kind} {text cs rest : List Char}
    (hcs : cs = text ++ rest) (hbegins : Begins kind text rest)
    (hfeed : ∀ position, s.feed ⟨kind, String.ofList text, position⟩ = .more s')
    (hremark : ∀ position, s.remark? ⟨kind, String.ofList text, position⟩ = none) :
    Takes s cs s' rest := by
  rw [hcs]
  refine ⟨[(kind, String.ofList text)], Lexer.lexemes_append_of_begins hbegins, ?_⟩
  intro position
  have hone : blockReader.Advances s [⟨kind, String.ofList text, position⟩] _ s' :=
    .one (hfeed position)
  have hsilent : blockReader.remark? s ⟨kind, String.ofList text, position⟩ = none :=
    hremark position
  rw [hsilent] at hone
  exact hone

/-! ## The pieces of a printed program -/

section Pieces

variable (body : List Stmt) (frames : List Frame) (rest : List Char)

/-- Blanks between tokens do not count. -/
lemma takes_space {mode : Mode} (hname : ∀ text, mode ≠ .functionName text)
    (harguments : ∀ purpose callee, mode ≠ .expression purpose (.arguments callee))
    (hrest : NotLed isInlineBlank rest) :
    Takes ⟨mode, body, frames⟩ (' ' :: rest) ⟨mode, body, frames⟩ rest := by
  have hbegins : Begins .space [' '] rest := begins_of_spells (by decide) hrest
  refine .token rfl hbegins ?_ ?_
  · intro position
    cases mode with
    | statement => rfl
    | functionName text => exact absurd rfl (hname text)
    | functionHead name => rfl
    | bindingName => rfl
    | bindingEquals name => rfl
    | expression purpose state =>
      cases state with
      | formula draft => rfl
      | arguments callee => exact absurd rfl (harguments purpose callee)
  · intro position
    cases mode with
    | expression purpose state =>
      cases state with
      | formula draft => rfl
      | arguments callee => exact absurd rfl (harguments purpose callee)
    | _ => rfl

/-- A semicolon in front of a statement does not count. -/
lemma takes_semicolon :
    Takes ⟨.statement, body, frames⟩ (';' :: rest) ⟨.statement, body, frames⟩ rest := by
  have hbegins : Begins .semicolon [';'] rest := begins_of_spells rfl trivial
  exact .token rfl hbegins (fun _ => rfl) (fun _ => rfl)

/-- A line break in front of a statement does not count. -/
lemma takes_lineFeed :
    Takes ⟨.statement, body, frames⟩ ('\n' :: rest) ⟨.statement, body, frames⟩ rest := by
  exact .token rfl (begins_lineFeed rest) (fun _ => rfl) (fun _ => rfl)

/-! ### Expressions -/

/-- The kind of token that an operand is written as. -/
def Operand.kind : Operand → Token.Kind
  | .number _ => .number
  | .identifier _ => .word

/-- The token of an operand denotes it. -/
lemma ofToken?_kind_text (x : Operand) (position : Nat) :
    Operand.ofToken? ⟨x.kind, x.text, position⟩ = some x := by
  cases x <;> rfl

/-- The text does not go on with what a name or a number could take up. -/
def Delimited (cs : List Char) : Prop :=
  NotLed isWordChar cs ∧ cs.head? ≠ some '.'

/-- A writable operand is a token of its own in front of a text that cannot go on with it. -/
lemma begins_operand {x : Operand} (hx : x.Writable) (hrest : Delimited rest) :
    Begins x.kind x.text.toList rest := by
  obtain ⟨hword, hpoint⟩ := hrest
  have hname : NotLed isNameChar rest := hword.isNameChar
  cases x with
  | number text =>
    refine begins_of_spells hx ⟨?_, ?_⟩
    · exact fun c hc => isDigit_eq_false_of_isNameChar (hname c hc)
    · rintro _ d more rfl
      exact absurd rfl hpoint
  | identifier name =>
    refine begins_of_spells hx.1 ⟨hname, ?_⟩
    intro hkey
    exact absurd hkey hx.2

/-- A writable operand does not start with a blank. -/
lemma notLed_operand {x : Operand} (hx : x.Writable) :
    NotLed isInlineBlank (x.text.toList ++ rest) := by
  have hfirst : ∃ c cs, x.text.toList = c :: cs ∧ isNameChar c = true := by
    cases x with
    | number text =>
      rcases hx with ⟨hnil, hdigits⟩ | ⟨whole, fraction, ⟨hnil, hdigits⟩, -, htext⟩
      · obtain ⟨c, cs, hcs⟩ := List.exists_cons_of_ne_nil hnil
        exact ⟨c, cs, hcs, isNameChar_of_isDigit (hdigits c (by simp [hcs]))⟩
      · obtain ⟨c, cs, rfl⟩ := List.exists_cons_of_ne_nil hnil
        exact ⟨c, _, htext, isNameChar_of_isDigit (hdigits c (by simp))⟩
    | identifier name =>
      obtain ⟨c, cs, hcs⟩ := List.exists_cons_of_ne_nil hx.1.1
      exact ⟨c, cs, hcs, hx.1.2.1 c (by simp [hcs])⟩
  obtain ⟨c, cs, hcs, hc⟩ := hfirst
  rw [hcs, List.cons_append, notLed_cons, isInlineBlank, isBlank_eq_false_of_isNameChar hc,
    Bool.false_and]

/-- An operand that does not lack an operator is added to the formula. -/
lemma takes_operand (purpose : Purpose) {draft : Draft} (hdraft : draft.lacksOperator = false)
    {x : Operand} (hx : x.Writable) (hrest : Delimited rest) :
    Takes ⟨.expression purpose (.formula draft), body, frames⟩ (x.text.toList ++ rest)
      ⟨.expression purpose (.formula (draft.push x)), body, frames⟩ rest := by
  refine .token rfl (begins_operand rest hx hrest) ?_ ?_
  · intro position
    rw [String.ofList_toList]
    simp [BlockState.feed, ExprState.feed, Token.role, ofToken?_kind_text, BlockState.ofExpr]
  · intro position
    rw [String.ofList_toList]
    simp [BlockState.remark?, ExprState.remark?, Token.role, ofToken?_kind_text, hdraft]

/-- An operator is kept for the next operand. -/
lemma takes_operator (purpose : Purpose) (draft : Draft) (p : Operator) :
    Takes ⟨.expression purpose (.formula draft), body, frames⟩ (p.symbol.toList ++ rest)
      ⟨.expression purpose (.formula { draft with operator? := some p }), body, frames⟩ rest := by
  cases p with
  | plus =>
    have hbegins : Begins .punctuator ['+'] rest := begins_of_spells (Or.inr rfl) trivial
    exact .token rfl hbegins (fun _ => rfl) (fun _ => rfl)
  | equals =>
    have hbegins : Begins .punctuator ['='] rest := begins_of_spells (Or.inl rfl) trivial
    exact .token rfl hbegins (fun _ => rfl) (fun _ => rfl)

/-- A semicolon ends a formula. -/
lemma takes_terminator (purpose : Purpose) (draft : Draft) :
    Takes ⟨.expression purpose (.formula draft), body, frames⟩ (';' :: rest)
      ⟨.statement, body ++ [purpose.statement draft.expr], frames⟩ rest := by
  have hbegins : Begins .semicolon [';'] rest := begins_of_spells rfl trivial
  exact .token rfl hbegins (fun _ => rfl) (fun _ => rfl)

/-- Entries of another form than operands with operators behind them are not writable. -/
lemma not_writableJoined {entries : List Entry} (hnil : entries = [] → False)
    (hpair : ∀ x p rest, entries = .operand x :: .operator p :: rest → False) :
    ¬Entry.WritableJoined entries := by
  intro h
  unfold Entry.WritableJoined at h
  split at h
  · exact hnil rfl
  · exact hpair _ _ _ rfl
  · exact h

/-- A joined operand as it is printed, character by character. -/
lemma toList_printJoined_cons (x : Operand) (p : Operator) (entries : List Entry) :
    (Entry.printJoined (.operand x :: .operator p :: entries)).toList =
      ' ' :: (p.symbol.toList ++ ' ' :: (x.text.toList ++ (Entry.printJoined entries).toList)) := by
  simp [Entry.printJoined]

/-- A blank, a semicolon or a parenthesis ends a name or a number. -/
lemma delimited_cons {c : Char} (hc : c ∈ [' ', ';', '(']) : Delimited (c :: rest) := by
  have hword : ∀ c ∈ [' ', ';', '('], isWordChar c = false ∧ c ≠ '.' := by decide +kernel
  refine ⟨?_, ?_⟩
  · rw [notLed_cons]
    exact (hword c hc).1
  · simpa using (hword c hc).2

/-- Behind an operand comes a blank or the end of the formula. -/
lemma delimited_printJoined {entries : List Entry} (hentries : Entry.WritableJoined entries) :
    Delimited ((Entry.printJoined entries).toList ++ ';' :: rest) := by
  cases entries using Entry.WritableJoined.induct with
  | case1 => exact delimited_cons rest (by simp)
  | case2 x p entries =>
    rw [toList_printJoined_cons, List.cons_append]
    exact delimited_cons _ (by simp)
  | case3 entries hnil hpair => exact (not_writableJoined hnil hpair hentries).elim

/-- The operands behind the first are joined to it one after the other. -/
lemma takes_joined (purpose : Purpose) (entries : List Entry)
    (hentries : Entry.WritableJoined entries) (chain : Chain) :
    ∃ chain' : Chain, chain'.entries = chain.entries ++ entries ∧
      Takes ⟨.expression purpose (.formula { chain? := some chain }), body, frames⟩
        ((Entry.printJoined entries).toList ++ ';' :: rest)
        ⟨.expression purpose (.formula { chain? := some chain' }), body, frames⟩
        (';' :: rest) := by
  induction entries using Entry.WritableJoined.induct generalizing chain with
  | case1 =>
    refine ⟨chain, (List.append_nil _).symm, [], rfl, ?_⟩
    exact fun _ => .refl _
  | case2 x p entries ih =>
    obtain ⟨hx, hentries⟩ := hentries
    obtain ⟨chain', hchain', htakes⟩ :=
      ih hentries { chain with joined := chain.joined ++ [(p, x)] }
    refine ⟨chain', ?_, ?_⟩
    · rw [hchain']
      simp [Chain.entries]
    · have hdelimited := delimited_printJoined rest hentries
      have hoperand : NotLed isInlineBlank
          (x.text.toList ++ ((Entry.printJoined entries).toList ++ ';' :: rest)) :=
        notLed_operand _ hx
      have hsymbol : NotLed isInlineBlank (p.symbol.toList ++ ' ' ::
          (x.text.toList ++ ((Entry.printJoined entries).toList ++ ';' :: rest))) := by
        cases p <;> simp [Operator.symbol] <;> decide
      simp only [toList_printJoined_cons, List.cons_append, List.append_assoc]
      exact (takes_space body frames _ (by simp) (by simp) hsymbol).trans
        ((takes_operator body frames _ purpose _ p).trans
        ((takes_space body frames _ (by simp) (by simp) hoperand).trans
        ((takes_operand body frames _ purpose rfl hx hdelimited).trans htakes)))
  | case3 entries hnil hpair => exact (not_writableJoined hnil hpair hentries).elim

/-- A formula behind its first operand, up to the semicolon. -/
lemma takes_formula (purpose : Purpose) (x : Operand) {entries : List Entry}
    (hentries : Entry.WritableJoined entries) :
    Takes ⟨.expression purpose (.formula { chain? := some { first := x } }), body, frames⟩
      ((Entry.printJoined entries).toList ++ ';' :: rest)
      ⟨.statement, body ++ [purpose.statement (.formula (.operand x :: entries))], frames⟩
      rest := by
  obtain ⟨chain, hchain, htakes⟩ :=
    takes_joined body frames rest purpose entries hentries { first := x }
  have hexpr : Draft.expr { chain? := some chain } = .formula (.operand x :: entries) := by
    change Expr.formula chain.entries = _
    rw [hchain]
    rfl
  rw [← hexpr]
  exact htakes.trans (takes_terminator body frames rest purpose _)

/-- A call behind its callee, with the semicolon that follows it. -/
lemma takes_call (purpose : Purpose) (x : Operand) :
    Takes ⟨.expression purpose (.formula { chain? := some { first := x } }), body, frames⟩
      ('(' :: ')' :: ';' :: rest)
      ⟨.statement, body ++ [purpose.statement (.call x.text)], frames⟩ rest := by
  have hopening : Begins .paren ['('] (')' :: ';' :: rest) :=
    begins_of_spells (Or.inl rfl) trivial
  have hclosing : Begins .paren [')'] (';' :: rest) := begins_of_spells (Or.inr rfl) trivial
  have harguments :
      Takes ⟨.expression purpose (.formula { chain? := some { first := x } }), body, frames⟩
        ('(' :: ')' :: ';' :: rest) ⟨.expression purpose (.arguments x.text), body, frames⟩
        (')' :: ';' :: rest) :=
    .token rfl hopening (fun _ => rfl) (fun _ => rfl)
  have hdone : Takes ⟨.expression purpose (.arguments x.text), body, frames⟩
      (')' :: ';' :: rest) ⟨.statement, body ++ [purpose.statement (.call x.text)], frames⟩
      (';' :: rest) :=
    .token rfl hclosing (fun _ => rfl) (fun _ => rfl)
  exact harguments.trans (hdone.trans (takes_semicolon _ frames rest))

/-- What is printed behind the first operand of an expression, and what the expression then is. -/
lemma takes_behind (purpose : Purpose) {e : Expr} (he : e.Writable) (hne : e ≠ .formula []) :
    ∃ x tail, x.Writable ∧ e.print.toList ++ ';' :: rest = x.text.toList ++ tail ∧
      Delimited tail ∧ (e.StartsWithName → ∃ name, x = .identifier name) ∧
      Takes ⟨.expression purpose (.formula { chain? := some { first := x } }), body, frames⟩ tail
        ⟨.statement, body ++ [purpose.statement e], frames⟩ rest := by
  cases e with
  | formula entries =>
    match entries, he with
    | [], _ => exact absurd rfl hne
    | .operator p :: entries, he => exact he.elim
    | .operand x :: entries, he =>
      refine ⟨x, (Entry.printJoined entries).toList ++ ';' :: rest, he.1, ?_,
        delimited_printJoined rest he.2, ?_, takes_formula body frames rest purpose x he.2⟩
      · simp [Expr.print, Entry.printFormula]
      · intro hname
        cases x with
        | number text => exact hname.elim
        | identifier name => exact ⟨name, rfl⟩
  | call callee =>
    obtain ⟨x, hx, htext, hname⟩ : ∃ x : Operand, x.Writable ∧ x.text = callee ∧
        (Expr.StartsWithName (.call callee) → ∃ name, x = .identifier name) := by
      by_cases hcallee : IsIdentifier callee
      · exact ⟨.identifier callee, hcallee, rfl, fun _ => ⟨callee, rfl⟩⟩
      · refine ⟨.number callee, he.resolve_left hcallee, rfl, ?_⟩
        exact fun h => absurd h hcallee
    subst htext
    refine ⟨x, '(' :: ')' :: ';' :: rest, hx, ?_, delimited_cons _ (by simp), hname,
      takes_call body frames rest purpose x⟩
    simp [Expr.print]

/-- A writable expression is read up to its semicolon. -/
lemma takes_expr (purpose : Purpose) {e : Expr} (he : e.Writable) :
    Takes ⟨.expression purpose .start, body, frames⟩ (e.print.toList ++ ';' :: rest)
      ⟨.statement, body ++ [purpose.statement e], frames⟩ rest := by
  by_cases hempty : e = .formula []
  · subst hempty
    exact takes_terminator body frames rest purpose {}
  · obtain ⟨x, tail, hx, hprint, hdelimited, -, htakes⟩ :=
      takes_behind body frames rest purpose he hempty
    rw [hprint]
    exact (takes_operand body frames tail purpose rfl hx hdelimited).trans htakes

/-- In front of a statement a name starts an expression. -/
lemma takes_name {name : String} (hname : IsIdentifier name) (hrest : Delimited rest) :
    Takes ⟨.statement, body, frames⟩ (name.toList ++ rest)
      ⟨.expression .expression (.formula { chain? := some { first := .identifier name } }), body,
        frames⟩ rest := by
  have hbegins : Begins .word name.toList rest :=
    begins_operand rest (show Operand.Writable (.identifier name) from hname) hrest
  refine .token rfl hbegins ?_ ?_
  · intro position
    rw [String.ofList_toList]
    rfl
  · exact fun _ => rfl

/-! ### Statements -/

/-- A writable expression that starts with a name is a statement. -/
lemma takes_expression {e : Expr} (he : e.Writable) (hname : e.StartsWithName) :
    Takes ⟨.statement, body, frames⟩ ((Stmt.expression e).print.toList ++ rest)
      ⟨.statement, body ++ [.expression e], frames⟩ rest := by
  have hne : e ≠ .formula [] := by
    rintro rfl
    exact hname.elim
  obtain ⟨x, tail, hx, hprint, hdelimited, hidentifier, htakes⟩ :=
    takes_behind body frames ('\n' :: rest) .expression he hne
  obtain ⟨name, rfl⟩ := hidentifier hname
  have htext : (Stmt.expression e).print.toList ++ rest =
      (Operand.identifier name).text.toList ++ tail := by
    rw [← hprint]
    simp [Stmt.print]
  rw [htext]
  exact (takes_name body frames tail hx hdelimited).trans
    (htakes.trans (takes_lineFeed _ frames rest))

/-- A keyword and the blank behind it. -/
lemma takes_keyword (kind : Token.Kind) {keyword : String} (h : kind.keyword? = some keyword)
    {mode : Mode} (hfeed : ∀ position,
      BlockState.feed ⟨.statement, body, frames⟩ ⟨kind, keyword, position⟩ =
        .more ⟨mode, body, frames⟩) :
    Takes ⟨.statement, body, frames⟩ (keyword.toList ++ ' ' :: rest) ⟨mode, body, frames⟩
      (' ' :: rest) := by
  have hbegins : Begins kind keyword.toList (' ' :: rest) :=
    begins_keyword h (delimited_cons rest (by simp)).1
  refine .token rfl hbegins ?_ ?_
  · intro position
    rw [String.ofList_toList]
    exact hfeed position
  · intro position
    cases kind <;> simp only [keyword?, reduceCtorEq] at h <;> rfl

/-- A printed expression with its semicolon does not start with a blank. -/
lemma notLed_print {e : Expr} (he : e.Writable) :
    NotLed isInlineBlank (e.print.toList ++ ';' :: rest) := by
  by_cases hempty : e = .formula []
  · subst hempty
    change NotLed isInlineBlank (';' :: rest)
    rw [notLed_cons]
    decide
  · obtain ⟨x, tail, hx, hprint, -⟩ := takes_behind [] [] rest .ret he hempty
    rw [hprint]
    exact notLed_operand tail hx

/-- A statement that marks a result. -/
lemma takes_ret {e : Expr} (he : e.Writable) :
    Takes ⟨.statement, body, frames⟩ ((Stmt.ret e).print.toList ++ rest)
      ⟨.statement, body ++ [.ret e], frames⟩ rest := by
  have hprint : (Stmt.ret e).print.toList ++ rest =
      "return".toList ++ ' ' :: (e.print.toList ++ ';' :: '\n' :: rest) := by
    simp [Stmt.print]
  rw [hprint]
  exact (takes_keyword body frames _ .returnKeyword rfl (fun _ => rfl)).trans
    ((takes_space body frames _ (by simp) (by simp [ExprState.start]) (notLed_print _ he)).trans
    ((takes_expr body frames _ .ret he).trans (takes_lineFeed _ frames rest)))

/-- A binding. -/
lemma takes_binding {name : String} (hname : IsIdentifier name) {e : Expr} (he : e.Writable) :
    Takes ⟨.statement, body, frames⟩ ((Stmt.binding name e).print.toList ++ rest)
      ⟨.statement, body ++ [.binding name e], frames⟩ rest := by
  have hprint : (Stmt.binding name e).print.toList ++ rest =
      "let".toList ++ ' ' :: (name.toList ++ ' ' :: '=' :: ' ' ::
        (e.print.toList ++ ';' :: '\n' :: rest)) := by
    simp [Stmt.print]
  have hwritable : Operand.Writable (.identifier name) := hname
  have hword : Takes ⟨.bindingName, body, frames⟩
      (name.toList ++ ' ' :: '=' :: ' ' :: (e.print.toList ++ ';' :: '\n' :: rest))
      ⟨.bindingEquals name, body, frames⟩
      (' ' :: '=' :: ' ' :: (e.print.toList ++ ';' :: '\n' :: rest)) := by
    have hdelimited : Delimited
        (' ' :: '=' :: ' ' :: (e.print.toList ++ ';' :: '\n' :: rest)) :=
      delimited_cons _ (by simp)
    have hbegins : Begins .word name.toList _ := begins_operand _ hwritable hdelimited
    refine .token rfl hbegins ?_ (fun _ => rfl)
    intro position
    rw [String.ofList_toList]
    rfl
  have hequals : Takes ⟨.bindingEquals name, body, frames⟩
      ('=' :: ' ' :: (e.print.toList ++ ';' :: '\n' :: rest))
      ⟨.expression (.binding name) .start, body, frames⟩
      (' ' :: (e.print.toList ++ ';' :: '\n' :: rest)) :=
    .token rfl (begins_of_spells (show Spells .punctuator ['='] from Or.inl rfl) trivial)
      (fun _ => rfl) (fun _ => rfl)
  rw [hprint]
  exact (takes_keyword body frames _ .letKeyword rfl (fun _ => rfl)).trans
    ((takes_space body frames _ (by simp) (by simp) (notLed_operand _ hwritable)).trans
    (hword.trans
    ((takes_space body frames _ (by simp) (by simp) (notLed_cons.2 (by decide))).trans
    (hequals.trans
    ((takes_space body frames _ (by simp) (by simp [ExprState.start]) (notLed_print _ he)).trans
    ((takes_expr body frames _ (.binding name) he).trans (takes_lineFeed _ frames rest)))))))

/-- The text of a function name is collected token by token. -/
lemma advances_functionName (ls : List (Token.Kind × String)) (hls : ∀ l ∈ ls, l.2 ≠ "(")
    (text : String) (position : Nat) :
    blockReader.Advances ⟨.functionName text, body, frames⟩ (Token.place position ls) []
      ⟨.functionName (text ++ String.join (ls.map Prod.snd)), body, frames⟩ := by
  induction ls generalizing text position with
  | nil =>
    simpa using Reader.Advances.refl _
  | cons l ls ih =>
    obtain ⟨kind, piece⟩ := l
    have hpiece : piece ≠ "(" := hls (kind, piece) (by simp)
    have hfeed : blockReader.feed ⟨.functionName text, body, frames⟩ ⟨kind, piece, position⟩ =
        .more ⟨.functionName (text ++ piece), body, frames⟩ := by
      simp [blockReader, BlockState.feed, hpiece]
    have hremark : blockReader.remark? ⟨.functionName text, body, frames⟩ ⟨kind, piece, position⟩ =
        none := by
      simp [blockReader, BlockState.remark?, hpiece]
    have hrest := ih (fun l hl => hls l (List.mem_cons_of_mem _ hl)) (text ++ piece)
      (position + piece.utf8ByteSize)
    have hadvances := Reader.Advances.token hfeed hrest
    rw [hremark] at hadvances
    simpa [String.append_assoc] using hadvances

/-- All the text up to the parenthesis belongs to the name of a function. -/
lemma takes_functionName {cs : List Char} (hcs : '(' ∉ cs) (text : String) :
    Takes ⟨.functionName text, body, frames⟩ (cs ++ '(' :: rest)
      ⟨.functionName (text ++ String.ofList cs), body, frames⟩ ('(' :: rest) := by
  have hseam : Lexer.Seam cs '(' := by
    refine ⟨by decide +kernel, by decide, by decide, ?_⟩
    intro h
    exact absurd h (by decide)
  refine ⟨Lexer.lexemes cs, Lexer.lexemes_append_of_seam rest hseam, ?_⟩
  have hpieces : ∀ l ∈ Lexer.lexemes cs, l.2 ≠ "(" := by
    rintro l hl hparen
    apply hcs
    have hjoin : '(' ∈ (String.join ((Lexer.lexemes cs).map Prod.snd)).toList := by
      rw [String.toList_join, List.mem_flatMap]
      exact ⟨l.2, List.mem_map_of_mem hl, by simp [hparen]⟩
    rwa [Lexer.join_lexemes, String.toList_ofList] at hjoin
  rw [← Lexer.join_lexemes]
  exact advances_functionName body frames _ hpieces text

/-- A blank in front of a text is trimmed away. -/
lemma trim_blank_append (text : String) : trim (" " ++ text) = trim text := by
  have hblank : isBlank ' ' = true := by decide
  simp [trim, trimChars, hblank]

/-- The head of a function, from its keyword to the line break behind the opening brace. -/
lemma takes_functionHead {name : String} (hname : IsFunctionName name) :
    Takes ⟨.statement, body, frames⟩
      ("function".toList ++ ' ' :: (name.toList ++ '(' :: ')' :: ' ' :: '\x7b' :: '\n' :: rest))
      ⟨.statement, [], ⟨name, body⟩ :: frames⟩ rest := by
  have hparen : '(' ∉ ' ' :: name.toList := by simpa using hname.2
  have hopening : Takes ⟨.functionName ("" ++ String.ofList (' ' :: name.toList)), body, frames⟩
      ('(' :: ')' :: ' ' :: '\x7b' :: '\n' :: rest) ⟨.functionHead name, body, frames⟩
      (')' :: ' ' :: '\x7b' :: '\n' :: rest) := by
    refine .token rfl (begins_of_spells (show Spells .paren ['('] from Or.inl rfl) trivial) ?_
      (fun _ => rfl)
    intro position
    have htrim : trim (" " ++ name) = name := by rw [trim_blank_append, hname.1]
    simp [BlockState.feed, htrim]
  have hclosing : Takes ⟨.functionHead name, body, frames⟩ (')' :: ' ' :: '\x7b' :: '\n' :: rest)
      ⟨.functionHead name, body, frames⟩ (' ' :: '\x7b' :: '\n' :: rest) :=
    .token rfl (begins_of_spells (show Spells .paren [')'] from Or.inr rfl) trivial)
      (fun _ => rfl) (fun _ => rfl)
  have hbrace : Takes ⟨.functionHead name, body, frames⟩ ('\x7b' :: '\n' :: rest)
      ⟨.statement, [], ⟨name, body⟩ :: frames⟩ ('\n' :: rest) :=
    .token rfl (begins_of_spells (show Spells .brace ['\x7b'] from Or.inl rfl) trivial)
      (fun _ => rfl) (fun _ => rfl)
  exact (takes_keyword body frames _ .functionKeyword rfl (fun _ => rfl)).trans
    ((takes_functionName body frames _ hparen "").trans
    (hopening.trans (hclosing.trans
    ((takes_space body frames _ (by simp) (by simp) (notLed_cons.2 (by decide))).trans
    (hbrace.trans (takes_lineFeed _ _ rest))))))

/-- The closing brace of a function and the line break behind it. -/
lemma takes_functionEnd (name : String) (outer : List Stmt) :
    Takes ⟨.statement, body, ⟨name, outer⟩ :: frames⟩ ('\x7d' :: '\n' :: rest)
      ⟨.statement, outer ++ [.function name body], frames⟩ rest := by
  have hbrace : Takes ⟨.statement, body, ⟨name, outer⟩ :: frames⟩ ('\x7d' :: '\n' :: rest)
      ⟨.statement, outer ++ [.function name body], frames⟩ ('\n' :: rest) :=
    .token rfl (begins_of_spells (show Spells .brace ['\x7d'] from Or.inr rfl) trivial)
      (fun _ => rfl) (fun _ => rfl)
  exact hbrace.trans (takes_lineFeed _ frames rest)

end Pieces

/-! ## Whole programs -/

mutual

/-- A writable statement is read back and put behind those before it. -/
theorem takes_print (s : Stmt) (hs : s.Writable) (body : List Stmt) (frames : List Frame)
    (rest : List Char) :
    Takes ⟨.statement, body, frames⟩ (s.print.toList ++ rest) ⟨.statement, body ++ [s], frames⟩
      rest := by
  cases s with
  | function name inner =>
    have hprint : (Stmt.function name inner).print.toList ++ rest =
        "function".toList ++ ' ' :: (name.toList ++ '(' :: ')' :: ' ' :: '\x7b' :: '\n' ::
          ((Stmt.printAll inner).toList ++ '\x7d' :: '\n' :: rest)) := by
      simp [Stmt.print]
    have hinner := takes_printAll inner hs.2 [] (⟨name, body⟩ :: frames) ('\x7d' :: '\n' :: rest)
    rw [hprint]
    exact (takes_functionHead body frames _ hs.1).trans
      (hinner.trans (takes_functionEnd _ frames rest name body))
  | binding name value => exact takes_binding body frames rest hs.1 hs.2
  | ret value => exact takes_ret body frames rest hs
  | expression value => exact takes_expression body frames rest hs.1 hs.2

/-- Writable statements are read back in their order. -/
theorem takes_printAll (ss : List Stmt) (hss : Stmt.WritableAll ss) (body : List Stmt)
    (frames : List Frame) (rest : List Char) :
    Takes ⟨.statement, body, frames⟩ ((Stmt.printAll ss).toList ++ rest)
      ⟨.statement, body ++ ss, frames⟩ rest := by
  cases ss with
  | nil =>
    refine ⟨[], ?_, ?_⟩
    · simp [Stmt.printAll]
    · intro position
      simpa using Reader.Advances.refl _
  | cons s ss =>
    have hfirst := takes_print s hss.1 body frames ((Stmt.printAll ss).toList ++ rest)
    have hrest := takes_printAll ss hss.2 (body ++ [s]) frames rest
    have hprint : (Stmt.printAll (s :: ss)).toList ++ rest =
        s.print.toList ++ ((Stmt.printAll ss).toList ++ rest) := by
      simp [Stmt.printAll]
    rw [hprint, List.append_cons]
    exact hfirst.trans hrest

end

/-- A writable program is read back from its printed form; every token is consumed and there is
nothing to remark. -/
theorem readBlock_print (program : Program) (hprogram : program.Writable)
    (lexing parsing : Channel) :
    let tokens := (Lexer.ofSource program.print .recover lexing).readAll.1
    (Parser.ofTokens tokens parsing).readBlock =
      (program, { tokens, position := tokens.length, channel := parsing }) := by
  intro tokens
  have htokens : tokens = Token.place 0 (Lexer.lexemes program.print.toList) := by
    simp only [tokens]
    rw [Lexer.readAll_eq _ rfl (Or.inl rfl)]
    rfl
  obtain ⟨ls, hls, hadvances⟩ := takes_printAll program hprogram [] [] []
  rw [List.append_nil, Lexer.lexemes_nil, List.append_nil] at hls
  have hadvances := hadvances 0
  rw [← hls, List.nil_append] at hadvances
  have hread := hadvances.read_eq (Token.endOf tokens)
  rw [← Program.print, ← htokens] at hread
  simp only [Parser.readBlock, Parser.read, Parser.rest, Parser.ofTokens, List.drop_zero]
  rw [BlockState.start, hread]
  simp [blockReader, BlockState.close, BlockState.settledBody, BlockState.missing,
    BlockState.missingHere]

/-- A function whose name holds a line break, a keyword, a brace and an unknown character, an empty
formula, a call of a number and a formula with both operators are read back. -/
theorem readBlock_print_oddName :
    let program : Program :=
      [.function "let \x7d\né" [.binding "x" (.formula []), .ret (.call "5")],
        .expression (.formula [.operand (.identifier "a"), .operand (.number "1.5"),
          .operator .plus, .operand (.identifier "functional"), .operator .equals]),
        .expression (.call "a")]
    let tokens := (Lexer.ofSource program.print .recover .fresh).readAll.1
    program.Writable ∧ (Parser.ofTokens tokens .fresh).readBlock =
      (program, { tokens, position := tokens.length, channel := .fresh }) := by
  intro program tokens
  have hcall : IsIdentifier "a" := by decide
  have hfunction : (Stmt.function "let \x7d\né"
      [.binding "x" (.formula []), .ret (.call "5")]).Writable :=
    ⟨⟨by decide, by decide⟩, ⟨by decide, trivial⟩, Or.inr (by decide), trivial⟩
  have hformula : (Stmt.expression (.formula [.operand (.identifier "a"),
      .operand (.number "1.5"), .operator .plus, .operand (.identifier "functional"),
      .operator .equals])).Writable :=
    ⟨⟨hcall, by decide, by decide, trivial⟩, trivial⟩
  have hwritable : program.Writable :=
    ⟨hfunction, hformula, ⟨Or.inl hcall, hcall⟩, trivial⟩
  exact ⟨hwritable, readBlock_print program hwritable .fresh .fresh⟩

end Summand
