import Summand.Proofs.Program.Accounting
import Summand.Proofs.Program.RoundTrip
import Summand.Proofs.Text.Trimming

/-!
# The shape of what is read

Whatever the tokens are, the formulas of a program have the shape of a chain or are empty, and a
statement that starts with an expression starts with a name (`Stmt.Formed`).  This is an invariant of
the reader of blocks: an expression on its own is begun at a word, which stays its first operand
(`BlockState.Formed`).

The names of functions are put together from the texts of tokens.  What is known of these texts is a
parameter of the invariant (`Naming`), so that it serves for all tokens, of which nothing is known, and
for the tokens of a source, of which only a parenthesis holds a parenthesis.  The main statements are
`formedAll_readBlock` and `formedAll_readBlock_of_source`.
-/

namespace Summand

open Token.Kind Text

/-! ## Statements at any depth -/

namespace Stmt

mutual

/-- The statement, and the statements of its body if it declares a function, at any depth. -/
def within : Stmt → List Stmt
  | .function name body => .function name body :: withinAll body
  | .binding name value => [.binding name value]
  | .ret value => [.ret value]
  | .expression value => [.expression value]

/-- The statements, and those of the functions that they declare, at any depth. -/
def withinAll : List Stmt → List Stmt
  | [] => []
  | s :: rest => within s ++ withinAll rest

end

@[simp] lemma withinAll_append (first second : List Stmt) :
    withinAll (first ++ second) = withinAll first ++ withinAll second := by
  induction first with
  | nil => simp [withinAll]
  | cons s first ih => simp [withinAll, ih]

@[simp] lemma withinAll_singleton (s : Stmt) : withinAll [s] = s.within := by
  simp [withinAll]

/-- All statements at any depth have the property. -/
def AllWithin (P : Stmt → Prop) (body : List Stmt) : Prop :=
  ∀ s ∈ withinAll body, P s

lemma allWithin_append {P : Stmt → Prop} {first second : List Stmt} :
    AllWithin P (first ++ second) ↔ AllWithin P first ∧ AllWithin P second := by
  rw [AllWithin, withinAll_append, List.forall_mem_append]
  rfl

end Stmt

/-! ## Shapes -/

/-- The expression is a call, or its formula is empty or that of a chain. -/
def Expr.Shaped : Expr → Prop
  | .formula entries => entries = [] ∨ ∃ chain : Chain, entries = chain.entries
  | .call _ => True

/-- The expression is a call, or its formula is that of a chain which starts with a name. -/
def Expr.StartsAtName : Expr → Prop
  | .formula entries => ∃ name joined, entries = Chain.entries ⟨.identifier name, joined⟩
  | .call _ => True

/-- The statement has the shape of a statement that is read.  If it declares a function, the name of the
function is as it has to be. -/
def Stmt.Formed (named : String → Prop) : Stmt → Prop
  | .function name _ => named name
  | .binding _ e => e.Shaped
  | .ret e => e.Shaped
  | .expression e => e.StartsAtName

/-- All statements at any depth have the shape of statements that are read. -/
abbrev Stmt.FormedAll (named : String → Prop) : List Stmt → Prop :=
  Stmt.AllWithin (Stmt.Formed named)

/-- If the tokens are as they have to be, then so is the text in front of an opening parenthesis, and
hence the name of a function. -/
structure Naming (token : Token → Prop) (text named : String → Prop) : Prop where
  start : text ""
  append : ∀ {front t}, text front → token t → t.text ≠ "(" → text (front ++ t.text)
  trim : ∀ {front}, text front → named (Text.trim front)

/-! ## The invariant -/

/-- An expression on its own has a name for its first operand; the parts of a function head are as they
have to be. -/
def Mode.Formed (text named : String → Prop) : Mode → Prop
  | .functionName front => text front
  | .functionHead name => named name
  | .expression .expression (.formula draft) =>
    ∃ name joined, draft.chain? = some ⟨.identifier name, joined⟩
  | _ => True

namespace BlockState

/-- All that has been read has the shape of what is read. -/
structure Formed (text named : String → Prop) (s : BlockState) : Prop where
  body : Stmt.FormedAll named s.body
  frames : ∀ frame ∈ s.frames, named frame.name ∧ Stmt.FormedAll named frame.outer
  mode : s.mode.Formed text named

variable {text named : String → Prop} {s : BlockState} {t : Token}

/-- A finished statement is put behind the others. -/
lemma formedAll_append_singleton {body : List Stmt} {added : Stmt} (hbody : Stmt.FormedAll named body)
    (hadded : ∀ u ∈ added.within, u.Formed named) : Stmt.FormedAll named (body ++ [added]) := by
  refine Stmt.allWithin_append.2 ⟨hbody, ?_⟩
  rw [Stmt.AllWithin, Stmt.withinAll_singleton]
  exact hadded

/-- A function is put behind the statements in front of it. -/
lemma formedAll_finish {frame : Frame} {body : List Stmt} (hname : named frame.name)
    (houter : Stmt.FormedAll named frame.outer) (hbody : Stmt.FormedAll named body) :
    Stmt.FormedAll named (frame.finish body) := by
  apply formedAll_append_singleton houter
  rw [Stmt.within, List.forall_mem_cons]
  exact ⟨hname, hbody⟩

/-- Functions are closed from the innermost one outwards. -/
lemma formedAll_foldl_finish {frames : List Frame} {body : List Stmt}
    (hframes : ∀ frame ∈ frames, named frame.name ∧ Stmt.FormedAll named frame.outer)
    (hbody : Stmt.FormedAll named body) :
    Stmt.FormedAll named (frames.foldl (fun body frame => frame.finish body) body) := by
  induction frames generalizing body with
  | nil => exact hbody
  | cons frame frames ih =>
    obtain ⟨⟨hname, houter⟩, hframes⟩ := List.forall_mem_cons.1 hframes
    exact ih hframes (formedAll_finish hname houter hbody)

/-- A draft is a formula of the right shape. -/
lemma shaped_expr (draft : Draft) : draft.expr.Shaped := by
  unfold Draft.expr
  cases draft.chain? with
  | none => exact Or.inl rfl
  | some chain => exact Or.inr ⟨chain, rfl⟩

/-- A draft that starts with a name is a formula that starts with it. -/
lemma startsAtName_expr {draft : Draft} {name : String} {joined : List (Operator × Operand)}
    (h : draft.chain? = some ⟨.identifier name, joined⟩) : draft.expr.StartsAtName :=
  ⟨name, joined, by simp [h]⟩

/-- What an expression comes to at its last token is what it came to without it. -/
lemma eq_close_of_done {state : ExprState} {e : Expr} (h : state.feed t = .done e) :
    e = state.close := by
  cases state with
  | arguments callee =>
    simp only [ExprState.feed] at h
    split at h
    · exact (Progress.done.inj h).symm
    · cases h
  | formula draft =>
    rcases feed_formula_cases draft t with ⟨x, -, hfeed⟩ |
      ⟨-, ⟨draft', -, hfeed⟩ | ⟨chain, -, hfeed⟩ | hfeed⟩
    · rw [hfeed] at h
      cases h
    · rw [hfeed] at h
      cases h
    · rw [hfeed] at h
      cases h
    · rw [hfeed] at h
      exact (Progress.done.inj h).symm

/-- The statement that an expression is read for has the right shape. -/
lemma formed_statement {purpose : Purpose} {state : ExprState}
    (h : (Mode.expression purpose state).Formed text named) :
    ∀ u ∈ (purpose.statement state.close).within, u.Formed named := by
  have hshaped : state.close.Shaped := by
    cases state with
    | formula draft => exact shaped_expr draft
    | arguments callee => trivial
  cases purpose with
  | ret => exact List.forall_mem_singleton.2 hshaped
  | binding name => exact List.forall_mem_singleton.2 hshaped
  | expression =>
    refine List.forall_mem_singleton.2 ?_
    cases state with
    | arguments callee => trivial
    | formula draft =>
      obtain ⟨name, joined, hchain⟩ := h
      exact startsAtName_expr hchain

/-- A token that leaves an expression open leaves its first operand. -/
lemma formed_mode_of_more {purpose : Purpose} {state next : ExprState}
    (h : (Mode.expression purpose state).Formed text named) (hfeed : state.feed t = .more next) :
    (Mode.expression purpose next).Formed text named := by
  cases purpose with
  | ret | binding name => trivial
  | expression =>
    cases state with
    | arguments callee =>
      simp only [ExprState.feed] at hfeed
      split at hfeed
      · cases hfeed
      · cases hfeed
        trivial
    | formula draft =>
      obtain ⟨name, joined, hchain⟩ := h
      rcases feed_formula_cases draft t with ⟨x, -, hx⟩ |
        ⟨-, ⟨draft', hsame, hx⟩ | ⟨chain, -, hx⟩ | hx⟩
      · obtain rfl := Progress.more.inj (hx.symm.trans hfeed)
        obtain ⟨⟨first, joined'⟩, hpush, rfl⟩ := exists_first_push hchain x
        exact ⟨name, joined', hpush⟩
      · obtain rfl := Progress.more.inj (hx.symm.trans hfeed)
        exact ⟨name, joined, hsame.trans hchain⟩
      · obtain rfl := Progress.more.inj (hx.symm.trans hfeed)
        trivial
      · rw [hx] at hfeed
        cases hfeed

/-- A token of an expression keeps the shape. -/
lemma Formed.ofExpr {purpose : Purpose} {state : ExprState} (h : s.Formed text named)
    (hmode : s.mode = .expression purpose state) :
    (s.ofExpr purpose (state.feed t)).Formed text named := by
  have hexpr : (Mode.expression purpose state).Formed text named := hmode ▸ h.mode
  cases hfeed : state.feed t with
  | done e =>
    obtain rfl := eq_close_of_done hfeed
    exact ⟨formedAll_append_singleton h.body (formed_statement hexpr), h.frames, trivial⟩
  | more next => exact ⟨h.body, h.frames, formed_mode_of_more hexpr hfeed⟩

variable {token : Token → Prop}

/-- Every token keeps the shape. -/
lemma Formed.next (hnaming : Naming token text named) (h : s.Formed text named) (ht : token t)
    {next : BlockState} (hfeed : s.feed t = .more next) : next.Formed text named := by
  cases step_of_more hfeed with
  | expression hmode => exact h.ofExpr hmode
  | word => exact ⟨h.body, h.frames, t.text, [], rfl⟩
  | function => exact ⟨h.body, h.frames, hnaming.start⟩
  | @name front hmode htext =>
    have hfront : text front := by simpa [hmode, Mode.Formed] using h.mode
    exact ⟨h.body, h.frames, hnaming.append hfront ht htext⟩
  | @parenthesis front hmode htext =>
    have hfront : text front := by simpa [hmode, Mode.Formed] using h.mode
    exact ⟨h.body, h.frames, hnaming.trim hfront⟩
  | @opening name hmode htext =>
    have hname : named name := by simpa [hmode, Mode.Formed] using h.mode
    exact ⟨List.forall_mem_nil _, List.forall_mem_cons.2 ⟨⟨hname, h.body⟩, h.frames⟩, trivial⟩
  | @closing frame frames hmode hkind htext hinside =>
    have hframes := h.frames
    rw [hinside, List.forall_mem_cons] at hframes
    exact ⟨formedAll_finish hframes.1.1 hframes.1.2 h.body, hframes.2, trivial⟩
  | ret | binding | bound | equals => exact ⟨h.body, h.frames, trivial⟩
  | passing => exact h

/-- What is finished when the tokens run out has the right shape. -/
lemma Formed.formedAll_close (h : s.Formed text named) : Stmt.FormedAll named s.close := by
  apply formedAll_foldl_finish h.frames
  unfold settledBody
  split
  · rename_i purpose state hmode
    exact formedAll_append_singleton h.body (formed_statement (hmode ▸ h.mode))
  · exact h.body

/-- So has everything that is read. -/
lemma Formed.formedAll_read (hnaming : Naming token text named) (offset : Nat) {tokens : List Token}
    (h : s.Formed text named) (htokens : ∀ t ∈ tokens, token t) :
    Stmt.FormedAll named (blockReader.read offset s tokens).result := by
  induction tokens generalizing s with
  | nil => exact h.formedAll_close
  | cons t tokens ih =>
    rw [List.forall_mem_cons] at htokens
    cases hfeed : blockReader.feed s t with
    | more next =>
      rw [Reader.read, hfeed]
      exact ih (h.next hnaming htokens.1 hfeed) htokens.2
    | done result =>
      obtain ⟨rfl, -⟩ := feed_done_cases hfeed
      rw [Reader.read, hfeed]
      exact h.body

/-- Nothing has been read at the start. -/
lemma formed_start : BlockState.start.Formed text named :=
  ⟨List.forall_mem_nil _, List.forall_mem_nil _, trivial⟩

end BlockState

/-! ## The names of functions -/

/-- Only an opening parenthesis holds one. -/
lemma Token.Kind.not_mem_of_spells {kind : Token.Kind} {cs : List Char} (h : Spells kind cs)
    (hne : cs ≠ ['(']) : '(' ∉ cs := by
  intro hmem
  cases kind with
  | number => rcases h.isDigit_or_point _ hmem with hc | hc <;> simp at hc
  | word => exact absurd (h.2.1 _ hmem) (by decide)
  | space => exact absurd (h.2 _ hmem).1 (by decide)
  | other => exact (h.2 _ hmem).2.2 (by decide)
  | functionKeyword | returnKeyword | letKeyword | semicolon =>
    obtain rfl := h
    simp at hmem
  | lineBreak => rcases h with rfl | rfl | rfl <;> simp at hmem
  | brace | punctuator => rcases h with rfl | rfl <;> simp at hmem
  | paren =>
    rcases h with rfl | rfl
    · exact hne rfl
    · simp at hmem

/-- Of tokens of any kind and text, nothing is known. -/
lemma naming_of_any : Naming (fun _ => True) (fun _ => True) fun _ => True :=
  ⟨trivial, fun _ _ _ => trivial, fun _ => trivial⟩

/-- The tokens of a source make names of functions that are trimmed and free of parentheses. -/
lemma naming_of_source :
    Naming (fun t => Spells t.kind t.text.toList) (fun front => '(' ∉ front.toList)
      IsFunctionName where
  start := by simp
  append := by
    intro front t hfront ht htext
    have hne : t.text.toList ≠ ['('] := by
      intro h
      exact htext (String.toList_inj.1 h)
    rw [String.toList_append, List.mem_append]
    exact not_or.2 ⟨hfront, not_mem_of_spells ht hne⟩
  trim := by
    intro front hfront
    refine ⟨trim_trim front, fun hmem => hfront ?_⟩
    rw [toList_trim] at hmem
    exact mem_of_mem_trimChars hmem

/-! ## What is read -/

/-- Whatever the tokens are, all statements that are read have the right shape. -/
lemma formedAll_readBlock (parser : Parser) :
    Stmt.FormedAll (fun _ => True) parser.readBlock.1 :=
  BlockState.formed_start.formedAll_read naming_of_any _ fun _ _ => trivial

/-- If the tokens come from a source, then the names of functions are trimmed and free of
parentheses. -/
lemma formedAll_readBlock_of_source (source : String) (policy : UnknownPolicy)
    (lexing parsing : Channel) :
    Stmt.FormedAll IsFunctionName
      (Parser.ofTokens (Lexer.ofSource source policy lexing).readAll.1 parsing).readBlock.1 :=
  BlockState.formed_start.formedAll_read naming_of_source _ fun _ ht =>
    Lexer.spells_of_mem_readAll ht

end Summand
