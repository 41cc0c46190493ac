import Mathlib.Data.List.Forall2
import Summand.Proofs.Program.Shape

/-!
# The origins of a program

A reader invents nothing.  Whatever the tokens are, the names, operands, callees and operators of a
program are the texts of tokens that have been consumed, each of a token of its own and all in the order
of the tokens.  The name of a function is the text between a keyword of its own and the parenthesis
behind it.  `DrawnFrom` says so of a program and a list of tokens, and the main statement is
`readBlock_drawnFrom`.

The mentions of a program are already known to be what the tokens are recorded as.  For the operators
and the names of functions there is an invariant each, which every step of the reader keeps up.  An
operator that has been read is among the finished statements, or joins operands of the formula that is
being read, or waits for an operand there (`BlockState.operators`).  Names of functions are found at
ascending places (`BlockState.Heads`).
-/

namespace Summand

open Text

/-! ## The parts of a program -/

/-- The operator that an entry is, if it is one. -/
def Entry.operator? : Entry → Option Operator
  | .operand _ => none
  | .operator p => some p

/-- The operators of an expression, in their order. -/
def Expr.operators : Expr → List Operator
  | .formula entries => entries.filterMap Entry.operator?
  | .call _ => []

namespace Stmt

variable {α : Type} (ofName : String → List α) (ofExpr : Expr → List α)

/-- What there is in a statement itself: the name of the function that it declares, or an expression. -/
def part : Stmt → List α
  | .function name _ => ofName name
  | .binding _ e => ofExpr e
  | .ret e => ofExpr e
  | .expression e => ofExpr e

/-- What there is in statements at any depth, the name of a function in front of what is in its body. -/
def parts (body : List Stmt) : List α :=
  (withinAll body).flatMap (part ofName ofExpr)

/-- The operators of statements at any depth, in their order. -/
def operatorsAll : List Stmt → List Operator :=
  parts (fun _ => []) Expr.operators

/-- The names of the functions that are declared at any depth, in their order. -/
def functionNames : List Stmt → List String :=
  parts (fun name => [name]) fun _ => []

@[simp] lemma parts_nil : parts ofName ofExpr [] = [] := by
  simp [parts, withinAll]

@[simp] lemma parts_append (first second : List Stmt) :
    parts ofName ofExpr (first ++ second) =
      parts ofName ofExpr first ++ parts ofName ofExpr second := by
  simp [parts]

@[simp] lemma parts_function (name : String) (body : List Stmt) :
    parts ofName ofExpr [.function name body] = ofName name ++ parts ofName ofExpr body := by
  simp [parts, within, part]

@[simp] lemma parts_statement (purpose : Purpose) (e : Expr) :
    parts ofName ofExpr [purpose.statement e] = ofExpr e := by
  cases purpose <;> simp [parts, Purpose.statement, within, part]

end Stmt

/-! ## Statement -/

/-- The keyword of a function stands at the place, and the tokens behind it, none of which is an opening
parenthesis, make up the text. -/
def RunsTo (tokens : List Token) (place : Nat) (text : String) : Prop :=
  ∃ before keyword run, tokens = before ++ keyword :: run ∧ before.length = place ∧
    keyword.kind = .functionKeyword ∧ (∀ t ∈ run, t.text ≠ "(") ∧
    text = String.join (run.map Token.text)

/-- The keyword of a function stands at the place, and the name is the trimmed text of the tokens
between it and the first opening parenthesis behind it. -/
def IsHead (tokens : List Token) (place : Nat) (name : String) : Prop :=
  ∃ front opening after text, tokens = front ++ opening :: after ∧ opening.text = "(" ∧
    RunsTo front place text ∧ name = trim text

/-- Everything in the program comes from a token of its own, in the order of the tokens. -/
structure DrawnFrom (tokens : List Token) (program : Program) : Prop where
  /-- What is mentioned comes from numbers and words. -/
  mentions : ∃ origins : List Token, origins.Sublist (tokens.filter Token.isOperand) ∧
    List.Forall₂ Mention.From (Stmt.mentionsAll program) origins
  /-- The operators come from signs. -/
  operators : ((Stmt.operatorsAll program).map Operator.symbol).Sublist
    ((tokens.filter fun t => t.kind = .punctuator).map Token.text)
  /-- Every function has a head of its own. -/
  functions : ∃ places : List Nat, places.Pairwise (· < ·) ∧
    List.Forall₂ (IsHead tokens) places (Stmt.functionNames program)
  /-- So there are no fewer keywords than functions. -/
  keywords : (Stmt.functionNames program).length ≤
    tokens.countP fun t => t.kind = .functionKeyword

/-! ## The parts of what has been read -/

namespace BlockState

/-- What is read is what the statements come to at some state, whether the tokens run out there or an
unmatched brace ends the block. -/
lemma exists_close_eq (offset : Nat) (tokens : List Token) :
    ∃ before remarks last, blockReader.Advances .start before remarks last ∧
      before <+: tokens.take (blockReader.read offset .start tokens).consumed ∧
      (blockReader.read offset .start tokens).result = last.close := by
  rcases blockReader.advances_or_done .start tokens with
    ⟨remarks, last, hadvances⟩ | ⟨before, t, after, remarks, last, result, rfl, hadvances, hdone⟩
  · rw [hadvances.read_eq offset]
    exact ⟨tokens, remarks, last, hadvances, by simp, rfl⟩
  · obtain ⟨rfl, hmode, hframes, -⟩ := feed_done_cases hdone
    have hclose : last.close = last.body := by simp [close, settledBody, hmode, hframes]
    refine ⟨before, remarks, last, hadvances, ?_, ?_⟩
    · rw [hadvances.read_append offset, List.take_length_add_append]
      exact List.prefix_append _ _
    · rw [hadvances.read_append offset, Reader.read, hdone, hclose]

section Parts

variable {α : Type} (ofName : String → List α) (ofExpr : Expr → List α)

/-- What there is in the finished statements, with the names of the functions that are open. -/
def parts (s : BlockState) : List α :=
  s.frames.reverse.flatMap
      (fun frame => Stmt.parts ofName ofExpr frame.outer ++ ofName frame.name) ++
    Stmt.parts ofName ofExpr s.body

/-- Finishing a statement adds its expression. -/
lemma parts_finish (s : BlockState) (mode : Mode) (purpose : Purpose) (e : Expr) :
    parts ofName ofExpr { s with mode, body := s.body ++ [purpose.statement e] } =
      s.parts ofName ofExpr ++ ofExpr e := by
  simp [parts]

/-- Opening the body of a function adds its name. -/
lemma parts_open (s : BlockState) (mode : Mode) (name : String) :
    parts ofName ofExpr ⟨mode, [], ⟨name, s.body⟩ :: s.frames⟩ =
      s.parts ofName ofExpr ++ ofName name := by
  simp [parts]

/-- Closing the body of a function adds nothing. -/
lemma parts_finish_frame {s : BlockState} {frame : Frame} {frames : List Frame}
    (h : s.frames = frame :: frames) (mode : Mode) :
    parts ofName ofExpr ⟨mode, frame.finish s.body, frames⟩ = s.parts ofName ofExpr := by
  simp [parts, Frame.finish, h]

/-- Closing all functions adds nothing. -/
lemma parts_foldl_finish (mode : Mode) (body : List Stmt) (frames : List Frame) :
    Stmt.parts ofName ofExpr (frames.foldl (fun body frame => frame.finish body) body) =
      parts ofName ofExpr ⟨mode, body, frames⟩ := by
  induction frames generalizing body with
  | nil => simp [parts]
  | cons frame frames ih =>
    rw [List.foldl_cons, ih]
    exact parts_finish_frame ofName ofExpr (s := ⟨mode, body, frame :: frames⟩) rfl mode

/-- When the tokens run out, the expression that is being read is added, and nothing else. -/
lemma parts_close (s : BlockState) :
    Stmt.parts ofName ofExpr s.close = s.parts ofName ofExpr ++
      match s.mode with
      | .expression _ state => ofExpr state.close
      | _ => [] := by
  obtain ⟨mode, body, frames⟩ := s
  rw [close, parts_foldl_finish ofName ofExpr mode]
  cases mode with
  | expression purpose state =>
    exact parts_finish ofName ofExpr ⟨.expression purpose state, body, frames⟩ _ purpose state.close
  | statement | functionName text | functionHead name | bindingName | bindingEquals name =>
    exact (List.append_nil _).symm

end Parts

end BlockState

/-! ## Mentions -/

/-- Mentions come from numbers and words. -/
lemma Mention.From.isOperand {m : Mention} {t : Token} (h : m.From t) : t.isOperand := by
  match m, h with
  | .binding name, h => simp [Token.isOperand, h.1]
  | .operand (.number text), h => simp [Token.isOperand, h.1]
  | .operand (.identifier name), h => simp [Token.isOperand, h.1]
  | .callee text, h => simpa [Token.isOperand] using h.1

namespace BlockState

/-- What is recorded of the tokens comes from some of them, in their order. -/
lemma exists_origins (visits : List Visit) :
    ∃ origins : List Token, origins.Sublist ((visits.map Prod.snd).filter Token.isOperand) ∧
      List.Forall₂ Mention.From (recorded (account visits)) origins := by
  induction visits with
  | nil => exact ⟨[], List.Sublist.refl _, .nil⟩
  | cons visit later ih =>
    obtain ⟨s, t⟩ := visit
    obtain ⟨origins, hsublist, hfrom⟩ := ih
    rw [recorded_account_cons, List.map_cons]
    cases hm : s.mention? t later with
    | none => exact ⟨origins, hsublist.trans ((List.sublist_cons_self _ _).filter _), hfrom⟩
    | some m =>
      have ht := from_of_mention? hm
      refine ⟨t :: origins, ?_, .cons ht hfrom⟩
      rw [List.filter_cons_of_pos ht.isOperand]
      exact hsublist.cons_cons t

end BlockState

/-! ## Operators -/

/-- The operator that a token denotes, if it is a sign. -/
def Token.operator? (t : Token) : Option Operator :=
  if t.kind = .punctuator then Operator.ofSymbol? t.text else none

/-- The operators that join the operands. -/
def Draft.operators (draft : Draft) : List Operator :=
  ((draft.chain?.map Chain.joined).getD []).map Prod.fst

/-- The operators that join the operands, and the one that waits for an operand. -/
def ExprState.operators : ExprState → List Operator
  | .formula draft => draft.operators ++ draft.operator?.toList
  | .arguments _ => []

/-- The operators of the statement that is not finished. -/
def Mode.operators : Mode → List Operator
  | .expression _ state => state.operators
  | _ => []

/-- Only an operator has the text that denotes it. -/
lemma Operator.symbol_of_ofSymbol? {text : String} {p : Operator} (h : ofSymbol? text = some p) :
    p.symbol = text := by
  unfold ofSymbol? at h
  split_ifs at h with hplus hequals
  · obtain rfl := Option.some.inj h
    exact hplus.symm
  · obtain rfl := Option.some.inj h
    exact hequals.symm

/-- The operators that tokens denote have the texts of signs. -/
lemma map_symbol_filterMap_sublist (tokens : List Token) :
    ((tokens.filterMap Token.operator?).map Operator.symbol).Sublist
      ((tokens.filter fun t => t.kind = .punctuator).map Token.text) := by
  induction tokens with
  | nil => exact List.Sublist.refl _
  | cons t tokens ih =>
    have hrest := (List.sublist_cons_self t tokens).filter fun t => t.kind = .punctuator
    cases hp : t.operator? with
    | none =>
      rw [List.filterMap_cons_none hp]
      exact ih.trans (hrest.map Token.text)
    | some p =>
      obtain ⟨hkind, hsymbol⟩ := Option.ite_none_right_eq_some.1 hp
      rw [List.filterMap_cons_some hp, List.filter_cons_of_pos (by simpa using hkind), List.map_cons,
        List.map_cons, Operator.symbol_of_ofSymbol? hsymbol]
      exact ih.cons_cons t.text

/-- The formula of a chain has the operators of the chain. -/
lemma Chain.filterMap_operator? (chain : Chain) :
    chain.entries.filterMap Entry.operator? = chain.joined.map Prod.fst := by
  have hfirst : Entry.operator? (.operand chain.first) = none := rfl
  unfold entries
  rw [List.filterMap_cons_none hfirst]
  induction chain.joined with
  | nil => rfl
  | cons pair joined ih =>
    rw [List.flatMap_cons, List.filterMap_append, ih]
    rfl

namespace Draft

/-- The expression as it stands has the operators that join the operands. -/
lemma operators_expr (draft : Draft) : draft.expr.operators = draft.operators := by
  unfold expr operators
  cases draft.chain? with
  | none => rfl
  | some chain => exact chain.filterMap_operator?

/-- An operand changes nothing about the operators but whether the last of them waits. -/
lemma operators_push (draft : Draft) (x : Operand) :
    (ExprState.formula (draft.push x)).operators = (ExprState.formula draft).operators := by
  obtain ⟨chain?, operator?⟩ := draft
  cases chain? with
  | none => rfl
  | some chain =>
    cases operator? with
    | none => rfl
    | some p => simp [ExprState.operators, operators, push]

end Draft

/-- A sign denotes what its role says. -/
lemma operator?_of_role {t : Token} {p? : Option Operator} (h : t.role = .sign p?) :
    t.operator? = p? := by
  unfold Token.role at h
  split at h
  · simp at h
  · split at h
    case h_1 hkind =>
      obtain rfl := Token.Role.sign.inj h
      exact if_pos hkind
    case h_4 => split at h <;> simp at h
    all_goals simp at h

namespace ExprState

/-- The expression as it stands has some of the operators. -/
lemma operators_close_sublist (state : ExprState) :
    state.close.operators.Sublist state.operators := by
  cases state with
  | formula draft =>
    rw [close, Draft.operators_expr]
    exact List.sublist_append_left _ _
  | arguments callee => exact List.Sublist.refl _

/-- A token of an expression adds at most the operator that it denotes. -/
lemma operators_sublist_of_more {state next : ExprState} {t : Token}
    (h : state.feed t = .more next) :
    next.operators.Sublist (state.operators ++ t.operator?.toList) := by
  have hsame : state.operators.Sublist (state.operators ++ t.operator?.toList) :=
    List.sublist_append_left _ _
  cases state with
  | arguments callee =>
    simp only [feed] at h
    split at h
    · cases h
    · cases h
      exact hsame
  | formula draft =>
    cases hrole : t.role with
    | operand x =>
      simp only [feed, hrole, Progress.more.injEq] at h
      rwa [← h, Draft.operators_push]
    | sign p? =>
      -- The operator that has been waiting is forgotten.
      simp only [feed, hrole, Progress.more.injEq] at h
      rw [← h, operator?_of_role hrole]
      exact (List.sublist_append_left _ _).append_right _
    | terminator => simp [feed, hrole] at h
    | stray =>
      simp only [feed, hrole, Progress.more.injEq] at h
      rwa [← h]
    | opening =>
      -- A call forgets all operators.
      simp only [feed, hrole] at h
      split at h
      · cases h
        exact List.nil_sublist _
      · cases h
        exact hsame

end ExprState

namespace BlockState

/-- The operators that have been read and are not lost. -/
def operators (s : BlockState) : List Operator :=
  s.parts (fun _ => []) Expr.operators ++ s.mode.operators

/-- A token of an expression adds at most the operator that it denotes. -/
lemma operators_ofExpr_sublist {s : BlockState} {purpose : Purpose} {state : ExprState}
    (hmode : s.mode = .expression purpose state) (t : Token) :
    (s.ofExpr purpose (state.feed t)).operators.Sublist (s.operators ++ t.operator?.toList) := by
  have hstate : s.mode.operators = state.operators := by rw [hmode]; rfl
  unfold operators
  rw [hstate, List.append_assoc]
  cases hfeed : state.feed t with
  | more next => exact (ExprState.operators_sublist_of_more hfeed).append_left _
  | done e =>
    obtain rfl := eq_close_of_done hfeed
    have hnone : Mode.statement.operators = [] := rfl
    rw [ofExpr, parts_finish, hnone, List.append_nil]
    exact (state.operators_close_sublist.trans (List.sublist_append_left _ _)).append_left _

/-- A token adds at most the operator that it denotes. -/
lemma operators_sublist_of_more {s next : BlockState} {t : Token} (h : s.feed t = .more next) :
    next.operators.Sublist (s.operators ++ t.operator?.toList) := by
  -- Outside of an expression operators can only get lost.
  have hlose {next : BlockState} (hmode : next.mode.operators = [])
      (hparts : next.parts (fun _ => []) Expr.operators = s.parts (fun _ => []) Expr.operators) :
      next.operators.Sublist (s.operators ++ t.operator?.toList) := by
    rw [operators, operators, hmode, hparts, List.append_nil, List.append_assoc]
    exact List.sublist_append_left _ _
  cases step_of_more h with
  | expression hmode => exact operators_ofExpr_sublist hmode t
  | @opening name => exact hlose rfl ((parts_open _ _ s _ name).trans (List.append_nil _))
  | closing _ _ _ hinside => exact hlose rfl (parts_finish_frame _ _ hinside _)
  | word | ret | binding | bound | equals | function | name | parenthesis => exact hlose rfl rfl
  | passing => exact List.sublist_append_left _ _

/-- Tokens add at most the operators that they denote, in their order. -/
lemma operators_sublist_of_advances {s last : BlockState} {tokens : List Token}
    {remarks : List Diagnostic} (h : blockReader.Advances s tokens remarks last) :
    last.operators.Sublist (s.operators ++ tokens.filterMap Token.operator?) := by
  induction h with
  | refl s => exact List.sublist_append_left _ _
  | @token s next last t tokens remarks feed rest ih =>
    have hstep := (operators_sublist_of_more feed).append_right
      (tokens.filterMap Token.operator?)
    rw [List.append_assoc] at hstep
    refine ih.trans ?_
    cases hp : t.operator? with
    | none =>
      rw [List.filterMap_cons_none hp]
      rwa [hp] at hstep
    | some p =>
      rw [List.filterMap_cons_some hp]
      rwa [hp] at hstep

/-- The statements as they stand have some of the operators that have been read. -/
lemma operatorsAll_close_sublist (s : BlockState) :
    (Stmt.operatorsAll s.close).Sublist s.operators := by
  rw [Stmt.operatorsAll, parts_close]
  apply List.Sublist.append_left
  cases s.mode with
  | expression purpose state => exact state.operators_close_sublist
  | statement | functionName text | functionHead name | bindingName | bindingEquals name =>
    exact List.Sublist.refl _

end BlockState

/-! ## Names of functions -/

/-- The name of the function whose body is still to come. -/
def Mode.names : Mode → List String
  | .functionHead name => [name]
  | _ => []

/-- A keyword is followed by nothing at first. -/
lemma runsTo_keyword (before : List Token) {keyword : Token} (h : keyword.kind = .functionKeyword) :
    RunsTo (before ++ [keyword]) before.length "" :=
  ⟨before, keyword, [], rfl, rfl, h, List.forall_mem_nil _, rfl⟩

/-- A token that is no opening parenthesis adds its text. -/
lemma RunsTo.append_singleton {tokens : List Token} {place : Nat} {text : String}
    (h : RunsTo tokens place text) {t : Token} (ht : t.text ≠ "(") :
    RunsTo (tokens ++ [t]) place (text ++ t.text) := by
  obtain ⟨before, keyword, run, rfl, hplace, hkind, hrun, rfl⟩ := h
  refine ⟨before, keyword, run ++ [t], by simp, hplace, hkind, ?_, by simp⟩
  exact List.forall_mem_append.2 ⟨hrun, List.forall_mem_singleton.2 ht⟩

/-- An opening parenthesis ends the name. -/
lemma RunsTo.isHead {tokens : List Token} {place : Nat} {text : String}
    (h : RunsTo tokens place text) {t : Token} (ht : t.text = "(") :
    IsHead (tokens ++ [t]) place (trim text) :=
  ⟨tokens, t, [], text, rfl, ht, h, rfl⟩

/-- A name does not depend on the tokens behind it. -/
lemma IsHead.append {tokens : List Token} {place : Nat} {name : String}
    (h : IsHead tokens place name) (more : List Token) : IsHead (tokens ++ more) place name := by
  obtain ⟨front, opening, after, text, rfl, hhead⟩ := h
  exact ⟨front, opening, after ++ more, text, by simp, hhead⟩

/-- A keyword stands at each of the places. -/
lemma exists_keyword {tokens : List Token} {places : List Nat} {names : List String}
    (h : List.Forall₂ (IsHead tokens) places names) :
    ∀ place ∈ places, ∃ keyword, tokens[place]? = some keyword ∧
      keyword.kind = .functionKeyword := by
  intro place hplace
  obtain ⟨i, hi, rfl⟩ := List.getElem_of_mem hplace
  obtain ⟨front, opening, after, text, rfl, -, hruns, -⟩ := h.get hi (h.length_eq ▸ hi)
  obtain ⟨before, keyword, run, rfl, hlength, hkind, -⟩ := hruns
  rw [List.get_eq_getElem] at hlength
  exact ⟨keyword, by simp [← hlength], hkind⟩

/-- Ascending places are no more than there are elements of the kind that is found there. -/
lemma length_le_countP {α : Type} {p : α → Bool} {l : List α} {places : List Nat}
    (hplaces : places.Pairwise (· < ·)) (h : ∀ place ∈ places, ∃ a, l[place]? = some a ∧ p a) :
    places.length ≤ l.countP p := by
  have hlt : ∀ place ∈ places, place < l.length := by
    intro place hplace
    obtain ⟨a, ha, -⟩ := h place hplace
    exact (List.getElem?_eq_some_iff.1 ha).1
  have hsublist : ((places.pmap Fin.mk hlt).map (l[·])).Sublist l := by
    apply List.map_getElem_sublist
    rw [List.pairwise_pmap]
    exact hplaces.imp fun hab _ _ => hab
  have hall : ((places.pmap Fin.mk hlt).map (l[·])).countP p = places.length := by
    rw [List.countP_eq_length.2, List.length_map, List.length_pmap]
    intro a ha
    obtain ⟨i, hi, rfl⟩ := List.mem_map.1 ha
    obtain ⟨place, hplace, rfl⟩ := List.mem_pmap.1 hi
    obtain ⟨b, hb, hp⟩ := h place hplace
    rw [← (List.getElem?_eq_some_iff.1 hb).2] at hp
    exact hp
  rw [← hall]
  exact hsublist.countP_le

namespace BlockState

/-- The names of functions that have been read. -/
def names (s : BlockState) : List String :=
  s.parts (fun name => [name]) (fun _ => []) ++ s.mode.names

/-- A token of an expression adds no name. -/
lemma names_ofExpr {s : BlockState} {purpose : Purpose} {state : ExprState}
    (hmode : s.mode = .expression purpose state) (progress : Progress ExprState Expr) :
    (s.ofExpr purpose progress).names = s.names := by
  unfold names
  rw [hmode]
  cases progress with
  | more next => rfl
  | done e =>
    rw [ofExpr, parts_finish, List.append_nil]
    rfl

/-- The names that have been read are found at the places, and a name that is being read is found behind
all of them. -/
structure Heads (read : List Token) (s : BlockState) (places : List Nat) : Prop where
  ascending : places.Pairwise (· < ·)
  names : List.Forall₂ (IsHead read) places s.names
  running : ∀ text, s.mode = .functionName text →
    ∃ place, RunsTo read place text ∧ ∀ earlier ∈ places, earlier < place

/-- The places are those of tokens that have been read. -/
lemma Heads.lt {read : List Token} {s : BlockState} {places : List Nat} (h : Heads read s places) :
    ∀ place ∈ places, place < read.length := by
  intro place hplace
  obtain ⟨keyword, hkeyword, -⟩ := exists_keyword h.names place hplace
  exact (List.getElem?_eq_some_iff.1 hkeyword).1

/-- Behind one more token the names are found at places again. -/
lemma exists_heads_of_more {s next : BlockState} {t : Token} (hfeed : s.feed t = .more next)
    {read : List Token} {places : List Nat} (h : Heads read s places) :
    ∃ places', Heads (read ++ [t]) next places' := by
  have hnames : List.Forall₂ (IsHead (read ++ [t])) places s.names :=
    h.names.imp fun _ _ hname => hname.append [t]
  -- Outside of the names of functions nothing changes.
  have hkeep {next : BlockState} (hnext : next.names = s.names)
      (hmode : ∀ text, next.mode ≠ .functionName text) :
      ∃ places', Heads (read ++ [t]) next places' :=
    ⟨places, h.ascending, by rwa [hnext], fun text htext => absurd htext (hmode text)⟩
  -- Where no body is to come, a new mode adds the name that it brings.
  have hmoves {mode : Mode} (hnone : s.mode.names = []) :
      names { s with mode } = s.names ++ mode.names := by
    rw [BlockState.names, BlockState.names, hnone, List.append_nil]
    rfl
  cases step_of_more hfeed with
  | expression hmode => exact hkeep (names_ofExpr hmode _) (mode_ofExpr_ne s _ _)
  | word hmode | ret hmode | binding hmode | bound hmode | equals hmode =>
    refine hkeep ?_ (by simp)
    rw [hmoves (by rw [hmode]; rfl)]
    exact List.append_nil _
  | function hmode hkind =>
    refine ⟨places, h.ascending, ?_, ?_⟩
    · rw [hmoves (by rw [hmode]; rfl)]
      simpa [Mode.names] using hnames
    · rintro text ⟨⟩
      exact ⟨read.length, runsTo_keyword read hkind, h.lt⟩
  | @name front hmode hinside =>
    obtain ⟨place, hruns, hlt⟩ := h.running front hmode
    refine ⟨places, h.ascending, ?_, ?_⟩
    · rw [hmoves (by rw [hmode]; rfl)]
      simpa [Mode.names] using hnames
    · rintro text ⟨⟩
      exact ⟨place, hruns.append_singleton hinside, hlt⟩
  | @parenthesis front hmode htext =>
    -- The name is complete, and its keyword stands behind those of all names before it.
    obtain ⟨place, hruns, hlt⟩ := h.running front hmode
    refine ⟨places ++ [place], ?_, ?_, by simp⟩
    · refine List.pairwise_append.2 ⟨h.ascending, List.pairwise_singleton _ _, ?_⟩
      simpa using hlt
    · rw [hmoves (by rw [hmode]; rfl)]
      exact List.rel_append hnames (.cons (hruns.isHead htext) .nil)
  | opening hmode htext =>
    refine hkeep ?_ (by simp)
    rw [BlockState.names, BlockState.names, parts_open, hmode]
    simp [Mode.names]
  | closing hmode hkind htext hinside =>
    refine hkeep ?_ (by simp)
    rw [BlockState.names, BlockState.names, parts_finish_frame _ _ hinside, hmode]
  | passing hignored =>
    refine hkeep rfl fun text hmode => ?_
    rw [hmode] at hignored
    exact hignored

/-- So are they behind any number of tokens. -/
lemma exists_heads_of_advances {s last : BlockState} {tokens : List Token}
    {remarks : List Diagnostic} (hadvances : blockReader.Advances s tokens remarks last)
    {read : List Token} {places : List Nat} (h : Heads read s places) :
    ∃ places', Heads (read ++ tokens) last places' := by
  induction hadvances generalizing read places with
  | refl s => exact ⟨places, by rwa [List.append_nil]⟩
  | @token s next last t tokens remarks feed rest ih =>
    obtain ⟨places', h'⟩ := exists_heads_of_more feed h
    rw [← List.singleton_append, ← List.append_assoc]
    exact ih h'

/-- There are no names at the start. -/
lemma heads_start : Heads [] .start [] :=
  ⟨.nil, .nil, fun text htext => by simp [start] at htext⟩

/-- The statements as they stand declare the functions that have been opened. -/
lemma functionNames_close_prefix (s : BlockState) : Stmt.functionNames s.close <+: s.names := by
  refine ⟨s.mode.names, ?_⟩
  rw [Stmt.functionNames, parts_close, names]
  cases s.mode <;> simp

/-- The functions that are read are found at ascending places among the tokens that are consumed. -/
lemma exists_places (offset : Nat) (tokens : List Token) :
    let reading := blockReader.read offset .start tokens
    ∃ places : List Nat, places.Pairwise (· < ·) ∧
      List.Forall₂ (IsHead (tokens.take reading.consumed)) places
        (Stmt.functionNames reading.result) := by
  intro reading
  obtain ⟨before, remarks, last, hadvances, ⟨more, hconsumed⟩, hresult⟩ :=
    exists_close_eq offset tokens
  obtain ⟨places, hascending, hnames, -⟩ := exists_heads_of_advances hadvances heads_start
  obtain ⟨waiting, hwaiting⟩ := functionNames_close_prefix last
  rw [← hresult] at hwaiting
  rw [← hwaiting] at hnames
  -- The last name is that of no function if its body has not been opened.
  refine ⟨places.take (Stmt.functionNames reading.result).length,
    hascending.sublist (List.take_sublist _ _), ?_⟩
  have hheads := List.forall₂_take_append _ _ _ hnames
  rw [← hconsumed]
  exact hheads.imp fun _ _ hhead => hhead.append more

/-- The operators that are read are denoted by consumed tokens, in their order. -/
lemma operatorsAll_sublist (offset : Nat) (tokens : List Token) :
    let reading := blockReader.read offset .start tokens
    (Stmt.operatorsAll reading.result).Sublist
      ((tokens.take reading.consumed).filterMap Token.operator?) := by
  intro reading
  obtain ⟨before, remarks, last, hadvances, hconsumed, hresult⟩ := exists_close_eq offset tokens
  rw [hresult]
  calc
    (Stmt.operatorsAll last.close).Sublist last.operators := operatorsAll_close_sublist last
    List.Sublist _ (before.filterMap Token.operator?) := operators_sublist_of_advances hadvances
    List.Sublist _ ((tokens.take reading.consumed).filterMap Token.operator?) :=
      hconsumed.sublist.filterMap _

end BlockState

/-! ## Programs -/

/-- Whatever the tokens are, everything in the program that is read comes from tokens that have been
consumed. -/
theorem readBlock_drawnFrom (tokens : List Token) (channel : Channel) :
    let program := (Parser.ofTokens tokens channel).readBlock.1
    let parser := (Parser.ofTokens tokens channel).readBlock.2
    DrawnFrom (tokens.take parser.position) program := by
  intro program parser
  have hposition : parser.position =
      (blockReader.read (Token.endOf tokens) .start tokens).consumed := Nat.zero_add _
  rw [hposition]
  obtain ⟨places, hascending, hheads⟩ := BlockState.exists_places (Token.endOf tokens) tokens
  constructor
  case mentions =>
    have hmentions : Stmt.mentionsAll program =
        BlockState.recorded (BlockState.account (blockReader.trace .start tokens)) :=
      BlockState.mentions_read _ _ _
    rw [hmentions, ← blockReader.map_snd_trace]
    exact BlockState.exists_origins _
  case operators =>
    have hoperators := BlockState.operatorsAll_sublist (Token.endOf tokens) tokens
    exact (hoperators.map Operator.symbol).trans (map_symbol_filterMap_sublist _)
  case functions => exact ⟨places, hascending, hheads⟩
  case keywords =>
    have hcount := length_le_countP (p := fun t : Token => t.kind = .functionKeyword) hascending
      (by simpa using exists_keyword hheads)
    rwa [hheads.length_eq] at hcount

end Summand
