import Mathlib.Data.List.DropRight
import Summand.Proofs.Program.Accounting

/-!
# Expressions described by their tokens

What the reader of expressions makes of a list of tokens can be said without its states.  Of every
token it matters which tokens stand in front of it.  An operand is joined by the last sign behind the
operand before it; only the second operand may have its sign anywhere in front of it
(`Expression.operator?`).  An opening parenthesis makes a call of the first operand if no sign stands
where the next operand would look for it (`Expression.Opens`).

`Expression.Described` is such a description of what is read from a list of tokens.  The state of the
reader behind some tokens follows from these tokens (`Expression.draft`), and so the main statement,
`readExpr_eq_iff_described`, says that a parser reads an expression from the tokens of a source in
just the way in which they are described.
-/

namespace Summand

open Token.Kind

/-! ## Descriptions -/

/-- The token is a sign between operands. -/
def Token.isSign (t : Token) : Bool :=
  t.kind = .punctuator

/-- The token ends every expression. -/
def Token.endsExpression (t : Token) : Bool :=
  t.kind = .semicolon || t.kind = .lineBreak

namespace Expression

/-- The tokens, each with those that stand in front of it, if the first ones stand in front of all. -/
def inContext : List Token → List Token → List (List Token × Token)
  | _, [] => []
  | before, t :: tokens => (before, t) :: inContext (before ++ [t]) tokens

/-- Where the sign for the next operand has to stand: behind the last operand, or anywhere as long as
there is no more than one operand. -/
def signRange (before : List Token) : List Token :=
  if before.countP Token.isOperand ≤ 1 then before
  else before.rtakeWhile fun t => !t.isOperand

/-- The operator for the next operand: the last sign in its range. -/
def operator? (before : List Token) : Option Operator :=
  ((signRange before).filter Token.isSign).getLast?.bind fun t => Operator.ofSymbol? t.text

/-- The first operand. -/
def first? (tokens : List Token) : Option Operand :=
  tokens.findSome? Operand.ofToken?

/-- The operands behind the first one that have an operator, each with its operator. -/
def joined (tokens : List Token) : List (Operator × Operand) :=
  (inContext [] tokens).filterMap fun (before, t) =>
    if (first? before).isSome then
      (operator? before).bind fun p => (Operand.ofToken? t).map fun x => (p, x)
    else none

/-- The formula that the tokens make up. -/
def entries (tokens : List Token) : List Entry :=
  match first? tokens with
  | none => []
  | some x => .operand x :: (joined tokens).flatMap fun (p, y) => [.operand y, .operator p]

/-- The remark on a token that has no place where it stands. -/
def unexpected (t : Token) : Diagnostic :=
  ⟨.skippedToken, "Unexpected `" ++ Text.shown t.text ++ "`", t.span⟩

/-- The remark on a token that neither ends the expression nor makes a call of it: an operand behind
the first one lacks an operator, or a token is neither an operand nor a sign nor a space. -/
def remark? (before : List Token) (t : Token) : Option Diagnostic :=
  if t.isOperand then
    if (first? before).isSome && (operator? before).isNone then
      some ⟨.missingOperator, "Expected an operator before `" ++ t.text ++ "`", t.span⟩
    else none
  else if t.isSign || t.kind = .space then none
  else some (unexpected t)

/-- The remarks on such tokens. -/
def remarks (tokens : List Token) : List Diagnostic :=
  (inContext [] tokens).filterMap fun (before, t) => remark? before t

/-- The remarks on tokens between the parentheses of a call: on all but spaces and line breaks. -/
def remarksInside (tokens : List Token) : List Diagnostic :=
  (tokens.filter fun t => t.kind ≠ .space ∧ t.kind ≠ .lineBreak).map unexpected

/-- The tokens can be followed by a call: there is an operand, with no sign behind the last one, and if
there is only one operand, with no sign in front of it either. -/
def Callable (before : List Token) : Prop :=
  ∃ front x gap, before = front ++ x :: gap ∧ x.isOperand ∧ (∀ u ∈ gap, ¬u.isOperand ∧ ¬u.isSign) ∧
    ((∀ u ∈ front, ¬u.isOperand) → ∀ u ∈ front, ¬u.isSign)

/-- The token is a parenthesis that makes a call of the expression in front of it. -/
structure Opens (before : List Token) (t : Token) : Prop where
  kind : t.kind = .paren
  text : t.text = "("
  callable : Callable before

/-- No token ends the expression or makes a call of it. -/
def GoesOn (tokens : List Token) : Prop :=
  ∀ pair ∈ inContext [] tokens, ¬pair.2.endsExpression ∧ ¬Opens pair.1 pair.2

/-- The description of what is read from a list of tokens, if all tokens run out at the offset. -/
inductive Described (offset : Nat) : List Token → Reading Expr → Prop
  /-- A semicolon or a line break ends the formula. -/
  | terminated {before later : List Token} {t : Token} (goesOn : GoesOn before)
    (ends : t.endsExpression) :
    Described offset (before ++ t :: later)
      ⟨.formula (entries before), remarks before, before.length + 1⟩
  /-- The tokens run out. -/
  | exhausted {tokens : List Token} (goesOn : GoesOn tokens) :
    Described offset tokens ⟨.formula (entries tokens), remarks tokens, tokens.length⟩
  /-- The first operand is called, and everything up to a closing parenthesis is passed over. -/
  | called {before inside later : List Token} {t u : Token} {x : Operand} (goesOn : GoesOn before)
    (opens : Opens before t) (first : first? before = some x)
    (inner : ∀ v ∈ inside, v.text ≠ ")") (closes : u.text = ")") :
    Described offset (before ++ t :: (inside ++ u :: later))
      ⟨.call x.text, remarks before ++ remarksInside inside,
        before.length + 1 + inside.length + 1⟩
  /-- The first operand is called, and there is no closing parenthesis. -/
  | unclosed {before inside : List Token} {t : Token} {x : Operand} (goesOn : GoesOn before)
    (opens : Opens before t) (first : first? before = some x)
    (inner : ∀ v ∈ inside, v.text ≠ ")") :
    Described offset (before ++ t :: inside)
      ⟨.call x.text, remarks before ++ remarksInside inside ++
          [⟨.unexpectedEnd, "Expected `)` before end of input", ⟨offset, offset⟩⟩],
        before.length + 1 + inside.length⟩

/-! ## What one more token changes -/

section OneMore

variable (before : List Token) {t : Token}

/-- The last token has all the others in front of it. -/
lemma inContext_append_singleton (front before : List Token) (t : Token) :
    inContext front (before ++ [t]) = inContext front before ++ [(front ++ before, t)] := by
  induction before generalizing front with
  | nil => simp [inContext]
  | cons u before ih => simp [inContext, ih]

lemma first?_append_singleton (t : Token) :
    first? (before ++ [t]) = (first? before).or (Operand.ofToken? t) := by
  simp [first?, List.findSome?_append]

lemma joined_append_singleton (t : Token) :
    joined (before ++ [t]) = joined before ++
      (if (first? before).isSome then
        (operator? before).bind fun p => (Operand.ofToken? t).map fun x => (p, x)
      else none).toList := by
  rw [joined, inContext_append_singleton, List.filterMap_append]
  rfl

/-- Without a first operand nothing is joined. -/
lemma joined_eq_nil {tokens : List Token} (h : first? tokens = none) : joined tokens = [] := by
  induction tokens using List.reverseRecOn with
  | nil => rfl
  | append_singleton tokens t ih =>
    rw [first?_append_singleton, Option.or_eq_none_iff] at h
    rw [joined_append_singleton, ih h.1, h.1]
    rfl

/-- There is a first operand if a token is one. -/
lemma isSome_first?_iff {tokens : List Token} :
    (first? tokens).isSome ↔ ∃ t ∈ tokens, t.isOperand := by
  rw [first?, List.isSome_findSome?, List.any_eq_true]
  simp only [BlockState.isOperand_iff, Option.isSome_iff_exists]

/-- There is a first operand if the operands are not none. -/
lemma isSome_first?_iff_countP {tokens : List Token} :
    (first? tokens).isSome ↔ 0 < tokens.countP Token.isOperand := by
  rw [isSome_first?_iff, List.countP_pos_iff]

/-- An operand is no sign. -/
lemma not_isSign_of_isOperand (h : t.isOperand) : ¬t.isSign := by
  simp only [Token.isOperand, Bool.or_eq_true, decide_eq_true_eq] at h
  rcases h with h | h <;> simp [Token.isSign, h]

/-- A token that is no operand comes into the range for signs. -/
lemma signRange_append (ht : ¬t.isOperand) : signRange (before ++ [t]) = signRange before ++ [t] := by
  unfold signRange
  rw [List.countP_append, List.countP_singleton, if_neg ht, Nat.add_zero,
    List.rtakeWhile_concat_pos _ _ _ (by simpa using ht)]
  split <;> rfl

/-- A sign is the operator for the next operand. -/
lemma operator?_append_sign (ht : t.isSign) :
    operator? (before ++ [t]) = Operator.ofSymbol? t.text := by
  have hoperand : ¬t.isOperand := fun hoperand => not_isSign_of_isOperand hoperand ht
  rw [operator?, signRange_append before hoperand]
  simp [ht]

/-- A token that is neither an operand nor a sign leaves the operator. -/
lemma operator?_append_stray (hoperand : ¬t.isOperand) (hsign : ¬t.isSign) :
    operator? (before ++ [t]) = operator? before := by
  rw [operator?, signRange_append before hoperand, operator?]
  simp [hsign]

/-- Behind its first operand an expression has the operator that it had in front of it, and behind every
other operand none. -/
lemma operator?_append_operand (ht : t.isOperand) :
    operator? (before ++ [t]) = if (first? before).isSome then none else operator? before := by
  have hcount : (before ++ [t]).countP Token.isOperand = before.countP Token.isOperand + 1 := by
    rw [List.countP_append, List.countP_singleton, if_pos ht]
  rw [operator?, signRange, hcount]
  by_cases hfirst : (first? before).isSome
  · have hpos := isSome_first?_iff_countP.1 hfirst
    rw [if_neg (by omega), List.rtakeWhile_concat_neg _ _ _ (by simpa using ht), if_pos hfirst]
    rfl
  · have hnone := mt isSome_first?_iff_countP.2 hfirst
    rw [if_pos (by omega), if_neg hfirst, operator?, signRange, if_pos (by omega)]
    simp [not_isSign_of_isOperand ht]

end OneMore

/-! ## The state of the reader -/

/-- What the reader of expressions has in hand behind tokens over which the expression goes on. -/
def draft (before : List Token) : Draft where
  chain? := (first? before).map fun x => ⟨x, joined before⟩
  operator? := operator? before

section Draft

variable (before : List Token) {t : Token}

/-- The expression as it stands is described by the tokens. -/
lemma expr_draft : (draft before).expr = .formula (entries before) := by
  unfold Draft.expr draft entries
  cases first? before <;> rfl

/-- An operand is pushed. -/
lemma push_draft {x : Operand} (hx : Operand.ofToken? t = some x) :
    (draft before).push x = draft (before ++ [t]) := by
  have ht : t.isOperand := BlockState.isOperand_iff.2 ⟨x, hx⟩
  unfold draft Draft.push
  rw [first?_append_singleton, joined_append_singleton, operator?_append_operand before ht, hx]
  cases hfirst : first? before with
  | none => simp [joined_eq_nil hfirst]
  | some y => cases operator? before <;> simp

/-- A sign is the operator for the next operand. -/
lemma sign_draft (ht : t.isSign) :
    { draft before with operator? := Operator.ofSymbol? t.text } = draft (before ++ [t]) := by
  have hx : Operand.ofToken? t = none := by
    simp only [Token.isSign, decide_eq_true_eq] at ht
    simp [Operand.ofToken?, ht]
  unfold draft
  rw [first?_append_singleton, joined_append_singleton, operator?_append_sign before ht, hx]
  simp

/-- Any other token makes no difference. -/
lemma stray_draft (hoperand : ¬t.isOperand) (hsign : ¬t.isSign) :
    draft (before ++ [t]) = draft before := by
  have hx : Operand.ofToken? t = none := by
    rw [Option.eq_none_iff_forall_ne_some]
    exact fun x hx => hoperand (BlockState.isOperand_iff.2 ⟨x, hx⟩)
  unfold draft
  rw [first?_append_singleton, joined_append_singleton, operator?_append_stray before hoperand hsign,
    hx]
  simp

end Draft

/-! ## Calls -/

section Calls

variable {before : List Token}

/-- If there are operands, one of them is the last. -/
lemma exists_last_operand (h : (first? before).isSome) :
    ∃ front x gap, before = front ++ x :: gap ∧ x.isOperand ∧ ∀ u ∈ gap, ¬u.isOperand := by
  induction before using List.reverseRecOn with
  | nil => simp [first?] at h
  | append_singleton before t ih =>
    by_cases ht : t.isOperand
    · exact ⟨before, t, [], rfl, ht, by simp⟩
    · have hbefore : (first? before).isSome := by
        obtain ⟨u, hu, hoperand⟩ := isSome_first?_iff.1 h
        refine isSome_first?_iff.2 ⟨u, ?_, hoperand⟩
        rcases List.mem_append.1 hu with hu | hu
        · exact hu
        · rw [List.mem_singleton.1 hu] at hoperand
          exact absurd hoperand ht
      obtain ⟨front, x, gap, rfl, hx, hgap⟩ := ih hbefore
      refine ⟨front, x, gap ++ [t], by simp, hx, ?_⟩
      rw [List.forall_mem_append, List.forall_mem_singleton]
      exact ⟨hgap, ht⟩

/-- Behind the last operand the range for signs starts, unless there is no other operand. -/
lemma signRange_last {front gap : List Token} {x : Token} (hx : x.isOperand)
    (hgap : ∀ u ∈ gap, ¬u.isOperand) :
    signRange (front ++ x :: gap) =
      if (first? front).isSome then gap else front ++ x :: gap := by
  have hcount : (front ++ x :: gap).countP Token.isOperand = front.countP Token.isOperand + 1 := by
    rw [List.countP_append, List.countP_cons_of_pos hx, List.countP_eq_zero.2 hgap]
  have htake : (front ++ x :: gap).rtakeWhile (fun t => !t.isOperand) = gap := by
    have hreverse : ∀ u ∈ gap.reverse, (!u.isOperand) = true := by simpa using hgap
    rw [List.rtakeWhile, List.reverse_append, List.reverse_cons, List.append_assoc,
      List.takeWhile_append_of_pos hreverse]
    simp [hx]
  rw [signRange, hcount, htake]
  by_cases hfront : (first? front).isSome
  · have hpos := isSome_first?_iff_countP.1 hfront
    rw [if_neg (by omega), if_pos hfront]
  · have hnone := mt isSome_first?_iff_countP.2 hfront
    rw [if_pos (by omega), if_neg hfront]

/-- Every sign of a source denotes an operator. -/
lemma isSome_ofSymbol? {t : Token} (hspells : Spells t.kind t.text.toList) (h : t.isSign) :
    (Operator.ofSymbol? t.text).isSome := by
  simp only [Token.isSign, decide_eq_true_eq] at h
  rw [h] at hspells
  rcases hspells with htext | htext
  · rw [← String.ofList_toList (s := t.text), htext]
    decide
  · rw [← String.ofList_toList (s := t.text), htext]
    decide

/-- Only without a sign is there no operator. -/
lemma operator?_eq_none_iff (hspells : ∀ u ∈ before, Spells u.kind u.text.toList) :
    operator? before = none ↔ ∀ u ∈ signRange before, ¬u.isSign := by
  have hrange : ∀ u ∈ signRange before, u ∈ before := by
    unfold signRange
    split
    · exact fun u hu => hu
    · exact fun u hu => (List.rtakeWhile_suffix _ _).subset hu
  constructor
  · intro hnone u hu hsign
    have hmem : u ∈ (signRange before).filter Token.isSign := List.mem_filter.2 ⟨hu, hsign⟩
    obtain ⟨t, ht⟩ := Option.isSome_iff_exists.1
      (List.getLast?_isSome.2 (List.ne_nil_of_mem hmem))
    obtain ⟨htrange, htsign⟩ := List.mem_filter.1 (List.mem_of_getLast? ht)
    have hsome := isSome_ofSymbol? (hspells t (hrange t htrange)) htsign
    rw [operator?, ht, Option.bind_some] at hnone
    rw [hnone] at hsome
    simp at hsome
  · intro hnone
    rw [operator?, List.filter_eq_nil_iff.2 hnone]
    rfl

/-- A call can follow if there is an operand and no operator for the next one. -/
lemma callable_iff (hspells : ∀ u ∈ before, Spells u.kind u.text.toList) :
    Callable before ↔ (first? before).isSome ∧ operator? before = none := by
  rw [operator?_eq_none_iff hspells]
  constructor
  · rintro ⟨front, x, gap, rfl, hx, hgap, hfront⟩
    refine ⟨isSome_first?_iff.2 ⟨x, by simp, hx⟩, ?_⟩
    rw [signRange_last hx fun u hu => (hgap u hu).1]
    split
    · exact fun u hu => (hgap u hu).2
    · rename_i hnone
      have hfree : ∀ u ∈ front, ¬u.isOperand := fun u hu hu' =>
        hnone (isSome_first?_iff.2 ⟨u, hu, hu'⟩)
      rw [List.forall_mem_append, List.forall_mem_cons]
      exact ⟨hfront hfree, not_isSign_of_isOperand hx, fun u hu => (hgap u hu).2⟩
  · rintro ⟨hfirst, hsigns⟩
    obtain ⟨front, x, gap, rfl, hx, hgap⟩ := exists_last_operand hfirst
    rw [signRange_last hx hgap] at hsigns
    split at hsigns
    · rename_i hsome
      obtain ⟨u, hu, hoperand⟩ := isSome_first?_iff.1 hsome
      exact ⟨front, x, gap, rfl, hx, fun v hv => ⟨hgap v hv, hsigns v hv⟩,
        fun hnone => absurd hoperand (hnone u hu)⟩
    · rw [List.forall_mem_append, List.forall_mem_cons] at hsigns
      exact ⟨front, x, gap, rfl, hx, fun v hv => ⟨hgap v hv, hsigns.2.2 v hv⟩,
        fun _ => hsigns.1⟩

/-- Where a call can follow, the first operand is called. -/
lemma callee?_draft {x : Operand} (hspells : ∀ u ∈ before, Spells u.kind u.text.toList)
    (hcallable : Callable before) (hx : first? before = some x) :
    (draft before).callee? = some x.text := by
  obtain ⟨-, hnone⟩ := (callable_iff hspells).1 hcallable
  simp [draft, Draft.callee?, hnone, hx]

/-- Where no call can follow, nothing is called. -/
lemma callee?_draft_eq_none (hspells : ∀ u ∈ before, Spells u.kind u.text.toList)
    (hcallable : ¬Callable before) : (draft before).callee? = none := by
  rw [callable_iff hspells, not_and] at hcallable
  unfold draft Draft.callee?
  cases hfirst : first? before with
  | none => cases operator? before <;> rfl
  | some x =>
    cases hoperator : operator? before with
    | none => exact absurd hoperator (hcallable (by simp [hfirst]))
    | some p => rfl

end Calls

/-! ## Reading -/

section Reading

variable {before : List Token} {t : Token}

lemma remarks_append_singleton (before : List Token) (t : Token) :
    remarks (before ++ [t]) = remarks before ++ (remark? before t).toList := by
  rw [remarks, inContext_append_singleton, List.filterMap_append]
  rfl

lemma goesOn_append_singleton :
    GoesOn (before ++ [t]) ↔ GoesOn before ∧ ¬t.endsExpression ∧ ¬Opens before t := by
  rw [GoesOn, inContext_append_singleton, List.forall_mem_append, List.forall_mem_singleton]
  rfl

/-- A token that is passed over is remarked on unless it is a space or a line break. -/
lemma skipped?_eq (t : Token) :
    t.skipped? = if t.kind ≠ .space ∧ t.kind ≠ .lineBreak then some (unexpected t) else none := by
  by_cases hspace : t.kind = .space
  · simp [Token.skipped?, hspace]
  · by_cases hbreak : t.kind = .lineBreak
    · simp [Token.skipped?, hbreak]
    · simp [Token.skipped?, hspace, hbreak, unexpected]

/-- Over a token that neither ends the expression nor makes a call of it the reader goes on, with the
remark of the description. -/
lemma feed_draft (hspells : ∀ u ∈ before, Spells u.kind u.text.toList)
    (hends : ¬t.endsExpression) (hopens : ¬Opens before t) :
    exprReader.feed (.formula (draft before)) t = .more (.formula (draft (before ++ [t]))) ∧
      exprReader.remark? (.formula (draft before)) t = remark? before t := by
  by_cases hoperand : t.isOperand
  · obtain ⟨x, hx⟩ := BlockState.isOperand_iff.1 hoperand
    have hrole := BlockState.role_eq_operand_iff.2 hx
    constructor
    · simp only [exprReader, ExprState.feed, hrole, push_draft before hx]
    · simp [exprReader, ExprState.remark?, hrole, remark?, hoperand, Draft.lacksOperator, draft,
        ExprState.missingOperator]
  by_cases hsign : t.isSign
  · have hrole : t.role = .sign (Operator.ofSymbol? t.text) := by
      simp only [Token.isSign, decide_eq_true_eq] at hsign
      simp [Token.role, Operand.ofToken?, hsign]
    constructor
    · simp only [exprReader, ExprState.feed, hrole, sign_draft before hsign]
    · simp [exprReader, ExprState.remark?, hrole, remark?, hoperand, hsign]
  -- The token is passed over; if it is a parenthesis, it makes no call.
  have hnothing : t.role = .stray ∨ t.role = .opening ∧ (draft before).callee? = none := by
    by_cases hparen : t.kind = .paren ∧ t.text = "("
    · refine Or.inr ⟨by simp [Token.role, Operand.ofToken?, hparen], ?_⟩
      exact callee?_draft_eq_none hspells fun hcallable => hopens ⟨hparen.1, hparen.2, hcallable⟩
    · left
      unfold Token.role Operand.ofToken?
      cases hkind : t.kind <;>
        simp_all [Token.isOperand, Token.isSign, Token.endsExpression]
  have hskipped : t.skipped? = remark? before t := by
    simp only [Token.endsExpression, Bool.or_eq_true, decide_eq_true_eq, not_or] at hends
    by_cases hspace : t.kind = .space <;>
      simp [skipped?_eq, remark?, hoperand, hsign, hends.2, hspace]
  rw [stray_draft before hoperand hsign, ← hskipped]
  rcases hnothing with hrole | ⟨hrole, hcallee⟩
  · simp [exprReader, ExprState.feed, ExprState.remark?, hrole]
  · simp [exprReader, ExprState.feed, ExprState.remark?, hrole, hcallee]

/-- The reader goes over tokens over which the expression goes on. -/
lemma advances_draft (hspells : ∀ u ∈ before, Spells u.kind u.text.toList) (h : GoesOn before) :
    exprReader.Advances .start before (remarks before) (.formula (draft before)) := by
  induction before using List.reverseRecOn with
  | nil => exact .refl _
  | append_singleton before t ih =>
    rw [List.forall_mem_append] at hspells
    obtain ⟨hbefore, hends, hopens⟩ := goesOn_append_singleton.1 h
    obtain ⟨hfeed, hremark⟩ := feed_draft hspells.1 hends hopens
    rw [remarks_append_singleton, ← hremark]
    exact (ih hspells.1 hbefore).trans (.one hfeed)

/-- Between the parentheses of a call every token is passed over. -/
lemma advances_arguments (callee : String) {inside : List Token}
    (h : ∀ u ∈ inside, u.text ≠ ")") :
    exprReader.Advances (.arguments callee) inside (remarksInside inside) (.arguments callee) := by
  induction inside with
  | nil => exact .refl _
  | cons u inside ih =>
    rw [List.forall_mem_cons] at h
    have hfeed : exprReader.feed (.arguments callee) u = .more (.arguments callee) := by
      simp [exprReader, ExprState.feed, h.1]
    have hremark : exprReader.remark? (.arguments callee) u = u.skipped? := by
      simp [exprReader, ExprState.remark?, h.1]
    have hcons : remarksInside (u :: inside) =
        (exprReader.remark? (.arguments callee) u).toList ++ remarksInside inside := by
      rw [hremark, skipped?_eq, remarksInside, List.filter_cons]
      split <;> simp_all [remarksInside]
    rw [hcons]
    exact .token hfeed (ih h.2)

/-- The reader goes on behind the parenthesis of a call. -/
lemma advances_call {inside : List Token} {x : Operand}
    (hspells : ∀ u ∈ before, Spells u.kind u.text.toList) (hgoes : GoesOn before)
    (hopens : Opens before t) (hx : first? before = some x) (hinner : ∀ u ∈ inside, u.text ≠ ")") :
    exprReader.Advances .start (before ++ t :: inside)
      (remarks before ++ remarksInside inside) (.arguments x.text) := by
  have hrole : t.role = .opening := by
    simp [Token.role, Operand.ofToken?, hopens.kind, hopens.text]
  have hcallee := callee?_draft hspells hopens.callable hx
  have hfeed : exprReader.feed (.formula (draft before)) t = .more (.arguments x.text) := by
    simp [exprReader, ExprState.feed, hrole, hcallee]
  have hremark : exprReader.remark? (.formula (draft before)) t = none := by
    simp [exprReader, ExprState.remark?, hrole, hcallee]
  have hinside := Reader.Advances.token hfeed (advances_arguments x.text hinner)
  rw [hremark] at hinside
  exact (advances_draft hspells hgoes).trans hinside

/-- The reader reads what the description says. -/
lemma read_of_described {offset : Nat} {tokens : List Token} {reading : Reading Expr}
    (hspells : ∀ u ∈ tokens, Spells u.kind u.text.toList) (h : Described offset tokens reading) :
    exprReader.read offset .start tokens = reading := by
  cases h with
  | @terminated before later t hgoes hends =>
    rw [List.forall_mem_append] at hspells
    have hrole : t.role = .terminator := by
      simp only [Token.endsExpression, Bool.or_eq_true, decide_eq_true_eq] at hends
      rcases hends with hends | hends <;> simp [Token.role, Operand.ofToken?, hends]
    have hfeed : exprReader.feed (.formula (draft before)) t = .done (.formula (entries before)) := by
      simp [exprReader, ExprState.feed, hrole, expr_draft]
    have hremark : exprReader.remark? (.formula (draft before)) t = none := by
      simp [exprReader, ExprState.remark?, hrole]
    rw [(advances_draft hspells.1 hgoes).read_append, Reader.read, hfeed, hremark]
    simp
  | exhausted hgoes =>
    rw [(advances_draft hspells hgoes).read_eq]
    simp [exprReader, ExprState.close, ExprState.missing, expr_draft]
  | @called before inside later t u x hgoes hopens hx hinner hcloses =>
    rw [List.forall_mem_append] at hspells
    have hfeed : exprReader.feed (.arguments x.text) u = .done (.call x.text) := by
      simp [exprReader, ExprState.feed, hcloses]
    have hremark : exprReader.remark? (.arguments x.text) u = none := by
      simp [exprReader, ExprState.remark?, hcloses]
    have hsplit : before ++ t :: (inside ++ u :: later) = (before ++ t :: inside) ++ u :: later := by
      simp
    rw [hsplit, (advances_call hspells.1 hgoes hopens hx hinner).read_append, Reader.read, hfeed,
      hremark]
    simp only [Option.toList_none, List.append_nil, List.length_append, List.length_cons,
      Reading.mk.injEq, true_and]
    omega
  | @unclosed before inside t x hgoes hopens hx hinner =>
    rw [List.forall_mem_append] at hspells
    have hmissing : (exprReader.missing (.arguments x.text)).map (Diagnostic.unexpectedEnd offset) =
        [⟨.unexpectedEnd, "Expected `)` before end of input", ⟨offset, offset⟩⟩] := rfl
    rw [(advances_call hspells.1 hgoes hopens hx hinner).read_eq, hmissing]
    simp only [exprReader, ExprState.close, List.length_append, List.length_cons,
      Reading.mk.injEq, true_and]
    omega

/-- An expression goes on over all tokens, or there is a first one that ends it or makes a call of
it. -/
lemma goesOn_or_stops (tokens : List Token) :
    GoesOn tokens ∨ ∃ before t later, tokens = before ++ t :: later ∧ GoesOn before ∧
      (t.endsExpression ∨ Opens before t) := by
  induction tokens using List.reverseRecOn with
  | nil => exact Or.inl fun pair hpair => absurd hpair List.not_mem_nil
  | append_singleton tokens t ih =>
    rcases ih with hgoes | ⟨before, u, later, rfl, hbefore, hstops⟩
    · by_cases hstops : t.endsExpression ∨ Opens tokens t
      · exact Or.inr ⟨tokens, t, [], rfl, hgoes, hstops⟩
      · exact Or.inl (goesOn_append_singleton.2 ⟨hgoes, not_or.1 hstops⟩)
    · exact Or.inr ⟨before, u, later ++ [t], by simp, hbefore, hstops⟩

/-- Every list of tokens is described. -/
lemma exists_described (offset : Nat) (tokens : List Token) :
    ∃ reading, Described offset tokens reading := by
  rcases goesOn_or_stops tokens with hgoes | ⟨before, t, later, rfl, hgoes, hends | hopens⟩
  · exact ⟨_, .exhausted hgoes⟩
  · exact ⟨_, .terminated hgoes hends⟩
  · obtain ⟨front, x, gap, hbefore, hx, -⟩ := hopens.callable
    have hsome : (first? before).isSome := isSome_first?_iff.2 ⟨x, by simp [hbefore], hx⟩
    obtain ⟨y, hy⟩ := Option.isSome_iff_exists.1 hsome
    cases hfind : later.find? (fun u => u.text = ")") with
    | none =>
      refine ⟨_, .unclosed hgoes hopens hy fun u hu => ?_⟩
      simpa using List.find?_eq_none.1 hfind u hu
    | some u =>
      obtain ⟨hu, inside, rest, rfl, hinside⟩ := List.find?_eq_some_iff_append.1 hfind
      refine ⟨_, .called hgoes hopens hy (fun v hv => ?_) (by simpa using hu)⟩
      simpa using hinside v hv

end Reading

end Expression

/-- What a parser reads as an expression from the tokens of a source, anywhere in them, is what the
tokens from there on are described as: the expression, the remarks on it and the number of tokens
that it takes up. -/
theorem readExpr_eq_iff_described (source : String) (policy : UnknownPolicy) (lexing channel : Channel)
    (position : Nat) (e : Expr) (after : Parser) :
    let tokens := (Lexer.ofSource source policy lexing).readAll.1
    Parser.readExpr ⟨tokens, position, channel⟩ = (e, after) ↔
      ∃ remarks consumed,
        Expression.Described (Token.endOf tokens) (tokens.drop position) ⟨e, remarks, consumed⟩ ∧
        after = ⟨tokens, position + consumed, channel.send remarks⟩ := by
  intro tokens
  have hspells : ∀ u ∈ tokens.drop position, Spells u.kind u.text.toList :=
    fun u hu => Lexer.spells_of_mem_readAll (List.mem_of_mem_drop hu)
  constructor
  · intro h
    obtain ⟨reading, hreading⟩ :=
      Expression.exists_described (Token.endOf tokens) (tokens.drop position)
    have hread := Expression.read_of_described hspells hreading
    simp only [Parser.readExpr, Parser.read, Parser.rest, hread, Prod.mk.injEq] at h
    obtain ⟨rfl, rfl⟩ := h
    exact ⟨reading.remarks, reading.consumed, hreading, rfl⟩
  · rintro ⟨remarks, consumed, hreading, rfl⟩
    have hread := Expression.read_of_described hspells hreading
    simp only [Parser.readExpr, Parser.read, Parser.rest, hread]

-- A sign in front of the first operand blocks a call of it and serves for the second operand; behind
-- that one the first operand can be called.
example :
    (Parser.readExpr ⟨tokenize "+ a(b; c", 0, .closed⟩).1 =
        .formula [.operand (.identifier "a"), .operand (.identifier "b"), .operator .plus] ∧
      (Parser.readExpr ⟨tokenize "+ a b(; c", 0, .closed⟩).1 = .call "a" := by
  decide +kernel

end Summand
