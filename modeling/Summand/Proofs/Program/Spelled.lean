import Summand.Proofs.Program.Mentions
import Summand.Proofs.Token.Spelling

/-!
# How the names of a program are spelled

The names of functions can be any text, but everything else that a program mentions is the text of one
token: operands and the names of bindings are numerals and names, and so are callees.  This is
`spelledAll_read`, which follows from where the mentions of a program come from.
-/

namespace Summand

open Token.Kind

/-- The operand is a numeral or a name. -/
def Operand.Spelled : Operand → Prop
  | .number text => IsNumeral text.toList
  | .identifier name => IsName name.toList

/-- The text is a name or a numeral, which is what can be called. -/
def IsCallee (text : String) : Prop :=
  IsName text.toList ∨ IsNumeral text.toList

/-- The mention is spelled as it has to be at its place. -/
def Mention.Spelled : Mention → Prop
  | .binding name => IsName name.toList
  | .operand x => x.Spelled
  | .callee text => IsCallee text

/-- Everything that the expression mentions is spelled as it has to be. -/
def Expr.Spelled (e : Expr) : Prop :=
  ∀ m ∈ e.mentions, m.Spelled

/-- Everything that the statements mention is spelled as it has to be. -/
def Stmt.SpelledAll (body : List Stmt) : Prop :=
  ∀ m ∈ Stmt.mentionsAll body, m.Spelled

/-- What comes from a token of a lexer is spelled. -/
lemma Mention.From.spelled {m : Mention} {t : Token} (h : m.From t)
    (ht : Spells t.kind t.text.toList) : m.Spelled := by
  match m, h with
  | .binding name, ⟨hkind, htext⟩ => rwa [hkind, htext] at ht
  | .operand (.number text), ⟨hkind, htext⟩ => rwa [hkind, htext] at ht
  | .operand (.identifier name), ⟨hkind, htext⟩ => rwa [hkind, htext] at ht
  | .callee text, ⟨hkind, htext⟩ =>
    rw [htext] at ht
    rcases hkind with hkind | hkind
    · rw [hkind] at ht
      exact Or.inr ht
    · rw [hkind] at ht
      exact Or.inl ht

/-- An operand that a lexer reads is spelled. -/
lemma Operand.spelled_of_ofToken? {t : Token} (ht : Spells t.kind t.text.toList) {x : Operand}
    (hx : Operand.ofToken? t = some x) : x.Spelled :=
  (Mention.from_operand hx).spelled ht

/-- The text of a spelled operand can be called. -/
lemma Operand.Spelled.isCallee {x : Operand} (hx : x.Spelled) : IsCallee x.text := by
  cases x with
  | number text => exact Or.inr hx
  | identifier name => exact Or.inl hx

namespace BlockState

/-- What a token is recorded as is spelled if the token is. -/
lemma spelled_of_mention? {s : BlockState} {t : Token} (ht : Spells t.kind t.text.toList)
    {later : List Visit} {m : Mention} (h : s.mention? t later = some m) : m.Spelled :=
  (from_of_mention? h).spelled ht

/-- So is everything that is recorded. -/
lemma spelled_recorded {visits : List Visit}
    (h : ∀ visit ∈ visits, Spells visit.2.kind visit.2.text.toList) :
    ∀ m ∈ recorded (account visits), m.Spelled := by
  induction visits with
  | nil => simp [account, recorded]
  | cons visit visits ih =>
    obtain ⟨s, t⟩ := visit
    rw [List.forall_mem_cons] at h
    rw [recorded_account_cons, List.forall_mem_append]
    refine ⟨fun m hm => ?_, ih h.2⟩
    exact spelled_of_mention? h.1 (Option.mem_toList.1 hm)

/-- A program that is read from tokens as a lexer reads them is spelled. -/
lemma spelledAll_read (offset : Nat) {tokens : List Token}
    (h : ∀ t ∈ tokens, Spells t.kind t.text.toList) :
    Stmt.SpelledAll (blockReader.read offset .start tokens).result := by
  unfold Stmt.SpelledAll
  rw [mentions_read]
  exact spelled_recorded (blockReader.forall_mem_trace .start h)

end BlockState

end Summand
