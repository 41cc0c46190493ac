import Summand.Proofs.Program.Accounting

/-!
# Layout

Blanks, line breaks and semicolons have no place in a program.  Outside of the names of functions a
blank does nothing at all (`feed_space`), and a semicolon does what a line break does
(`feed_terminator`): the one difference is that a semicolon in the wrong place is remarked on.

`Relaid` compares two lists of tokens that differ in layout.  The main statement is
`readBlock_of_relaid`: both give the same program, and if they only differ in blanks, the same
remarks but for the places.
-/

namespace Summand

open Token.Kind Text

/-! ## Changes of layout -/

/-- A token behind these can be part of the name of a function: there is a keyword among them, and no
opening parenthesis behind it. -/
def InName (before : List Token) : Prop :=
  ∃ earlier keyword run, before = earlier ++ keyword :: run ∧ keyword.kind = .functionKeyword ∧
    ∀ t ∈ run, t.text ≠ "("

/-- The token is a blank, a semicolon or a line break, and is spelled as such. -/
structure Token.IsLayout (t : Token) : Prop where
  kind : t.kind = .space ∨ t.kind = .semicolon ∨ t.kind = .lineBreak
  spells : Spells t.kind t.text.toList

/-- A blank is left out. -/
def Token.Omits (t : Token) (replacement? : Option Token) : Prop :=
  t.kind = .space ∧ replacement? = none

/-- A semicolon turns into a line feed, or a line break into a semicolon. -/
def Token.Exchanges (t : Token) (replacement? : Option Token) : Prop :=
  ∃ u, replacement? = some u ∧
    ((t.kind = .semicolon ∧ u.kind = .lineBreak ∧ u.text = "\n") ∨
      (t.kind = .lineBreak ∧ u.kind = .semicolon ∧ u.text = ";"))

/-- The layout is changed at one token. -/
def Token.Relays (t : Token) (replacement? : Option Token) : Prop :=
  t.Omits replacement? ∨ t.Exchanges replacement?

/-- The third list comes from the second by changes of single tokens outside of the names of
functions.  The first list holds the tokens in front of the second. -/
inductive Relaid (change : Token → Option Token → Prop) :
    List Token → List Token → List Token → Prop
  | nil (before : List Token) : Relaid change before [] []
  | keep {before : List Token} (t : Token) {tokens tokens' : List Token}
      (rest : Relaid change (before ++ [t]) tokens tokens') :
      Relaid change before (t :: tokens) (t :: tokens')
  | change {before : List Token} {t : Token} (replacement? : Option Token)
      (changed : change t replacement?) (outside : ¬InName before) {tokens tokens' : List Token}
      (rest : Relaid change (before ++ [t]) tokens tokens') :
      Relaid change before (t :: tokens) (replacement?.toList ++ tokens')

/-- The kind of a remark and its wording, without the place. -/
def Diagnostic.worded (d : Diagnostic) : Diagnostic.Kind × String :=
  (d.kind, d.message)

/-! ## Names of functions -/

/-- One token more leads into a name if it is the keyword, and out of it if it is an opening
parenthesis. -/
lemma inName_append_singleton {before : List Token} {t : Token} :
    InName (before ++ [t]) ↔ t.kind = .functionKeyword ∨ (InName before ∧ t.text ≠ "(") := by
  constructor
  · rintro ⟨earlier, keyword, run, hbefore, hkind, hrun⟩
    rcases List.eq_nil_or_concat run with rfl | ⟨run, last, rfl⟩
    · obtain ⟨-, hlast⟩ := List.append_inj' hbefore rfl
      obtain rfl := (List.cons.inj hlast).1
      exact Or.inl hkind
    · rw [List.concat_eq_append, ← List.cons_append, ← List.append_assoc] at hbefore
      obtain ⟨rfl, hlast⟩ := List.append_inj' hbefore rfl
      obtain rfl := (List.cons.inj hlast).1
      rw [List.concat_eq_append, List.forall_mem_append, List.forall_mem_singleton] at hrun
      exact Or.inr ⟨⟨earlier, keyword, run, rfl, hkind, hrun.1⟩, hrun.2⟩
  · rintro (hkind | ⟨⟨earlier, keyword, run, rfl, hkind, hrun⟩, htext⟩)
    · exact ⟨before, t, [], rfl, hkind, by simp⟩
    · refine ⟨earlier, keyword, run ++ [t], by simp, hkind, ?_⟩
      rw [List.forall_mem_append, List.forall_mem_singleton]
      exact ⟨hrun, htext⟩

lemma not_inName_nil : ¬InName [] := by
  rintro ⟨earlier, keyword, run, hbefore, -⟩
  simp at hbefore

/-- So one pass over the tokens decides whether they end in a name. -/
lemma foldl_eq_true_iff_inName (before : List Token) :
    before.foldl (fun inside t => t.kind = .functionKeyword || inside && t.text ≠ "(") false = true ↔
      InName before := by
  induction before using List.reverseRecOn with
  | nil => simp [not_inName_nil]
  | append_singleton before t ih => simp [inName_append_singleton, ← ih]

instance (before : List Token) : Decidable (InName before) :=
  decidable_of_iff _ (foldl_eq_true_iff_inName before)

namespace BlockState

/-- The tokens in front of a reader that is in the name of a function tell so. -/
def Tells (s : BlockState) (before : List Token) : Prop :=
  (∃ text, s.mode = .functionName text) → InName before

/-- They still do behind the next token. -/
lemma Tells.of_more {s next : BlockState} {before : List Token} (h : s.Tells before) {t : Token}
    (hfeed : s.feed t = .more next) : next.Tells (before ++ [t]) := by
  intro hname
  rw [inName_append_singleton]
  rcases (functionName_of_more hfeed).1 hname with ⟨-, hkind⟩ | ⟨hbefore, htext⟩
  · exact Or.inl hkind
  · exact Or.inr ⟨h hbefore, htext⟩

/-! ## Layout outside of names -/

/-- Layout is no bracket and no sign. -/
lemma text_ne_of_isLayout {t : Token} (ht : t.IsLayout) :
    t.text ≠ ")" ∧ t.text ≠ "\x7b" ∧ t.text ≠ "=" := by
  have hchars : ∀ c ∈ t.text.toList, isBlank c = true ∨ c = ';' := by
    have hspells := ht.spells
    rcases ht.kind with hkind | hkind | hkind
    · rw [hkind] at hspells
      exact fun c hc => Or.inl (hspells.2 c hc).1
    · rw [hkind] at hspells
      have htext : t.text.toList = [';'] := hspells
      simp [htext]
    · rw [hkind] at hspells
      have hbreak : isBlank '\r' = true ∧ isBlank '\n' = true := by decide
      rcases hspells with htext | htext | htext <;> simp [htext, hbreak]
  have hchar (c : Char) (hc : ¬(isBlank c = true ∨ c = ';')) : t.text ≠ String.ofList [c] := by
    intro htext
    exact hc (hchars c (by simp [htext]))
  exact ⟨hchar ')' (by decide), hchar '\x7b' (by decide), hchar '=' (by decide)⟩

/-- Outside of the names of functions the reader takes no notice of a blank. -/
lemma feed_space {s : BlockState} (hmode : ∀ text, s.mode ≠ .functionName text) {t : Token}
    (ht : t.IsLayout) (hkind : t.kind = .space) : s.feed t = .more s ∧ s.remark? t = none := by
  obtain ⟨hclosing, hbrace, hequals⟩ := text_ne_of_isLayout ht
  have hskipped : t.skipped? = none := by simp [Token.skipped?, hkind]
  obtain ⟨mode, body, frames⟩ := s
  cases mode with
  | statement => simp [feed, feedStatement, remark?, remarkStatement?, hkind]
  | functionName text => exact absurd rfl (hmode text)
  | functionHead name => simp [feed, remark?, hbrace, hskipped]
  | bindingName => simp [feed, remark?, hkind, hskipped]
  | bindingEquals name => simp [feed, remark?, hequals, hskipped]
  | expression purpose state =>
    cases state with
    | formula draft =>
      have hrole : t.role = .stray := by simp [Token.role, Operand.ofToken?, hkind]
      simp [feed, remark?, ExprState.feed, ExprState.remark?, hrole, hskipped, ofExpr]
    | arguments callee =>
      simp [feed, remark?, ExprState.feed, ExprState.remark?, hclosing, hskipped, ofExpr]

/-- The state behind a semicolon or a line break: either ends an expression that is no call. -/
def terminate (s : BlockState) : BlockState :=
  match s.mode with
  | .expression purpose (.formula draft) => s.ofExpr purpose (.done draft.expr)
  | _ => s

/-- Outside of the names of functions a semicolon and a line break lead to the same. -/
lemma feed_terminator {s : BlockState} (hmode : ∀ text, s.mode ≠ .functionName text) {t : Token}
    (ht : t.IsLayout) (hkind : t.kind = .semicolon ∨ t.kind = .lineBreak) :
    s.feed t = .more s.terminate := by
  obtain ⟨hclosing, hbrace, hequals⟩ := text_ne_of_isLayout ht
  obtain ⟨mode, body, frames⟩ := s
  cases mode with
  | statement => rcases hkind with hkind | hkind <;> simp [feed, feedStatement, hkind, terminate]
  | functionName text => exact absurd rfl (hmode text)
  | functionHead name => simp [feed, hbrace, terminate]
  | bindingName => rcases hkind with hkind | hkind <;> simp [feed, hkind, terminate]
  | bindingEquals name => simp [feed, hequals, terminate]
  | expression purpose state =>
    cases state with
    | formula draft =>
      have hrole : t.role = .terminator := by
        rcases hkind with hkind | hkind <;> simp [Token.role, Operand.ofToken?, hkind]
      simp [feed, ExprState.feed, hrole, terminate]
    | arguments callee => simp [feed, ExprState.feed, hclosing, terminate, ofExpr]

/-! ## Reading what is laid out anew -/

/-- A semicolon or a line break turns into a token that leads to the same. -/
lemma exists_of_exchanges {s : BlockState} (hmode : ∀ text, s.mode ≠ .functionName text) {t : Token}
    (hspells : Spells t.kind t.text.toList) {replacement? : Option Token}
    (h : t.Exchanges replacement?) : ∃ u, replacement? = some u ∧ s.feed t = s.feed u := by
  obtain ⟨u, rfl, ⟨ht, hkind, htext⟩ | ⟨ht, hkind, htext⟩⟩ := h
  · have hspells' : Spells u.kind u.text.toList := by
      rw [hkind, htext]
      decide
    refine ⟨u, rfl, ?_⟩
    rw [feed_terminator hmode ⟨by simp [ht], hspells⟩ (Or.inl ht),
      feed_terminator hmode ⟨by simp [hkind], hspells'⟩ (Or.inr hkind)]
  · have hspells' : Spells u.kind u.text.toList := by
      rw [hkind, htext]
      decide
    refine ⟨u, rfl, ?_⟩
    rw [feed_terminator hmode ⟨by simp [ht], hspells⟩ (Or.inr ht),
      feed_terminator hmode ⟨by simp [hkind], hspells'⟩ (Or.inl hkind)]

/-- Where the tokens do not tell of a name, the reader is in none. -/
lemma Tells.mode_ne {s : BlockState} {before : List Token} (h : s.Tells before)
    (hbefore : ¬InName before) (text : String) : s.mode ≠ .functionName text :=
  fun hmode => hbefore (h ⟨text, hmode⟩)

/-- Changes of layout do not change the statements. -/
lemma result_read_of_relaid {before tokens tokens' : List Token}
    (h : Relaid Token.Relays before tokens tokens')
    (hspells : ∀ t ∈ tokens, Spells t.kind t.text.toList) (offset offset' : Nat) {s : BlockState}
    (hs : s.Tells before) :
    (blockReader.read offset s tokens).result = (blockReader.read offset' s tokens').result := by
  -- Both readers go through the same states.  That a change is made outside of names is known of the
  -- tokens only, and carries over to the state because the tokens tell.
  induction h generalizing s with
  | nil before => rfl
  | keep t rest ih =>
    rw [List.forall_mem_cons] at hspells
    simp only [Reader.read]
    cases hfeed : blockReader.feed s t with
    | done result => rfl
    | more next => exact ih hspells.2 (hs.of_more hfeed)
  | @change before t replacement? changed outside tokens tokens' rest ih =>
    rw [List.forall_mem_cons] at hspells
    have hmode := hs.mode_ne outside
    rcases changed with ⟨hkind, rfl⟩ | hexchange
    · have hfeed : blockReader.feed s t = .more s :=
        (feed_space hmode ⟨by simp [hkind], hspells.1⟩ hkind).1
      simp only [Reader.read, hfeed]
      exact ih hspells.2 (hs.of_more hfeed)
    · obtain ⟨u, rfl, hfeed⟩ := exists_of_exchanges hmode hspells.1 hexchange
      have hfeed' : blockReader.feed s u = blockReader.feed s t := hfeed.symm
      simp only [Option.toList_some, List.singleton_append, Reader.read, hfeed']
      cases hnext : blockReader.feed s t with
      | done result => rfl
      | more next => exact ih hspells.2 (hs.of_more hnext)

/-- Blanks that are left out do not change the remarks, but for the places. -/
lemma remarks_read_of_relaid {before tokens tokens' : List Token}
    (h : Relaid Token.Omits before tokens tokens')
    (hspells : ∀ t ∈ tokens, Spells t.kind t.text.toList) (offset offset' : Nat) {s : BlockState}
    (hs : s.Tells before) :
    (blockReader.read offset s tokens).remarks.map Diagnostic.worded =
      (blockReader.read offset' s tokens').remarks.map Diagnostic.worded := by
  induction h generalizing s with
  | nil before =>
    simp only [Reader.read, List.map_map]
    rfl
  | keep t rest ih =>
    rw [List.forall_mem_cons] at hspells
    simp only [Reader.read]
    cases hfeed : blockReader.feed s t with
    | done result => rfl
    | more next =>
      simp only [List.map_append, ih hspells.2 (hs.of_more hfeed)]
  | @change before t replacement? changed outside tokens tokens' rest ih =>
    rw [List.forall_mem_cons] at hspells
    obtain ⟨hkind, rfl⟩ := changed
    obtain ⟨hfeed, hremark⟩ :=
      feed_space (hs.mode_ne outside) ⟨by simp [hkind], hspells.1⟩ hkind
    have hfeed' : blockReader.feed s t = .more s := hfeed
    have hremark' : blockReader.remark? s t = none := hremark
    simp only [Reader.read, hfeed', hremark', Option.toList_none, List.nil_append]
    exact ih hspells.2 (hs.of_more hfeed)

end BlockState

/-- More can be changed if more changes are allowed. -/
lemma Relaid.mono {change change' : Token → Option Token → Prop}
    (hchange : ∀ t replacement?, change t replacement? → change' t replacement?)
    {before tokens tokens' : List Token} (h : Relaid change before tokens tokens') :
    Relaid change' before tokens tokens' := by
  induction h with
  | nil before => exact .nil before
  | keep t rest ih => exact .keep t ih
  | change replacement? changed outside rest ih =>
    exact .change replacement? (hchange _ _ changed) outside ih

/-- Layout outside of the names of functions does not change the program.  If blanks are left out of
the tokens that are read from a source, semicolons turned into line feeds and line breaks into
semicolons, none of them between the keyword of a function and the next opening parenthesis, then the
program stays the same; and if only blanks are left out, so do the remarks and their order, but for
the places. -/
theorem readBlock_of_relaid (source : String) (policy : UnknownPolicy)
    (lexing channel channel' : Channel) {tokens tokens' : List Token}
    (htokens : tokens <+: (Lexer.ofSource source policy lexing).readAll.1) :
    (Relaid Token.Relays [] tokens tokens' →
      (Parser.ofTokens tokens channel).readBlock.1 =
        (Parser.ofTokens tokens' channel').readBlock.1) ∧
    (Relaid Token.Omits [] tokens tokens' →
      (Parser.ofTokens tokens channel).readBlock.1 =
          (Parser.ofTokens tokens' channel').readBlock.1 ∧
        (Parser.ofTokens tokens .fresh).readBlock.2.channel.pending.map Diagnostic.worded =
          (Parser.ofTokens tokens' .fresh).readBlock.2.channel.pending.map Diagnostic.worded) := by
  have hspells : ∀ t ∈ tokens, Spells t.kind t.text.toList :=
    fun t ht => Lexer.spells_of_mem_readAll (htokens.subset ht)
  have hstart : BlockState.start.Tells [] := by
    rintro ⟨text, hmode⟩
    simp [BlockState.start] at hmode
  have hresult (h : Relaid Token.Relays [] tokens tokens') :
      (Parser.ofTokens tokens channel).readBlock.1 =
        (Parser.ofTokens tokens' channel').readBlock.1 :=
    BlockState.result_read_of_relaid h hspells _ _ hstart
  refine ⟨hresult, fun h => ⟨hresult (h.mono fun _ _ => Or.inl), ?_⟩⟩
  simp only [Parser.readBlock, Parser.read, Parser.ofTokens, Channel.pending_send_fresh]
  exact BlockState.remarks_read_of_relaid h hspells _ _ hstart

/-- In the body of a function, a blank is left out and the semicolon behind it turned into a line
feed.  The blank in front of the name stays. -/
theorem readBlock_of_relaid_body :
    let tokens := tokenize "function f()\x7ba) ;\x7d"
    let head : List Token :=
      [⟨.functionKeyword, "function", 0⟩, ⟨.space, " ", 8⟩, ⟨.word, "f", 9⟩, ⟨.paren, "(", 10⟩,
        ⟨.paren, ")", 11⟩, ⟨.brace, "\x7b", 12⟩, ⟨.word, "a", 13⟩, ⟨.paren, ")", 14⟩]
    let omitted := head ++ [⟨.semicolon, ";", 16⟩, ⟨.brace, "\x7d", 17⟩]
    let relaid := head ++ [⟨.lineBreak, "\n", 16⟩, ⟨.brace, "\x7d", 17⟩]
    (Parser.ofTokens tokens .closed).readBlock.1 = (Parser.ofTokens relaid .closed).readBlock.1 ∧
      (Parser.ofTokens tokens .fresh).readBlock.2.channel.pending.map Diagnostic.worded =
        (Parser.ofTokens omitted .fresh).readBlock.2.channel.pending.map Diagnostic.worded := by
  intro tokens head omitted relaid
  have htokens : tokens =
      head ++ [⟨.space, " ", 15⟩, ⟨.semicolon, ";", 16⟩, ⟨.brace, "\x7d", 17⟩] := by
    decide +kernel
  have houtside : ¬InName head ∧ ¬InName (head ++ [⟨.space, " ", 15⟩]) := by
    decide
  have hkeep (change : Token → Option Token → Prop) (later later' : List Token)
      (h : Relaid change head later later') : Relaid change [] (head ++ later) (head ++ later') :=
    .keep _ (.keep _ (.keep _ (.keep _ (.keep _ (.keep _ (.keep _ (.keep _ h)))))))
  have homitted : Relaid Token.Omits [] tokens omitted := by
    rw [htokens]
    exact hkeep _ _ _ (.change none ⟨rfl, rfl⟩ houtside.1 (.keep _ (.keep _ (.nil _))))
  have hrelaid : Relaid Token.Relays [] tokens relaid := by
    rw [htokens]
    exact hkeep _ _ _ (.change none (Or.inl ⟨rfl, rfl⟩) houtside.1
      (.change (some _) (Or.inr ⟨_, rfl, Or.inl ⟨rfl, rfl, rfl⟩⟩) houtside.2 (.keep _ (.nil _))))
  exact ⟨(readBlock_of_relaid _ .halt .closed .closed .closed List.prefix_rfl).1 hrelaid,
    ((readBlock_of_relaid _ .halt .closed .closed .closed List.prefix_rfl).2 homitted).2⟩

-- In the name of a function a blank counts.
example :
    let tokens := tokenize "function a b()\x7b\x7d"
    Program.ofTokens tokens = [.function "a b" []] ∧
      Program.ofTokens (tokens.filter fun t => t.kind ≠ .space) = [.function "ab" []] := by
  decide +kernel

end Summand
