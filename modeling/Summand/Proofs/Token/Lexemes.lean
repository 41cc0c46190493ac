import Summand.Proofs.Token.Spelling

/-!
# The tokens of a text without their places

`Lexer.lexemes` lists the kinds and texts of the tokens of a text when every unknown character is
passed over, and `Token.place` puts the places back.  The two together are what a lexer reads that
nothing stops (`Lexer.readAll_eq`), whatever its policy and its channel.

Two laws carry over to whole texts what is known of a first token.  `Lexer.tokenInduction` takes a
text apart token by token, and `Lexer.lexemes_append_of_seam` says where a text can be cut so that
the parts have the same tokens on their own.
-/

namespace Summand

open Token.Kind Text

/-- The tokens with the given kinds and texts, one right behind the other from an offset on. -/
def Token.place : Nat → List (Token.Kind × String) → List Token
  | _, [] => []
  | position, (kind, text) :: rest =>
    ⟨kind, text, position⟩ :: Token.place (position + text.utf8ByteSize) rest

namespace Token

/-- There is nothing to place. -/
@[simp] lemma place_nil (position : Nat) : place position [] = [] := rfl

/-- The first token is placed at the offset and the others behind it. -/
@[simp] lemma place_cons (position : Nat) (kind : Kind) (text : String)
    (rest : List (Kind × String)) :
    place position ((kind, text) :: rest) =
      ⟨kind, text, position⟩ :: place (position + text.utf8ByteSize) rest := rfl

/-- Placing keeps kinds and texts. -/
@[simp] lemma map_place (position : Nat) (ls : List (Kind × String)) :
    (place position ls).map (fun t => (t.kind, t.text)) = ls := by
  induction ls generalizing position with
  | nil => rfl
  | cons l rest ih => simp [place, ih]

/-- The tokens of a second list are placed behind those of the first. -/
lemma place_append (position : Nat) (first second : List (Kind × String)) :
    place position (first ++ second) =
      place position first ++
        place (position + (String.join (first.map Prod.snd)).utf8ByteSize) second := by
  induction first generalizing position with
  | nil => simp
  | cons l rest ih =>
    obtain ⟨kind, text⟩ := l
    simp only [List.cons_append, place_cons, List.map_cons, String.join_cons,
      String.utf8ByteSize_append, ih]
    rw [Nat.add_assoc]

end Token

namespace Lexer

/-! ## Taking a text apart -/

/-- The kinds and texts of the tokens of a text, every unknown character passed over. -/
def lexemes (cs : List Char) : List (Token.Kind × String) :=
  if _h : cs = [] then []
  else
    (leading cs, String.ofList (cs.take ((leading cs).extent cs))) ::
      lexemes (cs.drop ((leading cs).extent cs))
termination_by cs.length
decreasing_by
  have hpos := extent_leading_pos _h
  have hlength := List.length_pos_iff.2 _h
  rw [List.length_drop]
  omega

/-- The empty text has no tokens. -/
@[simp] lemma lexemes_nil : lexemes [] = [] := by
  rw [lexemes, dif_pos rfl]

/-- The tokens of a text that starts at an offset, every unknown character passed over. -/
def placed (offset : Nat) (text : String) : List Token :=
  Token.place offset (lexemes text.toList)

/-- Behind its first token a text has the tokens of its rest. -/
lemma lexemes_append_of_begins {kind : Token.Kind} {text rest : List Char}
    (h : Begins kind text rest) :
    lexemes (text ++ rest) = (kind, String.ofList text) :: lexemes rest := by
  obtain ⟨hnil, hleading, hextent⟩ := h
  rw [lexemes, dif_neg (by simp [hnil]), hleading, hextent]
  simp

/-- To show something of every text, show it of the empty one and of a text with one token more. -/
@[elab_as_elim]
theorem tokenInduction {motive : List Char → Prop} (nil : motive [])
    (token : ∀ kind text rest, Begins kind text rest → motive rest → motive (text ++ rest))
    (cs : List Char) : motive cs := by
  by_cases hcs : cs = []
  · rw [hcs]
    exact nil
  · obtain ⟨kind, text, rest, heq, hspells, hstops⟩ := exists_spells hcs
    have hbegins := begins_of_spells hspells hstops
    have hshorter : rest.length < cs.length := by
      have hlength := List.length_pos_iff.2 hbegins.1
      rw [heq, List.length_append]
      omega
    rw [heq]
    exact token kind text rest hbegins (tokenInduction nil token rest)
termination_by cs.length

/-- The texts of the tokens make up the whole text. -/
lemma join_lexemes (cs : List Char) :
    String.join ((lexemes cs).map Prod.snd) = String.ofList cs := by
  induction cs using tokenInduction with
  | nil => simp
  | token kind text rest hbegins ih =>
    rw [lexemes_append_of_begins hbegins, List.map_cons, String.join_cons, ih, String.ofList_append]

/-- Every token of a text is spelled as its kind asks. -/
lemma spells_of_mem_lexemes (cs : List Char) :
    ∀ l ∈ lexemes cs, Spells l.1 l.2.toList := by
  induction cs using tokenInduction with
  | nil => simp
  | token kind text rest hbegins ih =>
    rw [lexemes_append_of_begins hbegins]
    intro l hl
    rcases List.mem_cons.1 hl with rfl | hl
    · simpa using (begins_iff.1 hbegins).1
    · exact ih l hl

/-! ## Reading with nothing to stop it -/

/-- A lexer that has not halted reads the first token of its text. -/
lemma next?_of_begins {lexer : Lexer} {kind : Token.Kind} {text rest : List Char}
    (hgo : lexer.halted = false) (hrest : lexer.rest = text ++ rest) (h : Begins kind text rest) :
    lexer.next? = some (⟨kind, String.ofList text, lexer.position⟩,
      lexer.pass ⟨kind, String.ofList text, lexer.position⟩) := by
  obtain ⟨hnil, hleading, hextent⟩ := h
  simp [next?, peek?, hgo, hrest, hnil, hleading, hextent]

/-- A token that does not halt the lexer is passed over and remarked on. -/
lemma pass_of_passable {lexer : Lexer} {kind : Token.Kind} {text rest : List Char}
    (hrest : lexer.rest = text ++ rest) (hpass : lexer.policy = .recover ∨ kind ≠ .other) :
    lexer.pass ⟨kind, String.ofList text, lexer.position⟩ =
      { lexer with
        rest := rest
        position := lexer.position + (String.ofList text).utf8ByteSize
        channel := lexer.channel.send
          (Token.unknownCharacter? ⟨kind, String.ofList text, lexer.position⟩).toList } := by
  have hgoes : (decide (kind = .other) && decide (lexer.policy = .halt)) = false := by
    rcases hpass with hpolicy | hkind
    · simp [hpolicy]
    · simp [hkind]
  simp only [pass, hgoes, Bool.false_eq_true, if_false, hrest, String.length_ofList,
    List.drop_left, Token.span]

/-- A lexer that has not halted, and that no unknown character halts, reads all of its text. -/
theorem readAll_eq (lexer : Lexer) (hgo : lexer.halted = false)
    (hpass : lexer.policy = .recover ∨ ∀ l ∈ lexemes lexer.rest, l.1 ≠ .other) :
    lexer.readAll =
      (Token.place lexer.position (lexemes lexer.rest),
        { lexer with
          rest := []
          position := lexer.position + (String.ofList lexer.rest).utf8ByteSize
          channel := lexer.channel.send
            ((Token.place lexer.position (lexemes lexer.rest)).filterMap
              Token.unknownCharacter?) }) := by
  obtain ⟨cs, position, policy, halted, channel⟩ := lexer
  obtain rfl : halted = false := hgo
  simp only at hpass ⊢
  induction cs using tokenInduction generalizing position channel with
  | nil =>
    rw [readAll_of_next?_eq_none (by simp [next?, peek?])]
    simp
  | token kind text rest hbegins ih =>
    rw [lexemes_append_of_begins hbegins] at hpass ⊢
    have hkind : policy = .recover ∨ kind ≠ .other :=
      hpass.imp_right fun h => h (kind, String.ofList text) (by simp)
    have hrest : policy = .recover ∨ ∀ l ∈ lexemes rest, l.1 ≠ .other :=
      hpass.imp_right fun h l hl => h l (List.mem_cons_of_mem _ hl)
    rw [readAll_of_next?_eq_some (next?_of_begins rfl rfl hbegins),
      pass_of_passable rfl hkind]
    simp only
    rw [ih _ _ hrest, ← Channel.send_append]
    simp only [Token.place_cons, List.filterMap_cons, String.ofList_append,
      String.utf8ByteSize_append, Nat.add_assoc]
    cases Token.unknownCharacter? ⟨kind, String.ofList text, position⟩ <;> simp

/-- If a lexer reads no unknown character, there is none in its text. -/
theorem ne_other_of_readAll {lexer : Lexer} (hgo : lexer.halted = false)
    (hread : ∀ t ∈ lexer.readAll.1, t.kind ≠ .other) :
    ∀ l ∈ lexemes lexer.rest, l.1 ≠ .other := by
  generalize hcs : lexer.rest = cs
  induction cs using tokenInduction generalizing lexer with
  | nil => simp
  | token kind text rest hbegins ih =>
    rw [readAll_of_next?_eq_some (next?_of_begins hgo hcs hbegins)] at hread
    have hkind : kind ≠ .other := hread _ List.mem_cons_self
    rw [pass_of_passable hcs (Or.inr hkind)] at hread
    rw [lexemes_append_of_begins hbegins]
    intro l hl
    rcases List.mem_cons.1 hl with rfl | hl
    · exact hkind
    · refine ih ?_ (fun t ht => hread t (List.mem_cons_of_mem _ ht)) ?_ l hl
      · exact hgo
      · rfl

/-- The remarks on the first token come in front of those on the others. -/
lemma filterMap_unknownCharacter?_cons (t : Token) (tokens : List Token) :
    (t :: tokens).filterMap Token.unknownCharacter? =
      t.unknownCharacter?.toList ++ tokens.filterMap Token.unknownCharacter? := by
  rw [List.filterMap_cons]
  cases t.unknownCharacter? <;> rfl

/-- The remarks on the tokens that no pattern matches: one for each, about its span. -/
lemma filterMap_unknownCharacter? (tokens : List Token) :
    tokens.filterMap Token.unknownCharacter? =
      (tokens.filter fun t => t.kind = .other).map fun t =>
        ⟨.unknownCharacter, "No rule matches `" ++ t.text ++ "`", t.span⟩ := by
  induction tokens with
  | nil => rfl
  | cons t tokens ih =>
    by_cases hother : t.kind = .other
    · simp [Token.unknownCharacter?, hother, ih]
    · simp [Token.unknownCharacter?, hother, ih]

/-- Whatever its policy, a lexer remarks on the tokens that it reads and that no pattern matches. -/
theorem channel_readAll (lexer : Lexer) :
    lexer.readAll.2.channel =
      lexer.channel.send (lexer.readAll.1.filterMap Token.unknownCharacter?) := by
  fun_induction readAll lexer with
  | case1 lexer hnext => simp
  | case2 lexer t after hnext tokens last hread ih =>
    have hafter : after.channel = lexer.channel.send t.unknownCharacter?.toList := by
      simp only [next?, Option.map_eq_some_iff, Prod.mk.injEq] at hnext
      obtain ⟨u, -, rfl, rfl⟩ := hnext
      unfold pass
      split
      · rfl
      · rfl
    rw [hread] at ih
    rw [filterMap_unknownCharacter?_cons, Channel.send_append, ← hafter]
    exact ih

/-! ## Where a text can be cut -/

/-- A character in front of which every token of a text ends, and no other token than without it. -/
def Seam (before : List Char) (c : Char) : Prop :=
  isWordChar c = false ∧ isInlineBlank c = false ∧ c ≠ '.' ∧ (c = '\n' → '\r' ∉ before)

/-- A text that does not start with a class does not do so either when more is written behind it. -/
lemma notLed_append {p : Char → Bool} {cs after : List Char} {c : Char} (h : NotLed p cs)
    (hc : p c = false) : NotLed p (cs ++ c :: after) := by
  cases cs with
  | nil => simpa using hc
  | cons d cs => simpa using h

/-- What makes a token stop still does so when more is written behind a seam. -/
lemma stops_append_of_seam {kind : Token.Kind} {text rest : List Char} {c : Char}
    (after : List Char) (h : Stops kind text rest) (hseam : Seam (text ++ rest) c) :
    Stops kind text (rest ++ c :: after) := by
  obtain ⟨hword, hblank, hpoint, hfeed⟩ := hseam
  have hname : isNameChar c = false := isNameChar_eq_false_of_isWordChar hword
  have hdigit : c.isDigit = false := isDigit_eq_false_of_isNameChar hname
  cases kind with
  | functionKeyword => exact notLed_append h hword
  | returnKeyword => exact notLed_append h hword
  | letKeyword => exact notLed_append h hword
  | number =>
    refine ⟨notLed_append h.1 hdigit, ?_⟩
    intro htext d more hmore
    match rest, h, hmore with
    | [], _, hmore => simp [hpoint] at hmore
    | [_], _, hmore => simp_all
    | _ :: e :: rest, h, hmore =>
      simp only [List.cons_append, List.cons.injEq] at hmore
      obtain ⟨rfl, rfl, -⟩ := hmore
      exact h.2 htext e rest rfl
  | word =>
    refine ⟨notLed_append h.1 hname, ?_⟩
    intro hkey hrest
    cases rest with
    | nil => exact h.2 hkey (notLed_nil _)
    | cons d rest => exact h.2 hkey (by simpa using hrest)
  | space => exact notLed_append h hblank
  | lineBreak =>
    intro htext
    cases rest with
    | nil =>
      simp only [List.nil_append, List.head?_cons, ne_eq, Option.some.injEq]
      intro hc
      exact hfeed hc (by simp [htext])
    | cons d rest => simpa using h htext
  | semicolon => trivial
  | brace => trivial
  | paren => trivial
  | punctuator => trivial
  | other => trivial

/-- At a seam a text can be cut: the tokens are those of the two parts. -/
theorem lexemes_append_of_seam {before : List Char} {c : Char} (after : List Char)
    (hseam : Seam before c) :
    lexemes (before ++ c :: after) = lexemes before ++ lexemes (c :: after) := by
  induction before using tokenInduction with
  | nil => simp
  | token kind text rest hbegins ih =>
    obtain ⟨hspells, hstops⟩ := begins_iff.1 hbegins
    have hbegins' := begins_of_spells hspells (stops_append_of_seam after hstops hseam)
    have hrest : Seam rest c :=
      ⟨hseam.1, hseam.2.1, hseam.2.2.1, fun hc h => hseam.2.2.2 hc (List.mem_append_right _ h)⟩
    rw [List.append_assoc, lexemes_append_of_begins hbegins', ih hrest,
      lexemes_append_of_begins hbegins, List.cons_append]

end Lexer

end Summand
