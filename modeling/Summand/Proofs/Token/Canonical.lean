import Summand.Proofs.Token.Lexemes

/-!
# Canonical lists of tokens

Which lists of kinds and texts are the tokens of some text?  A list is `Canonical` if every text
belongs to its kind and no token could take up characters of the tokens behind it, nor turn into a
token of another kind because of them.  This is said of the tokens themselves, one and two tokens
ahead (`Precedes`), with no regard to how a lexer finds them.

The main statement, `readAll_join_eq_iff_canonical`, says that these lists are exactly the ones that
a lexer gives back when it reads the texts of the list one after the other.
-/

namespace Summand.Lexer

open Token.Kind Text

/-- What may stand behind a token for the token to stay as it is. -/
def Precedes : Token.Kind × String → List (Token.Kind × String) → Prop
  | (.functionKeyword, _), rest => ∀ next ∈ rest.head?, NotLed isWordChar next.2.toList
  | (.returnKeyword, _), rest => ∀ next ∈ rest.head?, NotLed isWordChar next.2.toList
  | (.letKeyword, _), rest => ∀ next ∈ rest.head?, NotLed isWordChar next.2.toList
  | (.word, text), rest =>
    (∀ next ∈ rest.head?, NotLed isNameChar next.2.toList) ∧
      (IsKeyword text.toList → ∃ next ∈ rest.head?, ¬NotLed isWordChar next.2.toList)
  | (.number, text), rest =>
    (∀ next ∈ rest.head?, next.1 ≠ .number) ∧
      (IsDigits text.toList → rest.head? = some (.other, ".") →
        ∀ next ∈ rest.tail.head?, next.1 ≠ .number)
  | (.space, _), rest => ∀ next ∈ rest.head?, next.1 ≠ .space
  | (.lineBreak, text), rest => text = "\r" → rest.head? ≠ some (.lineBreak, "\n")
  | _, _ => True

/-- Every text belongs to its kind, and every token goes with those behind it. -/
def Canonical : List (Token.Kind × String) → Prop
  | [] => True
  | l :: rest => Spells l.1 l.2.toList ∧ Precedes l rest ∧ Canonical rest

instance : (l : Token.Kind × String) → (rest : List (Token.Kind × String)) →
    Decidable (Precedes l rest)
  | (.functionKeyword, _), rest => inferInstanceAs (Decidable (∀ next ∈ rest.head?, _))
  | (.returnKeyword, _), rest => inferInstanceAs (Decidable (∀ next ∈ rest.head?, _))
  | (.letKeyword, _), rest => inferInstanceAs (Decidable (∀ next ∈ rest.head?, _))
  | (.word, _), rest =>
    inferInstanceAs (Decidable ((∀ next ∈ rest.head?, _) ∧ (_ → ∃ next ∈ rest.head?, ¬_)))
  | (.number, _), rest =>
    inferInstanceAs (Decidable ((∀ next ∈ rest.head?, _ ≠ _) ∧
      (_ → _ = _ → ∀ next ∈ rest.tail.head?, _ ≠ _)))
  | (.space, _), rest => inferInstanceAs (Decidable (∀ next ∈ rest.head?, _ ≠ _))
  | (.lineBreak, _), _ => inferInstanceAs (Decidable (_ = _ → _ ≠ _))
  | (.semicolon, _), _ => inferInstanceAs (Decidable True)
  | (.brace, _), _ => inferInstanceAs (Decidable True)
  | (.paren, _), _ => inferInstanceAs (Decidable True)
  | (.punctuator, _), _ => inferInstanceAs (Decidable True)
  | (.other, _), _ => inferInstanceAs (Decidable True)

/-- A list can be tested for being canonical. -/
def decideCanonical : (ls : List (Token.Kind × String)) → Decidable (Canonical ls)
  | [] => inferInstanceAs (Decidable True)
  | l :: rest =>
    have : Decidable (Canonical rest) := decideCanonical rest
    inferInstanceAs (Decidable (Spells l.1 l.2.toList ∧ Precedes l rest ∧ Canonical rest))

instance : DecidablePred Canonical := decideCanonical

/-- In a canonical list every text belongs to its kind. -/
lemma Canonical.spells {ls : List (Token.Kind × String)} (h : Canonical ls) :
    ∀ l ∈ ls, Spells l.1 l.2.toList := by
  induction ls with
  | nil => simp
  | cons l rest ih =>
    intro l' hl'
    rcases List.mem_cons.1 hl' with rfl | hl'
    · exact h.1
    · exact ih h.2.2 l' hl'

/-! ## First characters of tokens -/

/-- The first character of a text that belongs to a kind tells the kind, keywords apart. -/
lemma ofFirst_of_spells {kind : Token.Kind} {c : Char} {cs : List Char}
    (h : Spells kind (c :: cs)) :
    ofFirst c = if kind.keyword?.isSome then .word else kind := by
  cases kind with
  | functionKeyword => obtain ⟨rfl, -⟩ := List.cons.inj h; decide
  | returnKeyword => obtain ⟨rfl, -⟩ := List.cons.inj h; decide
  | letKeyword => obtain ⟨rfl, -⟩ := List.cons.inj h; decide
  | number =>
    refine ofFirst_of_isDigit ?_
    rcases h with h | ⟨whole, fraction, hwhole, -, heq⟩
    · exact h.2 c (by simp)
    · obtain ⟨d, whole, rfl⟩ := List.exists_cons_of_ne_nil hwhole.1
      obtain ⟨rfl, -⟩ := List.cons.inj heq
      exact hwhole.2 c (by simp)
  | word =>
    obtain ⟨-, hname, hdigit⟩ := h
    rw [notLed_cons] at hdigit
    simp [ofFirst, hdigit, hname c (by simp), keyword?]
  | space => exact ofFirst_of_isInlineBlank (isInlineBlank_iff.2 (h.2 c (by simp)))
  | semicolon => obtain ⟨rfl, -⟩ := List.cons.inj h; decide
  | lineBreak =>
    rcases h with h | h | h <;> obtain ⟨rfl, -⟩ := List.cons.inj h <;> decide
  | brace => rcases h with h | h <;> obtain ⟨rfl, -⟩ := List.cons.inj h <;> decide
  | paren => rcases h with h | h <;> obtain ⟨rfl, -⟩ := List.cons.inj h <;> decide
  | punctuator => rcases h with h | h <;> obtain ⟨rfl, -⟩ := List.cons.inj h <;> decide
  | other =>
    exact ofFirst_eq_other_iff.2 (h.2 c (by simp))

/-- No text that belongs to a kind is empty. -/
lemma ne_nil_of_spells {kind : Token.Kind} {cs : List Char} (h : Spells kind cs) : cs ≠ [] := by
  rintro rfl
  cases kind <;> simp [Spells, IsNumeral, IsDigits, IsName] at h

/-- Among the kinds that the first character decides, it decides the kind of a whole text. -/
lemma ofFirst_eq_iff_of_spells {kind kind' : Token.Kind} (hkeyword : kind'.keyword? = none)
    (hword : kind' ≠ .word) {c : Char} {cs : List Char} (h : Spells kind (c :: cs)) :
    ofFirst c = kind' ↔ kind = kind' := by
  rw [ofFirst_of_spells h]
  split_ifs with hkind
  · constructor
    · intro heq
      exact absurd heq.symm hword
    · rintro rfl
      simp [hkeyword] at hkind
  · rfl

/-- Only digits start numbers. -/
lemma ofFirst_eq_number_iff {c : Char} : ofFirst c = .number ↔ c.isDigit = true := by
  constructor
  · intro h
    unfold ofFirst at h
    split_ifs at h with hc
    exact hc
  · exact ofFirst_of_isDigit

/-- Only blanks on the line start spaces. -/
lemma ofFirst_eq_space_iff {c : Char} : ofFirst c = .space ↔ isInlineBlank c = true := by
  constructor
  · intro h
    unfold ofFirst at h
    split_ifs at h with _ _ hc
    exact hc
  · exact ofFirst_of_isInlineBlank

/-- A text that belongs to a kind starts with a digit if and only if the kind is a number. -/
lemma notLed_isDigit_iff {kind : Token.Kind} {cs : List Char} (h : Spells kind cs) :
    NotLed Char.isDigit cs ↔ kind ≠ .number := by
  obtain ⟨c, cs, rfl⟩ := List.exists_cons_of_ne_nil (ne_nil_of_spells h)
  rw [notLed_cons, ← Bool.not_eq_true, ← ofFirst_eq_number_iff,
    ofFirst_eq_iff_of_spells rfl (by simp) h]

/-- A text that belongs to a kind starts with a blank on the line if and only if the kind is a
space. -/
lemma notLed_isInlineBlank_iff {kind : Token.Kind} {cs : List Char} (h : Spells kind cs) :
    NotLed isInlineBlank cs ↔ kind ≠ .space := by
  obtain ⟨c, cs, rfl⟩ := List.exists_cons_of_ne_nil (ne_nil_of_spells h)
  rw [notLed_cons, ← Bool.not_eq_true, ← ofFirst_eq_space_iff,
    ofFirst_eq_iff_of_spells rfl (by simp) h]

/-- Of all texts that belong to a kind only a line break starts with a line feed. -/
lemma eq_lineFeed_of_spells {kind : Token.Kind} {cs : List Char} (h : Spells kind ('\n' :: cs)) :
    kind = .lineBreak ∧ cs = [] := by
  have hkind : kind = .lineBreak := (ofFirst_eq_iff_of_spells rfl (by simp) h).1 (by decide)
  subst hkind
  refine ⟨rfl, ?_⟩
  simpa [Spells] using h

/-- Of all texts that belong to a kind only an unknown character starts with a point. -/
lemma eq_point_of_spells {kind : Token.Kind} {cs : List Char} (h : Spells kind ('.' :: cs)) :
    kind = .other ∧ cs = [] := by
  have hkind : kind = .other := (ofFirst_eq_iff_of_spells rfl (by simp) h).1 (by decide)
  subst hkind
  refine ⟨rfl, ?_⟩
  simpa [Spells] using h.1

/-! ## From characters to tokens -/

/-- The characters of a list of tokens. -/
def chars (ls : List (Token.Kind × String)) : List Char :=
  ls.flatMap fun l => l.2.toList

/-- No tokens have no characters. -/
@[simp] lemma chars_nil : chars [] = [] := rfl

/-- The characters of the first token come first. -/
@[simp] lemma chars_cons (l : Token.Kind × String) (rest : List (Token.Kind × String)) :
    chars (l :: rest) = l.2.toList ++ chars rest := rfl

/-- The characters that follow start as the next token does. -/
lemma notLed_chars_iff {p : Char → Bool} {rest : List (Token.Kind × String)}
    (hrest : ∀ l ∈ rest, Spells l.1 l.2.toList) :
    NotLed p (chars rest) ↔ ∀ next ∈ rest.head?, NotLed p next.2.toList := by
  cases rest with
  | nil => simp
  | cons next rest =>
    obtain ⟨c, cs, hcs⟩ := List.exists_cons_of_ne_nil (ne_nil_of_spells (hrest next (by simp)))
    simp [hcs]

/-- A point and a digit follow if and only if the next token is a point and the one behind it a
number. -/
lemma chars_ne_fraction_iff {rest : List (Token.Kind × String)}
    (hrest : ∀ l ∈ rest, Spells l.1 l.2.toList) :
    (∀ d more, chars rest = '.' :: d :: more → d.isDigit = false) ↔
      (rest.head? = some (.other, ".") → ∀ next ∈ rest.tail.head?, next.1 ≠ .number) := by
  constructor
  · rintro h hpoint ⟨kind, digits⟩ hnext rfl
    obtain ⟨rest, rfl⟩ := List.head?_eq_some_iff.1 hpoint
    obtain ⟨more, rfl⟩ := List.head?_eq_some_iff.1 hnext
    have hnumber : Spells .number digits.toList := hrest (.number, digits) (by simp)
    obtain ⟨d, ds, hds⟩ := List.exists_cons_of_ne_nil (ne_nil_of_spells hnumber)
    have hd := h d (ds ++ chars more) (by simp [hds])
    rw [hds] at hnumber
    exact absurd rfl ((notLed_isDigit_iff hnumber).1 (by simpa using hd))
  · intro h d more hchars
    by_contra hd
    -- The point is a token of its own, and the digit starts the number behind it.
    cases rest with
    | nil => simp at hchars
    | cons point rest =>
      obtain ⟨kind, text⟩ := point
      have hpoint : Spells kind text.toList := hrest (kind, text) (by simp)
      obtain ⟨c, cs, hcs⟩ := List.exists_cons_of_ne_nil (ne_nil_of_spells hpoint)
      simp only [chars_cons, hcs, List.cons_append, List.cons.injEq] at hchars
      obtain ⟨rfl, hchars⟩ := hchars
      rw [hcs] at hpoint
      obtain ⟨rfl, rfl⟩ := eq_point_of_spells hpoint
      cases rest with
      | nil => simp at hchars
      | cons number rest =>
        obtain ⟨kind, digits⟩ := number
        have hnumber : Spells kind digits.toList := hrest (kind, digits) (by simp)
        obtain ⟨e, ds, hds⟩ := List.exists_cons_of_ne_nil (ne_nil_of_spells hnumber)
        simp only [chars_cons, hds, List.nil_append, List.cons_append, List.cons.injEq] at hchars
        obtain ⟨rfl, -⟩ := hchars
        have hkind : kind = .number := by
          by_contra hkind
          have hnot := (notLed_isDigit_iff hnumber).2 hkind
          rw [hds, notLed_cons] at hnot
          exact hd hnot
        have htext : text = "." := String.toList_inj.1 hcs
        exact h (by rw [htext]; rfl) (kind, digits) rfl hkind

/-- A line feed follows if and only if the next token is one. -/
lemma head?_chars_eq_lineFeed_iff {rest : List (Token.Kind × String)}
    (hrest : ∀ l ∈ rest, Spells l.1 l.2.toList) :
    (chars rest).head? = some '\n' ↔ rest.head? = some (.lineBreak, "\n") := by
  cases rest with
  | nil => simp
  | cons next rest =>
    obtain ⟨kind, text⟩ := next
    have hspells : Spells kind text.toList := hrest (kind, text) (by simp)
    obtain ⟨c, cs, hcs⟩ := List.exists_cons_of_ne_nil (ne_nil_of_spells hspells)
    rw [hcs] at hspells
    simp only [chars_cons, hcs, List.cons_append, List.head?_cons, Option.some.injEq,
      Prod.mk.injEq]
    constructor
    · rintro rfl
      obtain ⟨rfl, rfl⟩ := eq_lineFeed_of_spells hspells
      exact ⟨rfl, String.toList_inj.1 hcs⟩
    · rintro ⟨-, rfl⟩
      exact (List.cons.inj hcs).1.symm

/-- What makes a token stop, said of the tokens behind it. -/
lemma stops_chars_iff {kind : Token.Kind} {text : String} {rest : List (Token.Kind × String)}
    (hrest : ∀ l ∈ rest, Spells l.1 l.2.toList) :
    Stops kind text.toList (chars rest) ↔ Precedes (kind, text) rest := by
  have hnext : ∀ next ∈ rest.head?, Spells next.1 next.2.toList :=
    fun next h => hrest next (List.mem_of_head? h)
  cases kind with
  | functionKeyword => exact notLed_chars_iff hrest
  | returnKeyword => exact notLed_chars_iff hrest
  | letKeyword => exact notLed_chars_iff hrest
  | number =>
    have hdigit : NotLed Char.isDigit (chars rest) ↔ ∀ next ∈ rest.head?, next.1 ≠ .number := by
      rw [notLed_chars_iff hrest]
      exact forall₂_congr fun next h => notLed_isDigit_iff (hnext next h)
    simp only [Stops, Precedes, hdigit, chars_ne_fraction_iff hrest]
  | word =>
    simp only [Stops, Precedes, notLed_chars_iff hrest, not_forall, exists_prop]
  | space =>
    simp only [Stops, Precedes]
    rw [notLed_chars_iff hrest]
    exact forall₂_congr fun next h => notLed_isInlineBlank_iff (hnext next h)
  | lineBreak =>
    have hreturn : text.toList = ['\r'] ↔ text = "\r" := by
      rw [← String.toList_inj]
      rfl
    simp only [Stops, Precedes, hreturn, ne_eq, head?_chars_eq_lineFeed_iff hrest]
  | semicolon => rfl
  | brace => rfl
  | paren => rfl
  | punctuator => rfl
  | other => rfl

/-! ## The lists that a lexer gives back -/

/-- The tokens of the characters of a list are the list itself if and only if it is canonical. -/
theorem lexemes_chars_eq_iff (ls : List (Token.Kind × String)) :
    lexemes (chars ls) = ls ↔ Canonical ls := by
  induction ls with
  | nil => simp [Canonical]
  | cons l rest ih =>
    obtain ⟨kind, text⟩ := l
    constructor
    · intro h
      have hnil : chars ((kind, text) :: rest) ≠ [] := by
        intro hnil
        rw [hnil, lexemes_nil] at h
        simp at h
      obtain ⟨kind', text', rest', heq, hspells, hstops⟩ := exists_spells hnil
      rw [heq, lexemes_append_of_begins (begins_of_spells hspells hstops)] at h
      simp only [List.cons.injEq, Prod.mk.injEq] at h
      obtain ⟨⟨rfl, rfl⟩, hrest⟩ := h
      simp only [chars_cons, String.toList_ofList] at heq
      obtain rfl : chars rest = rest' := List.append_cancel_left heq
      have hcanonical : Canonical rest := ih.1 hrest
      refine ⟨by simpa using hspells, ?_, hcanonical⟩
      rw [← stops_chars_iff hcanonical.spells]
      simpa using hstops
    · rintro ⟨hspells, hprecedes, hcanonical⟩
      have hstops := (stops_chars_iff hcanonical.spells).2 hprecedes
      rw [chars_cons, lexemes_append_of_begins (begins_of_spells hspells hstops),
        ih.2 hcanonical, String.ofList_toList]

/-- A lexer that passes over unknown characters gives a list of kinds and texts back from the texts,
written one after the other, if and only if the list is canonical. -/
theorem readAll_join_eq_iff_canonical (channel : Channel) (ls : List (Token.Kind × String)) :
    (ofSource (String.join (ls.map Prod.snd)) .recover channel).readAll.1.map
      (fun t => (t.kind, t.text)) = ls ↔ Canonical ls := by
  have hchars : (String.join (ls.map Prod.snd)).toList = chars ls := by
    rw [String.toList_join, List.flatMap_map, chars]
  rw [readAll_eq _ rfl (Or.inl rfl), Token.map_place, ofSource, hchars]
  exact lexemes_chars_eq_iff ls

example : Canonical [(.word, "function"), (.other, "é"), (.number, "1.5"), (.other, "."),
    (.number, "2"), (.lineBreak, "\r"), (.lineBreak, "\r\n")] := by
  decide +kernel

example : ¬Canonical [(.number, "1"), (.other, "."), (.number, "5")] := by
  decide +kernel

end Summand.Lexer
