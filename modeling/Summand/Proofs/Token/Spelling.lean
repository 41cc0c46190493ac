import Mathlib.Tactic.Common
import Summand.Token.Lexer

/-!
# The texts of each kind of token

The lexer decides what stands at the start of a text by trying patterns in order.  This file says
the same without patterns or order: `Token.Kind.Spells` lists the texts that belong to a kind, and
`Token.Kind.Stops` says what may follow such a text for the token to end with it.

`Token.Kind.Begins` is what the lexer does: the first token of `text ++ rest` has the given kind and
is exactly `text`.  The main statement is `begins_iff`: a token begins a text if and only if it is
spelled as its kind asks and what follows makes it stop.  The proof goes through the first
character, which determines the kind up to the question whether a word is a keyword (`ofFirst`).
-/

namespace Summand.Text

/-! ## Classes of characters by code point -/

/-- The decimal digits by their code points. -/
lemma isDigit_iff {c : Char} : c.isDigit = true ↔ 0x30 ≤ c.toNat ∧ c.toNat ≤ 0x39 :=
  Char.isDigit_iff_toNat

/-- The characters of names by their code points. -/
lemma isNameChar_iff {c : Char} :
    isNameChar c = true ↔ (0x30 ≤ c.toNat ∧ c.toNat ≤ 0x39) ∨ (0x41 ≤ c.toNat ∧ c.toNat ≤ 0x5A) ∨
      c.toNat = 0x5F ∨ (0x61 ≤ c.toNat ∧ c.toNat ≤ 0x7A) := by
  have hunder : c = '_' ↔ c.toNat = 0x5F := Char.toNat_inj.symm
  have hupper : c.isUpper = true ↔ 0x41 ≤ c.toNat ∧ c.toNat ≤ 0x5A :=
    decide_eq_true_iff.trans (and_congr UInt32.le_iff_toNat_le UInt32.le_iff_toNat_le)
  have hlower : c.isLower = true ↔ 0x61 ≤ c.toNat ∧ c.toNat ≤ 0x7A := by
    have hrange : c.isLower = (decide (c.val ≥ 'a'.val) && decide (c.val ≤ 'z'.val)) := rfl
    rw [hrange, Bool.and_eq_true, decide_eq_true_iff, decide_eq_true_iff]
    exact and_congr UInt32.le_iff_toNat_le UInt32.le_iff_toNat_le
  have halphanum : c.isAlphanum = (c.isUpper || c.isLower || c.isDigit) := rfl
  simp only [isNameChar, halphanum, Bool.or_eq_true, beq_iff_eq, hupper, hlower, isDigit_iff,
    hunder]
  omega

/-- Digits are characters of names. -/
lemma isNameChar_of_isDigit {c : Char} (h : c.isDigit = true) : isNameChar c = true := by
  rw [isDigit_iff] at h
  rw [isNameChar_iff]
  exact Or.inl h

/-- What is no character of names is no digit. -/
lemma isDigit_eq_false_of_isNameChar {c : Char} (h : isNameChar c = false) : c.isDigit = false := by
  by_contra hdigit
  rw [Bool.not_eq_false] at hdigit
  rw [isNameChar_of_isDigit hdigit] at h
  exact absurd h (by simp)

/-- What is no word character is no character of names. -/
lemma isNameChar_eq_false_of_isWordChar {c : Char} (h : isWordChar c = false) :
    isNameChar c = false := by
  by_contra hname
  rw [Bool.not_eq_false] at hname
  rw [isWordChar_of_isNameChar hname] at h
  exact absurd h (by simp)

/-- No character of a name is a blank. -/
lemma isBlank_eq_false_of_isNameChar {c : Char} (h : isNameChar c = true) : isBlank c = false := by
  rw [isNameChar_iff] at h
  simp only [isBlank, blankRanges, Ranges.covers, List.any_cons, List.any_nil, Bool.or_false,
    Bool.or_eq_false_iff, Bool.and_eq_false_iff, decide_eq_false_iff_not]
  omega

/-! ## Texts that do not start with a class of characters -/

/-- All characters of a text are tested by going through the text, not through all characters. -/
instance (priority := 2000) decidableForallMem {p : Char → Prop} [DecidablePred p]
    (cs : List Char) : Decidable (∀ c ∈ cs, p c) :=
  List.decidableBAll p cs

/-- The text is empty or starts with a character outside of the class. -/
def NotLed (p : Char → Bool) (cs : List Char) : Prop :=
  ∀ c ∈ cs.head?, p c = false

instance (p : Char → Bool) (cs : List Char) : Decidable (NotLed p cs) :=
  Option.decidableForallMem cs.head?

/-- The empty text starts with no character. -/
@[simp] lemma notLed_nil (p : Char → Bool) : NotLed p [] := by
  simp [NotLed]

/-- A text that is not empty is judged by its first character. -/
@[simp] lemma notLed_cons {p : Char → Bool} {c : Char} {cs : List Char} :
    NotLed p (c :: cs) ↔ p c = false := by
  simp [NotLed]

/-- A text that starts with no word character starts with no character of names. -/
lemma NotLed.isNameChar {cs : List Char} (h : NotLed isWordChar cs) : NotLed isNameChar cs :=
  fun c hc => isNameChar_eq_false_of_isWordChar (h c hc)

/-- A run of characters of a class is all of a text up to a place if and only if it reaches there
and stops there. -/
lemma length_takeWhile_append_eq_iff {p : Char → Bool} {text rest : List Char} :
    ((text ++ rest).takeWhile p).length = text.length ↔
      (∀ c ∈ text, p c = true) ∧ NotLed p rest := by
  induction text with
  | nil =>
    cases rest with
    | nil => simp
    | cons c rest => by_cases hc : p c = true <;> simp [hc]
  | cons c text ih => by_cases hc : p c = true <;> simp [hc, ih]

/-- The run of characters of a class at the start of a text, when it is known where it ends. -/
lemma takeWhile_append_of_notLed {p : Char → Bool} {text rest : List Char}
    (htext : ∀ c ∈ text, p c = true) (hrest : NotLed p rest) :
    (text ++ rest).takeWhile p = text := by
  have hlength := length_takeWhile_append_eq_iff.2 ⟨htext, hrest⟩
  have hprefix : (text ++ rest).takeWhile p <+: text ++ rest := List.takeWhile_prefix p
  exact (List.prefix_of_prefix_length_le hprefix (List.prefix_append text rest)
    (Nat.le_of_eq hlength)).eq_of_length hlength

/-- The run of digits, blanks or the like at the start of a text is positive if its first character
is one of them. -/
lemma length_takeWhile_cons_pos_iff {p : Char → Bool} {c : Char} {cs : List Char} :
    0 < ((c :: cs).takeWhile p).length ↔ p c = true := by
  by_cases hc : p c = true <;> simp [hc]

end Summand.Text

namespace Summand.Token.Kind

open Summand.Text

/-! ## The kind by the first character -/

/-- The kind that a text has by its first character, keywords apart. -/
def ofFirst (c : Char) : Kind :=
  if c.isDigit then .number
  else if isNameChar c then .word
  else if isInlineBlank c then .space
  else if c = ';' then .semicolon
  else if isLineEnd c then .lineBreak
  else if c = '\x7b' ∨ c = '\x7d' then .brace
  else if c = '(' ∨ c = ')' then .paren
  else if c = '=' ∨ c = '+' then .punctuator
  else .other

/-- The word of a keyword. -/
def keyword? : Kind → Option String
  | .functionKeyword => some "function"
  | .returnKeyword => some "return"
  | .letKeyword => some "let"
  | _ => none

/-- A keyword matches by its word. -/
lemma extent_of_keyword? {kind : Kind} {keyword : String} (h : kind.keyword? = some keyword) :
    kind.extent = keywordExtent keyword := by
  cases kind <;> simp only [keyword?, Option.some.injEq, reduceCtorEq] at h <;> subst h <;> rfl

/-- A keyword is a word that starts with a letter. -/
lemma keyword_chars {kind : Kind} {keyword : String} (h : kind.keyword? = some keyword) :
    (∀ c ∈ keyword.toList, isNameChar c = true) ∧ keyword.toList ≠ [] ∧
      NotLed Char.isDigit keyword.toList := by
  cases kind <;> simp only [keyword?, Option.some.injEq, reduceCtorEq] at h <;> subst h <;> decide

/-- A keyword matches where it is written and no word character follows. -/
lemma keywordExtent_append (keyword : String) {rest : List Char} (hrest : NotLed isWordChar rest) :
    keywordExtent keyword (keyword.toList ++ rest) = keyword.toList.length := by
  have hany : rest.head?.any isWordChar = false := by
    rw [Option.any_eq_false]
    intro c hc
    simpa using hrest c hc
  have hprefix : keyword.toList.isPrefixOf (keyword.toList ++ rest) = true :=
    List.isPrefixOf_iff_prefix.2 (List.prefix_append _ _)
  simp [keywordExtent, hprefix, hany]

/-- Where a keyword matches, it is written, and no word character follows. -/
lemma eq_append_of_keywordExtent_pos {keyword : String} {cs : List Char}
    (hpos : 0 < keywordExtent keyword cs) :
    ∃ rest, cs = keyword.toList ++ rest ∧ NotLed isWordChar rest := by
  unfold keywordExtent at hpos
  simp only at hpos
  split at hpos
  · rename_i hmatch
    simp only [Bool.and_eq_true, Bool.not_eq_true', Option.any_eq_false] at hmatch
    obtain ⟨rest, rfl⟩ := List.isPrefixOf_iff_prefix.1 hmatch.1
    refine ⟨rest, rfl, ?_⟩
    intro c hc
    simpa using hmatch.2 c (by simpa using hc)
  · simp at hpos

/-- A number matches where a digit stands. -/
lemma numberExtent_pos_iff {c : Char} {cs : List Char} :
    0 < numberExtent (c :: cs) ↔ c.isDigit = true := by
  by_cases hc : c.isDigit = true
  · have hwhole : 0 < ((c :: cs).takeWhile Char.isDigit).length :=
      length_takeWhile_cons_pos_iff.2 hc
    simp only [hc, iff_true]
    unfold numberExtent
    simp only
    split
    · split <;> omega
    · exact hwhole
  · simp [numberExtent, hc]

/-- A choice of characters matches where one of them stands. -/
lemma oneOf_pos_iff {choices : List Char} {c : Char} {cs : List Char} :
    0 < oneOf choices (c :: cs) ↔ c ∈ choices := by
  by_cases hc : c ∈ choices <;> simp [oneOf, hc]

/-- A line break matches where a line end stands. -/
lemma lineBreakExtent_pos_iff {c : Char} {cs : List Char} :
    0 < lineBreakExtent (c :: cs) ↔ isLineEnd c = true := by
  unfold lineBreakExtent
  split
  · simp_all [isLineEnd]
  · rename_i hcs
    cases hcs
    split <;> simp_all
  · simp_all

/-- Where no keyword matches, the first character decides. -/
lemma leading_cons {c : Char} {cs : List Char}
    (hkeyword : ∀ kind keyword, keyword? kind = some keyword →
      keywordExtent keyword (c :: cs) = 0) :
    leading (c :: cs) = ofFirst c := by
  have hfunction := hkeyword .functionKeyword _ rfl
  have hreturn := hkeyword .returnKeyword _ rfl
  have hlet := hkeyword .letKeyword _ rfl
  unfold ofFirst
  split_ifs <;>
    simp_all [leading, patterned, extent, numberExtent_pos_iff, oneOf_pos_iff,
      lineBreakExtent_pos_iff]

/-- Where a keyword matches, it decides. -/
lemma leading_of_keyword {kind : Kind} {keyword : String} (h : kind.keyword? = some keyword)
    {cs : List Char} (hpos : 0 < keywordExtent keyword cs) : leading cs = kind := by
  obtain ⟨rest, hcs, -⟩ := eq_append_of_keywordExtent_pos hpos
  cases kind <;> simp only [keyword?, Option.some.injEq, reduceCtorEq] at h <;> subst h
  · simp [leading, patterned, extent, hpos]
  · have hfunction : keywordExtent "function" cs = 0 := by simp [hcs, keywordExtent]
    simp [leading, patterned, extent, hpos, hfunction]
  · have hfunction : keywordExtent "function" cs = 0 := by simp [hcs, keywordExtent]
    have hreturn : keywordExtent "return" cs = 0 := by simp [hcs, keywordExtent]
    simp [leading, patterned, extent, hpos, hfunction, hreturn]

/-- A kind other than a keyword is decided by the first character, and no keyword matches. -/
lemma leading_cons_eq_iff {kind : Kind} (hkind : kind.keyword? = none) {c : Char}
    {cs : List Char} :
    leading (c :: cs) = kind ↔ ofFirst c = kind ∧ ∀ kind' keyword, keyword? kind' = some keyword →
      keywordExtent keyword (c :: cs) = 0 := by
  constructor
  · intro hleading
    have hzero : ∀ kind' keyword, keyword? kind' = some keyword →
        keywordExtent keyword (c :: cs) = 0 := by
      intro kind' keyword hkeyword
      by_contra hne
      have hlead := leading_of_keyword hkeyword (Nat.pos_of_ne_zero hne)
      rw [← hleading, hlead, hkeyword] at hkind
      simp at hkind
    exact ⟨leading_cons hzero ▸ hleading, hzero⟩
  · rintro ⟨rfl, hzero⟩
    exact leading_cons hzero

/-- No keyword matches where no letter stands. -/
lemma keywordExtent_cons_eq_zero {c : Char} (hc : ofFirst c ≠ .word) {cs : List Char} (kind : Kind)
    (keyword : String) (h : kind.keyword? = some keyword) :
    keywordExtent keyword (c :: cs) = 0 := by
  by_contra hne
  obtain ⟨rest, hcs, -⟩ := eq_append_of_keywordExtent_pos (Nat.pos_of_ne_zero hne)
  obtain ⟨hname, hnil, hdigit⟩ := keyword_chars h
  obtain ⟨d, letters, hletters⟩ := List.exists_cons_of_ne_nil hnil
  rw [hletters, List.cons_append] at hcs
  rw [hletters] at hname hdigit
  obtain ⟨rfl, -⟩ := List.cons.inj hcs
  apply hc
  have hname' := hname c (by simp)
  rw [notLed_cons] at hdigit
  simp [ofFirst, hdigit, hname']

/-- A kind other than a keyword or a word is decided by the first character alone. -/
lemma leading_cons_eq_iff_ofFirst {kind : Kind} (hkind : kind.keyword? = none)
    (hword : kind ≠ .word) {c : Char} {cs : List Char} :
    leading (c :: cs) = kind ↔ ofFirst c = kind := by
  rw [leading_cons_eq_iff hkind]
  constructor
  · exact And.left
  · rintro rfl
    exact ⟨rfl, keywordExtent_cons_eq_zero hword⟩

/-! ## Spellings -/

/-- One digit or more. -/
def IsDigits (cs : List Char) : Prop :=
  cs ≠ [] ∧ ∀ c ∈ cs, c.isDigit = true

instance (cs : List Char) : Decidable (IsDigits cs) :=
  inferInstanceAs (Decidable (cs ≠ [] ∧ ∀ c ∈ cs, c.isDigit = true))

/-- Digits, or digits with a point between them. -/
def IsNumeral (cs : List Char) : Prop :=
  IsDigits cs ∨
    ∃ whole fraction, IsDigits whole ∧ IsDigits fraction ∧ cs = whole ++ '.' :: fraction

/-- A numeral has no other characters than digits and a point. -/
lemma IsNumeral.isDigit_or_point {cs : List Char} (h : IsNumeral cs) :
    ∀ c ∈ cs, c.isDigit = true ∨ c = '.' := by
  rcases h with ⟨-, hdigits⟩ | ⟨whole, fraction, ⟨-, hwhole⟩, ⟨-, hfraction⟩, rfl⟩
  · exact fun c hc => Or.inl (hdigits c hc)
  · rw [List.forall_mem_append, List.forall_mem_cons]
    exact ⟨fun c hc => Or.inl (hwhole c hc), Or.inr rfl, fun c hc => Or.inl (hfraction c hc)⟩

/-- It is enough to look at the digits in front of the point and at those behind it. -/
lemma isNumeral_iff {cs : List Char} :
    IsNumeral cs ↔ IsDigits cs ∨ (IsDigits (cs.takeWhile Char.isDigit) ∧
      (cs.dropWhile Char.isDigit).head? = some '.' ∧
      IsDigits (cs.dropWhile Char.isDigit).tail) := by
  refine or_congr_right ?_
  constructor
  · rintro ⟨whole, fraction, hwhole, hfraction, rfl⟩
    have hpoint : Char.isDigit '.' = false := by decide
    have htake : (whole ++ '.' :: fraction).takeWhile Char.isDigit = whole :=
      takeWhile_append_of_notLed hwhole.2 (notLed_cons.2 hpoint)
    have hdrop : (whole ++ '.' :: fraction).dropWhile Char.isDigit = '.' :: fraction := by
      rw [List.dropWhile_append_of_pos hwhole.2, List.dropWhile_cons_of_neg (by simp [hpoint])]
    rw [htake, hdrop]
    exact ⟨hwhole, rfl, hfraction⟩
  · rintro ⟨hwhole, hpoint, hfraction⟩
    obtain ⟨fraction, hdrop⟩ := List.head?_eq_some_iff.1 hpoint
    rw [hdrop] at hfraction
    refine ⟨_, fraction, hwhole, hfraction, ?_⟩
    rw [← hdrop, List.takeWhile_append_dropWhile]

instance (cs : List Char) : Decidable (IsNumeral cs) :=
  decidable_of_iff' _ isNumeral_iff

/-- Characters of names, the first of them not a digit. -/
def IsName (cs : List Char) : Prop :=
  cs ≠ [] ∧ (∀ c ∈ cs, isNameChar c = true) ∧ NotLed Char.isDigit cs

instance (cs : List Char) : Decidable (IsName cs) :=
  inferInstanceAs (Decidable (_ ∧ _ ∧ _))

/-- The text of one of the three keywords. -/
def IsKeyword (cs : List Char) : Prop :=
  cs = "function".toList ∨ cs = "return".toList ∨ cs = "let".toList

instance (cs : List Char) : Decidable (IsKeyword cs) :=
  inferInstanceAs (Decidable (_ ∨ _ ∨ _))

/-- The texts that belong to a kind. -/
def Spells : Kind → List Char → Prop
  | .functionKeyword, cs => cs = "function".toList
  | .returnKeyword, cs => cs = "return".toList
  | .letKeyword, cs => cs = "let".toList
  | .number, cs => IsNumeral cs
  | .word, cs => IsName cs
  | .space, cs => cs ≠ [] ∧ ∀ c ∈ cs, isBlank c = true ∧ c ≠ '\r' ∧ c ≠ '\n'
  | .semicolon, cs => cs = [';']
  | .lineBreak, cs => cs = ['\r', '\n'] ∨ cs = ['\n'] ∨ cs = ['\r']
  | .brace, cs => cs = ['\x7b'] ∨ cs = ['\x7d']
  | .paren, cs => cs = ['('] ∨ cs = [')']
  | .punctuator, cs => cs = ['='] ∨ cs = ['+']
  | .other, cs =>
    cs.length = 1 ∧ ∀ c ∈ cs, isNameChar c = false ∧ isBlank c = false ∧
      c ∉ [';', '\x7b', '\x7d', '(', ')', '=', '+']

instance : (kind : Kind) → (cs : List Char) → Decidable (Spells kind cs)
  | .functionKeyword, cs => inferInstanceAs (Decidable (cs = _))
  | .returnKeyword, cs => inferInstanceAs (Decidable (cs = _))
  | .letKeyword, cs => inferInstanceAs (Decidable (cs = _))
  | .number, cs => inferInstanceAs (Decidable (IsNumeral cs))
  | .word, cs => inferInstanceAs (Decidable (IsName cs))
  | .space, cs => inferInstanceAs (Decidable (cs ≠ [] ∧ ∀ c ∈ cs, _ ∧ _ ∧ _))
  | .semicolon, cs => inferInstanceAs (Decidable (cs = _))
  | .lineBreak, cs => inferInstanceAs (Decidable (cs = _ ∨ cs = _ ∨ cs = _))
  | .brace, cs => inferInstanceAs (Decidable (cs = _ ∨ cs = _))
  | .paren, cs => inferInstanceAs (Decidable (cs = _ ∨ cs = _))
  | .punctuator, cs => inferInstanceAs (Decidable (cs = _ ∨ cs = _))
  | .other, cs => inferInstanceAs (Decidable (cs.length = 1 ∧ ∀ c ∈ cs, _ ∧ _ ∧ _))

/-- What may follow a text of a kind for the token to end with that text. -/
def Stops : Kind → List Char → List Char → Prop
  | .functionKeyword, _, rest => NotLed isWordChar rest
  | .returnKeyword, _, rest => NotLed isWordChar rest
  | .letKeyword, _, rest => NotLed isWordChar rest
  | .number, text, rest =>
    NotLed Char.isDigit rest ∧
      (IsDigits text → ∀ d more, rest = '.' :: d :: more → d.isDigit = false)
  | .word, text, rest => NotLed isNameChar rest ∧ (IsKeyword text → ¬NotLed isWordChar rest)
  | .space, _, rest => NotLed isInlineBlank rest
  | .lineBreak, text, rest => text = ['\r'] → rest.head? ≠ some '\n'
  | _, _, _ => True

/-- The first token of a text that goes on with `rest` has the kind and is all of `text`. -/
def Begins (kind : Kind) (text rest : List Char) : Prop :=
  text ≠ [] ∧ leading (text ++ rest) = kind ∧ kind.extent (text ++ rest) = text.length

/-- The first token of a text is unique. -/
lemma Begins.unique {kind kind' : Kind} {text text' rest rest' : List Char}
    (h : Begins kind text rest) (h' : Begins kind' text' rest')
    (heq : text ++ rest = text' ++ rest') : kind = kind' ∧ text = text' ∧ rest = rest' := by
  obtain ⟨-, hleading, hextent⟩ := h
  obtain ⟨-, hleading', hextent'⟩ := h'
  have hkind : kind = kind' := by rw [← hleading, ← hleading', heq]
  have hlength : text.length = text'.length := by rw [← hextent, ← hextent', heq, hkind]
  exact ⟨hkind, List.append_inj heq hlength⟩

/-! ### A text that is spelled and stops is the first token -/

/-- A keyword begins a text where it is written and no word character follows. -/
lemma begins_keyword {kind : Kind} {keyword : String} (h : kind.keyword? = some keyword)
    {rest : List Char} (hrest : NotLed isWordChar rest) : Begins kind keyword.toList rest := by
  have hnil : keyword.toList ≠ [] := (keyword_chars h).2.1
  have hextent := keywordExtent_append keyword hrest
  refine ⟨hnil, leading_of_keyword h ?_, ?_⟩
  · rw [hextent]
    exact List.length_pos_iff.2 hnil
  · rw [extent_of_keyword? h, hextent]

/-- A kind other than a keyword or a word begins a text if its first character says so and it
matches just that text. -/
lemma begins_of_ofFirst {kind : Kind} (hkind : kind.keyword? = none) (hword : kind ≠ .word)
    {c : Char} {text rest : List Char} (hc : ofFirst c = kind)
    (hextent : kind.extent (c :: text ++ rest) = (c :: text).length) :
    Begins kind (c :: text) rest := by
  refine ⟨List.cons_ne_nil c text, ?_, hextent⟩
  rw [List.cons_append, leading_cons_eq_iff_ofFirst hkind hword]
  exact hc

/-- A run of digits without a fraction behind it is all of the number. -/
lemma numberExtent_whole {whole rest : List Char} (hwhole : IsDigits whole)
    (hrest : NotLed Char.isDigit rest)
    (hpoint : ∀ d more, rest = '.' :: d :: more → d.isDigit = false) :
    numberExtent (whole ++ rest) = whole.length := by
  have htake : (whole ++ rest).takeWhile Char.isDigit = whole :=
    takeWhile_append_of_notLed hwhole.2 hrest
  simp only [numberExtent, htake, List.drop_left]
  split
  · rename_i more _
    have hfraction : more.takeWhile Char.isDigit = [] := by
      cases more with
      | nil => rfl
      | cons d more => simp [hpoint d more rfl]
    simp [hfraction]
  · rfl

/-- Digits, a point and digits up to no further digit are a number. -/
lemma numberExtent_fraction {whole fraction rest : List Char} (hwhole : IsDigits whole)
    (hfraction : IsDigits fraction) (hrest : NotLed Char.isDigit rest) :
    numberExtent ((whole ++ '.' :: fraction) ++ rest) = (whole ++ '.' :: fraction).length := by
  have hpoint : NotLed Char.isDigit ('.' :: (fraction ++ rest)) := by
    rw [notLed_cons]
    decide
  have htake : (whole ++ '.' :: (fraction ++ rest)).takeWhile Char.isDigit = whole :=
    takeWhile_append_of_notLed hwhole.2 hpoint
  have htake' : (fraction ++ rest).takeWhile Char.isDigit = fraction :=
    takeWhile_append_of_notLed hfraction.2 hrest
  have hempty : whole.isEmpty = false := by simpa using hwhole.1
  rw [List.append_assoc, List.cons_append]
  simp only [numberExtent, htake, List.drop_left, hempty, htake', List.isEmpty_iff, hfraction.1,
    if_false, List.length_append, List.length_cons]
  omega

/-- A digit starts a number. -/
lemma ofFirst_of_isDigit {c : Char} (hc : c.isDigit = true) : ofFirst c = .number := by
  simp [ofFirst, hc]

/-- A number begins a text that does not go on with a digit or a fraction. -/
lemma begins_number {text rest : List Char} (htext : IsNumeral text) (hrest : Stops .number text rest) :
    Begins .number text rest := by
  have hextent : numberExtent (text ++ rest) = text.length := by
    rcases htext with hdigits | ⟨whole, fraction, hwhole, hfraction, rfl⟩
    · exact numberExtent_whole hdigits hrest.1 (hrest.2 hdigits)
    · exact numberExtent_fraction hwhole hfraction hrest.1
  have hfirst : ∃ c more, text = c :: more ∧ c.isDigit = true := by
    rcases htext with ⟨hnil, hdigits⟩ | ⟨whole, fraction, ⟨hnil, hdigits⟩, -, rfl⟩
    · obtain ⟨c, more, rfl⟩ := List.exists_cons_of_ne_nil hnil
      exact ⟨c, more, rfl, hdigits c (by simp)⟩
    · obtain ⟨c, more, rfl⟩ := List.exists_cons_of_ne_nil hnil
      exact ⟨c, _, rfl, hdigits c (by simp)⟩
  obtain ⟨c, more, rfl, hc⟩ := hfirst
  exact begins_of_ofFirst rfl (by simp) (ofFirst_of_isDigit hc) hextent

/-- A name begins a text that does not go on with a character of names, unless it is a keyword that
ends there. -/
lemma begins_word {text rest : List Char} (htext : IsName text) (hrest : Stops .word text rest) :
    Begins .word text rest := by
  obtain ⟨hnil, hname, hdigit⟩ := htext
  have hextent : ((text ++ rest).takeWhile isNameChar).length = text.length :=
    length_takeWhile_append_eq_iff.2 ⟨hname, hrest.1⟩
  have hzero : ∀ kind keyword, keyword? kind = some keyword →
      keywordExtent keyword (text ++ rest) = 0 := by
    intro kind keyword hkeyword
    by_contra hne
    -- A keyword that matches is, like the name, the longest run of characters of names.
    obtain ⟨rest', heq, hrest'⟩ := eq_append_of_keywordExtent_pos (Nat.pos_of_ne_zero hne)
    have htake := takeWhile_append_of_notLed hname hrest.1
    have htake' := takeWhile_append_of_notLed (keyword_chars hkeyword).1 hrest'.isNameChar
    have htext : text = keyword.toList := by rw [← htake, heq, htake']
    subst htext
    have hkey : IsKeyword keyword.toList := by
      cases kind <;> simp only [keyword?, Option.some.injEq, reduceCtorEq] at hkeyword <;>
        subst hkeyword <;> simp [IsKeyword]
    rw [List.append_cancel_left heq] at hrest
    exact hrest.2 hkey hrest'
  obtain ⟨c, more, rfl⟩ := List.exists_cons_of_ne_nil hnil
  have hc : ofFirst c = .word := by
    rw [notLed_cons] at hdigit
    simp [ofFirst, hdigit, hname c (by simp)]
  exact ⟨hnil, (leading_cons_eq_iff rfl).2 ⟨hc, hzero⟩, hextent⟩

/-- An inline blank is a blank that ends no line. -/
lemma isInlineBlank_iff {c : Char} :
    isInlineBlank c = true ↔ isBlank c = true ∧ c ≠ '\r' ∧ c ≠ '\n' := by
  simp only [isInlineBlank, isLineEnd, Bool.and_eq_true, Bool.not_eq_true', Bool.or_eq_false_iff,
    beq_eq_false_iff_ne, ne_eq]
  tauto

/-- An inline blank starts a space. -/
lemma ofFirst_of_isInlineBlank {c : Char} (hc : isInlineBlank c = true) : ofFirst c = .space := by
  have hname : isNameChar c = false := by
    by_contra hname
    rw [Bool.not_eq_false] at hname
    have hblank := isBlank_eq_false_of_isNameChar hname
    simp [isInlineBlank, hblank] at hc
  have hdigit : c.isDigit = false := isDigit_eq_false_of_isNameChar hname
  simp [ofFirst, hdigit, hname, hc]

/-- Blanks begin a text that does not go on with a blank on the line. -/
lemma begins_space {text rest : List Char} (htext : Spells .space text)
    (hrest : NotLed isInlineBlank rest) : Begins .space text rest := by
  obtain ⟨hnil, hblank⟩ := htext
  have hinline : ∀ c ∈ text, isInlineBlank c = true := fun c hc => isInlineBlank_iff.2 (hblank c hc)
  have hextent : ((text ++ rest).takeWhile isInlineBlank).length = text.length :=
    length_takeWhile_append_eq_iff.2 ⟨hinline, hrest⟩
  obtain ⟨c, more, rfl⟩ := List.exists_cons_of_ne_nil hnil
  exact begins_of_ofFirst rfl (by simp) (ofFirst_of_isInlineBlank (hinline c (by simp))) hextent

/-- A line break begins a text; only a carriage return asks what follows. -/
lemma begins_lineBreak {text rest : List Char} (htext : Spells .lineBreak text)
    (hrest : Stops .lineBreak text rest) : Begins .lineBreak text rest := by
  rcases htext with rfl | rfl | rfl
  · exact begins_of_ofFirst rfl (by simp) (by decide) rfl
  · exact begins_of_ofFirst rfl (by simp) (by decide) rfl
  · have hextent : lineBreakExtent ('\r' :: rest) = 1 := by
      cases rest with
      | nil => rfl
      | cons d rest =>
        have hd : d ≠ '\n' := by simpa [Stops] using hrest
        simp [lineBreakExtent, hd, isLineEnd]
    exact begins_of_ofFirst rfl (by simp) (by decide) hextent

/-- One character of a choice begins every text that it stands in front of. -/
lemma begins_oneOf {kind : Kind} (hkind : kind.keyword? = none) (hword : kind ≠ .word)
    {choices : List Char} (hextent : kind.extent = oneOf choices) {c : Char} (hc : c ∈ choices)
    (hfirst : ofFirst c = kind) (rest : List Char) : Begins kind [c] rest := by
  refine begins_of_ofFirst hkind hword hfirst ?_
  simp [hextent, oneOf, hc]

/-- A character outside of every other class is of the last kind. -/
lemma ofFirst_eq_other_iff {c : Char} :
    ofFirst c = .other ↔ isNameChar c = false ∧ isBlank c = false ∧
      c ∉ [';', '\x7b', '\x7d', '(', ')', '=', '+'] := by
  have hdigit := @isNameChar_of_isDigit c
  have hline := @isBlank_of_isLineEnd c
  simp only [ofFirst, List.mem_cons, List.not_mem_nil, or_false, not_or]
  split_ifs <;> simp_all [isInlineBlank] <;> tauto

/-- A text that is spelled as its kind asks and that stops is the first token. -/
theorem begins_of_spells {kind : Kind} {text rest : List Char} (htext : Spells kind text)
    (hrest : Stops kind text rest) : Begins kind text rest := by
  cases kind with
  | functionKeyword => exact htext ▸ begins_keyword rfl hrest
  | returnKeyword => exact htext ▸ begins_keyword rfl hrest
  | letKeyword => exact htext ▸ begins_keyword rfl hrest
  | number => exact begins_number htext hrest
  | word => exact begins_word htext hrest
  | space => exact begins_space htext hrest
  | semicolon =>
    obtain rfl := htext
    exact begins_oneOf rfl (by simp) rfl (by simp) (by decide) rest
  | lineBreak => exact begins_lineBreak htext hrest
  | brace =>
    rcases htext with rfl | rfl <;>
      exact begins_oneOf rfl (by simp) rfl (by simp) (by decide) rest
  | paren =>
    rcases htext with rfl | rfl <;>
      exact begins_oneOf rfl (by simp) rfl (by simp) (by decide) rest
  | punctuator =>
    rcases htext with rfl | rfl <;>
      exact begins_oneOf rfl (by simp) rfl (by simp) (by decide) rest
  | other =>
    obtain ⟨c, rfl⟩ := List.length_eq_one_iff.1 htext.1
    have hc := htext.2 c (by simp)
    refine begins_of_ofFirst rfl (by simp) (ofFirst_eq_other_iff.2 hc) ?_
    simp [extent]

/-- A line feed is a token of its own, whatever follows. -/
lemma begins_lineFeed (rest : List Char) : Begins .lineBreak ['\n'] rest := by
  refine begins_of_spells (Or.inr (Or.inl rfl)) ?_
  intro h
  simp at h

/-! ### Every text starts with a token that is spelled and stops -/

/-- A text splits behind the run of characters of a class that it starts with. -/
lemma exists_run (p : Char → Bool) (cs : List Char) :
    ∃ run rest, cs = run ++ rest ∧ (∀ c ∈ run, p c = true) ∧ NotLed p rest := by
  refine ⟨cs.takeWhile p, cs.dropWhile p, List.takeWhile_append_dropWhile.symm, ?_, ?_⟩
  · intro c hc
    exact List.all_eq_true.1 List.all_takeWhile c hc
  · intro c hc
    have hnot := List.head?_dropWhile_not p cs
    rw [Option.mem_def] at hc
    rw [hc] at hnot
    exact hnot

/-- A run from the start of a text holds the first character if that is of the class. -/
lemma exists_run_cons {p : Char → Bool} {c : Char} (hc : p c = true) (cs : List Char) :
    ∃ run rest, c :: cs = run ++ rest ∧ run ≠ [] ∧ run.head? = some c ∧
      (∀ c ∈ run, p c = true) ∧ NotLed p rest := by
  obtain ⟨run, rest, rfl, hrun, hrest⟩ := exists_run p cs
  exact ⟨c :: run, rest, rfl, by simp, rfl, by simpa [hc] using hrun, hrest⟩

/-- A text that starts with a digit starts with a number. -/
lemma exists_number {c : Char} (hc : c.isDigit = true) (cs : List Char) :
    ∃ text rest, c :: cs = text ++ rest ∧ Spells .number text ∧ Stops .number text rest := by
  obtain ⟨whole, rest, heq, hnil, -, hwhole, hrest⟩ := exists_run_cons hc cs
  by_cases hpoint : ∃ d more, rest = '.' :: d :: more ∧ d.isDigit = true
  · obtain ⟨d, more, rfl, hd⟩ := hpoint
    obtain ⟨fraction, rest, hmore, hfnil, -, hfraction, hrest⟩ := exists_run_cons hd more
    refine ⟨whole ++ '.' :: fraction, rest, ?_, ?_, hrest, ?_⟩
    · rw [heq, hmore, List.append_assoc, List.cons_append]
    · exact Or.inr ⟨whole, fraction, ⟨hnil, hwhole⟩, ⟨hfnil, hfraction⟩, rfl⟩
    · intro hdigits
      have hdot := hdigits.2 '.' (by simp)
      exact absurd hdot (by decide)
  · refine ⟨whole, rest, heq, Or.inl ⟨hnil, hwhole⟩, hrest, ?_⟩
    intro _ d more hmore
    by_contra hd
    exact hpoint ⟨d, more, hmore, by simpa using hd⟩

/-- A text that starts with a letter starts with a keyword or a name. -/
lemma exists_word {c : Char} (hc : isNameChar c = true) (hdigit : c.isDigit = false)
    (cs : List Char) :
    ∃ kind text rest, c :: cs = text ++ rest ∧ Spells kind text ∧ Stops kind text rest := by
  obtain ⟨name, rest, heq, hnil, hhead, hname, hrest⟩ := exists_run_cons hc cs
  by_cases hkey : IsKeyword name ∧ NotLed isWordChar rest
  · obtain ⟨rfl | rfl | rfl, hword⟩ := hkey
    · exact ⟨.functionKeyword, _, rest, heq, rfl, hword⟩
    · exact ⟨.returnKeyword, _, rest, heq, rfl, hword⟩
    · exact ⟨.letKeyword, _, rest, heq, rfl, hword⟩
  · refine ⟨.word, name, rest, heq, ⟨hnil, hname, ?_⟩, hrest, ?_⟩
    · intro d hd
      rw [hhead, Option.mem_some_iff] at hd
      rw [← hd, hdigit]
    · exact fun h h' => hkey ⟨h, h'⟩

/-- A text that starts with a line end starts with a line break. -/
lemma exists_lineBreak {c : Char} (hc : isLineEnd c = true) (cs : List Char) :
    ∃ text rest, c :: cs = text ++ rest ∧ Spells .lineBreak text ∧ Stops .lineBreak text rest := by
  simp only [isLineEnd, Bool.or_eq_true, beq_iff_eq] at hc
  rcases hc with rfl | rfl
  · exact ⟨['\n'], cs, rfl, Or.inr (Or.inl rfl), by simp [Stops]⟩
  · by_cases hfeed : cs.head? = some '\n'
    · obtain ⟨rest, rfl⟩ := List.head?_eq_some_iff.1 hfeed
      exact ⟨['\r', '\n'], rest, rfl, Or.inl rfl, by simp [Stops]⟩
    · exact ⟨['\r'], cs, rfl, Or.inr (Or.inr rfl), fun _ => hfeed⟩

/-- Every text but the empty one starts with a text that is spelled as some kind asks and stops. -/
lemma exists_spells {cs : List Char} (h : cs ≠ []) :
    ∃ kind text rest, cs = text ++ rest ∧ Spells kind text ∧ Stops kind text rest := by
  obtain ⟨c, cs, rfl⟩ := List.exists_cons_of_ne_nil h
  by_cases hdigit : c.isDigit = true
  · exact ⟨.number, exists_number hdigit cs⟩
  by_cases hname : isNameChar c = true
  · exact exists_word hname (by simpa using hdigit) cs
  by_cases hblank : isInlineBlank c = true
  · obtain ⟨text, rest, heq, hnil, -, htext, hrest⟩ := exists_run_cons hblank cs
    exact ⟨.space, text, rest, heq, ⟨hnil, fun d hd => isInlineBlank_iff.1 (htext d hd)⟩, hrest⟩
  by_cases hline : isLineEnd c = true
  · exact ⟨.lineBreak, exists_lineBreak hline cs⟩
  by_cases hmark : c ∈ [';', '\x7b', '\x7d', '(', ')', '=', '+']
  · simp only [List.mem_cons, List.not_mem_nil, or_false] at hmark
    rcases hmark with rfl | rfl | rfl | rfl | rfl | rfl | rfl
    · exact ⟨.semicolon, [';'], cs, rfl, rfl, trivial⟩
    · exact ⟨.brace, ['\x7b'], cs, rfl, Or.inl rfl, trivial⟩
    · exact ⟨.brace, ['\x7d'], cs, rfl, Or.inr rfl, trivial⟩
    · exact ⟨.paren, ['('], cs, rfl, Or.inl rfl, trivial⟩
    · exact ⟨.paren, [')'], cs, rfl, Or.inr rfl, trivial⟩
    · exact ⟨.punctuator, ['='], cs, rfl, Or.inl rfl, trivial⟩
    · exact ⟨.punctuator, ['+'], cs, rfl, Or.inr rfl, trivial⟩
  · have hnotBlank : isBlank c = false := by simp_all [isInlineBlank]
    have hspells : Spells .other [c] := by
      refine ⟨rfl, fun d hd => ?_⟩
      rw [List.mem_singleton] at hd
      subst hd
      exact ⟨by simpa using hname, hnotBlank, hmark⟩
    exact ⟨.other, [c], cs, rfl, hspells, trivial⟩

/-- A text is the first token of what it starts if and only if it is spelled as the kind asks and
what follows makes it stop. -/
theorem begins_iff {kind : Kind} {text rest : List Char} :
    Begins kind text rest ↔ Spells kind text ∧ Stops kind text rest := by
  constructor
  · intro h
    have hnil : text ++ rest ≠ [] := fun hnil => h.1 (List.append_eq_nil_iff.1 hnil).1
    obtain ⟨kind', text', rest', heq, hspells, hstops⟩ := exists_spells hnil
    obtain ⟨rfl, rfl, rfl⟩ := h.unique (begins_of_spells hspells hstops) heq
    exact ⟨hspells, hstops⟩
  · rintro ⟨hspells, hstops⟩
    exact begins_of_spells hspells hstops

end Summand.Token.Kind
