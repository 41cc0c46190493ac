import Mathlib.Data.List.Chain
import Summand.Proofs.Token.Lexemes

/-!
# The tokens cover the source

A lexer keeps the characters that it has not consumed and counts the bytes that it has.  This file
ties the two to the source.  `Lexer.Behind` says where a lexer stands: behind some tokens of the
source, in front of the others, with the byte count that belongs to that place.  What a single step
can do is said once (`next?_cases`), and from it follows that every step leaves the lexer at such a
place (`Behind.next`).

The main statement is `readAll_covers`: passing over unknown characters, a lexer loses nothing.  The
spans of its tokens follow each other from the first byte of the source to the last, never cut a
character, and cut out just the texts of the tokens; and no more tokens are read than there are
characters.
-/

namespace Summand

open Token.Kind

/-! ## Pieces of a text -/

/-- Both ends of the span lie between two characters of the text or at one of its ends, and the
piece is what lies between them. -/
def Span.Cuts (span : Span) (source piece : String) : Prop :=
  ∃ (hstart : (⟨span.start⟩ : String.Pos.Raw).IsValid source)
    (hstop : (⟨span.stop⟩ : String.Pos.Raw).IsValid source),
    source.extract (source.pos ⟨span.start⟩ hstart) (source.pos ⟨span.stop⟩ hstop) = piece

/-- A piece in the middle of a text is cut out by the bytes in front of it and its own. -/
lemma Span.cuts_append (before piece after : String) :
    Span.Cuts ⟨before.utf8ByteSize, before.utf8ByteSize + piece.utf8ByteSize⟩
      (before ++ piece ++ after) piece := by
  have hstart : (⟨before.utf8ByteSize⟩ : String.Pos.Raw).IsValid (before ++ piece ++ after) := by
    rw [String.Pos.Raw.isValid_iff_exists_append]
    exact ⟨before, piece ++ after, String.append_assoc, rfl⟩
  have hstop : (⟨before.utf8ByteSize + piece.utf8ByteSize⟩ : String.Pos.Raw).IsValid
      (before ++ piece ++ after) := by
    rw [String.Pos.Raw.isValid_iff_exists_append]
    refine ⟨before ++ piece, after, rfl, ?_⟩
    rw [String.Pos.Raw.ext_iff, String.byteIdx_rawEndPos, String.utf8ByteSize_append]
  refine ⟨hstart, hstop, ?_⟩
  apply String.toByteArray_inj.1
  have hskip := ByteArray.extract_append_size_add (a := before.toByteArray)
    (b := piece.toByteArray ++ after.toByteArray) (i := 0) (j := piece.toByteArray.size)
  simp only [String.toByteArray_extract, String.offset_pos, String.toByteArray_append,
    ← String.size_toByteArray, ByteArray.append_assoc]
  rw [Nat.add_zero] at hskip
  rw [hskip]
  exact ByteArray.extract_append_eq_left rfl

/-! ## Tokens that are placed one behind the other -/

namespace Token

/-- The first of the placed tokens is at the offset. -/
lemma position_of_mem_head?_place {position : Nat} {ls : List (Kind × String)} {t : Token}
    (ht : t ∈ (place position ls).head?) : t.position = position := by
  cases ls with
  | nil => simp at ht
  | cons l rest =>
    obtain ⟨kind, text⟩ := l
    simp only [place_cons, List.head?_cons, Option.mem_some_iff] at ht
    rw [← ht]

/-- Each of the placed tokens starts where the one before it stops. -/
lemma isChain_place (position : Nat) (ls : List (Kind × String)) :
    (place position ls).IsChain fun t u => u.position = t.span.stop := by
  induction ls generalizing position with
  | nil => exact .nil
  | cons l rest ih =>
    obtain ⟨kind, text⟩ := l
    rw [place_cons, List.isChain_cons]
    refine ⟨?_, ih _⟩
    intro u hu
    exact position_of_mem_head?_place hu

/-- The last of the placed tokens stops behind all the bytes of their texts. -/
lemma stop_of_mem_getLast?_place {position : Nat} {ls : List (Kind × String)} {t : Token}
    (ht : t ∈ (place position ls).getLast?) :
    t.span.stop = position + (String.join (ls.map Prod.snd)).utf8ByteSize := by
  induction ls generalizing position with
  | nil => simp at ht
  | cons l rest ih =>
    obtain ⟨kind, text⟩ := l
    rw [List.map_cons, String.join_cons, String.utf8ByteSize_append, ← Nat.add_assoc]
    cases rest with
    | nil =>
      simp only [place_cons, place_nil, List.getLast?_singleton, Option.mem_some_iff] at ht
      rw [← ht]
      simp [span]
    | cons next rest =>
      obtain ⟨kind', text'⟩ := next
      rw [place_cons, place_cons, List.getLast?_cons_cons, ← place_cons] at ht
      exact ih ht

/-- A placed token has the texts in front of it as the bytes up to its place. -/
lemma exists_append_of_mem_place {position : Nat} {ls : List (Kind × String)} {t : Token}
    (ht : t ∈ place position ls) :
    ∃ before after, ls = before ++ (t.kind, t.text) :: after ∧
      t.position = position + (String.join (before.map Prod.snd)).utf8ByteSize := by
  induction ls generalizing position with
  | nil => simp at ht
  | cons l rest ih =>
    obtain ⟨kind, text⟩ := l
    rw [place_cons, List.mem_cons] at ht
    rcases ht with rfl | ht
    · exact ⟨[], rest, rfl, by simp⟩
    · obtain ⟨before, after, rfl, hposition⟩ := ih ht
      refine ⟨(kind, text) :: before, after, rfl, ?_⟩
      rw [hposition, List.map_cons, String.join_cons, String.utf8ByteSize_append, Nat.add_assoc]

/-- The span of a placed token cuts its text out of all the texts. -/
lemma cuts_of_mem_place {ls : List (Kind × String)} {t : Token} (ht : t ∈ place 0 ls) :
    t.span.Cuts (String.join (ls.map Prod.snd)) t.text := by
  obtain ⟨before, after, rfl, hposition⟩ := exists_append_of_mem_place ht
  have hcuts := Span.cuts_append (String.join (before.map Prod.snd)) t.text
    (String.join (after.map Prod.snd))
  rw [Nat.zero_add] at hposition
  rw [List.map_append, List.map_cons, String.join_append, String.join_cons, ← String.append_assoc,
    span, hposition]
  exact hcuts

/-- A later one of the placed tokens does not start before an earlier one has stopped. -/
lemma pairwise_place (position : Nat) (ls : List (Kind × String)) :
    (place position ls).Pairwise fun t u => t.span.stop ≤ u.span.start := by
  induction ls generalizing position with
  | nil => exact .nil
  | cons l rest ih =>
    obtain ⟨kind, text⟩ := l
    rw [place_cons, List.pairwise_cons]
    refine ⟨?_, ih _⟩
    intro u hu
    obtain ⟨before, after, -, hposition⟩ := exists_append_of_mem_place hu
    simp only [span]
    omega

/-- The span of a token is empty only if its text is. -/
lemma start_lt_stop_iff (t : Token) : t.span.start < t.span.stop ↔ t.text ≠ "" := by
  have hempty : t.text.utf8ByteSize = 0 ↔ t.text = "" := String.utf8ByteSize_eq_zero_iff
  rw [ne_eq, ← hempty]
  simp only [span]
  omega

end Token

/-! ## Spans one behind the other -/

/-- None of the spans is empty, and each of them stops before the next one starts. -/
structure Span.Ascending (spans : List Span) : Prop where
  nonempty : ∀ span ∈ spans, span.start < span.stop
  apart : spans.Pairwise fun a b => a.stop ≤ b.start

/-- Some of the spans follow each other if all do. -/
lemma Span.Ascending.sublist {spans spans' : List Span} (h : Ascending spans)
    (hsublist : spans'.Sublist spans) : Ascending spans' := by
  refine ⟨?_, h.apart.sublist hsublist⟩
  intro span hspan
  exact h.nonempty span (hsublist.subset hspan)

/-- Spans that follow each other are different from each other. -/
lemma Span.Ascending.nodup {spans : List Span} (h : Ascending spans) : spans.Nodup := by
  refine h.apart.imp_of_mem ?_
  rintro a b ha - hapart rfl
  have hnonempty := h.nonempty a ha
  omega

namespace Lexer

/-- No token of a text is empty. -/
lemma text_ne_empty_of_mem_lexemes (cs : List Char) : ∀ l ∈ lexemes cs, l.2 ≠ "" := by
  induction cs using tokenInduction with
  | nil => simp
  | token kind text rest hbegins ih =>
    rw [lexemes_append_of_begins hbegins]
    intro l hl
    rcases List.mem_cons.1 hl with rfl | hl
    · intro hempty
      apply hbegins.1
      have hchars := congrArg String.toList hempty
      rwa [String.toList_ofList] at hchars
    · exact ih l hl

/-- No placed token of a text is empty. -/
lemma text_ne_empty_of_mem_placed {position : Nat} {source : String} {t : Token}
    (ht : t ∈ placed position source) : t.text ≠ "" := by
  obtain ⟨before, after, hlexemes, -⟩ := Token.exists_append_of_mem_place ht
  apply text_ne_empty_of_mem_lexemes source.toList (t.kind, t.text)
  rw [hlexemes]
  exact List.mem_append_right before List.mem_cons_self

/-- A text has no more tokens than characters. -/
lemma length_lexemes_le (cs : List Char) : (lexemes cs).length ≤ cs.length := by
  induction cs using tokenInduction with
  | nil => simp
  | token kind text rest hbegins ih =>
    have hpos := List.length_pos_iff.2 hbegins.1
    rw [lexemes_append_of_begins hbegins, List.length_cons, List.length_append]
    omega

/-! ## Where a lexer stands -/

/-- The lexer after it has remarked on a token. -/
def remarking (lexer : Lexer) (t : Token) : Lexer :=
  { lexer with channel := lexer.channel.send t.unknownCharacter?.toList }

/-- What can come of a call for the next token.  There is one only if the lexer has not halted; it
is the first of the text, and is remarked on.  The lexer then halts in front of it or goes on
behind it. -/
lemma next?_cases {lexer after : Lexer} {t : Token} (h : lexer.next? = some (t, after)) :
    lexer.halted = false ∧ ∃ text rest, lexer.rest = text ++ rest ∧ Begins t.kind text rest ∧
      t = ⟨t.kind, String.ofList text, lexer.position⟩ ∧
      ((t.kind = .other ∧ lexer.policy = .halt ∧
          after = { lexer.remarking t with halted := true }) ∨
        ((lexer.policy = .recover ∨ t.kind ≠ .other) ∧
          after = { lexer.remarking t with rest := rest, position := t.span.stop })) := by
  have hgo : lexer.halted = false := by
    by_contra hhalted
    simp [next?, peek?, hhalted] at h
  have hnil : lexer.rest ≠ [] := by
    intro hnil
    simp [next?, peek?, hnil] at h
  obtain ⟨kind, text, rest, hrest, hspells, hstops⟩ := exists_spells hnil
  have hbegins := begins_of_spells hspells hstops
  rw [next?_of_begins hgo hrest hbegins, Option.some.injEq, Prod.mk.injEq] at h
  obtain ⟨rfl, rfl⟩ := h
  refine ⟨hgo, text, rest, hrest, hbegins, rfl, ?_⟩
  by_cases hhalts : kind = .other ∧ lexer.policy = .halt
  · refine Or.inl ⟨hhalts.1, hhalts.2, ?_⟩
    simp [pass, hhalts, remarking]
  · have hpass : lexer.policy = .recover ∨ kind ≠ .other := by
      by_cases hkind : kind = .other
      · cases hpolicy : lexer.policy with
        | halt => exact absurd ⟨hkind, hpolicy⟩ hhalts
        | recover => exact Or.inl rfl
      · exact Or.inr hkind
    exact Or.inr ⟨hpass, pass_of_passable hrest hpass⟩

/-- What is left of the source has a first token and the tokens behind it. -/
lemma placed_remainder_of_begins {lexer : Lexer} {kind : Token.Kind} {text rest : List Char}
    (hrest : lexer.rest = text ++ rest) (h : Begins kind text rest) :
    placed lexer.position lexer.remainder =
      ⟨kind, String.ofList text, lexer.position⟩ ::
        placed (Token.span ⟨kind, String.ofList text, lexer.position⟩).stop (String.ofList rest) := by
  unfold placed remainder
  rw [hrest, String.toList_ofList, String.toList_ofList, lexemes_append_of_begins h]
  rfl

/-- The lexer stands behind these tokens of the source: it has consumed their bytes, and what is left
holds the other tokens. -/
structure Behind (source : String) (read : List Token) (lexer : Lexer) : Prop where
  text : String.join (read.map Token.text) ++ lexer.remainder = source
  position : lexer.position = (String.join (read.map Token.text)).utf8ByteSize
  tokens : placed 0 source = read ++ placed lexer.position lexer.remainder

/-- At the start nothing has been read. -/
lemma behind_ofSource (source : String) (policy : UnknownPolicy) (channel : Channel) :
    Behind source [] (ofSource source policy channel) := by
  refine ⟨?_, rfl, ?_⟩
  · simp [remainder, ofSource]
  · simp [remainder, ofSource]

/-- A lexer that goes on is behind one token more, and one that halts is where it was. -/
lemma Behind.next {source : String} {read : List Token} {lexer after : Lexer} {t : Token}
    (h : Behind source read lexer) (hnext : lexer.next? = some (t, after)) :
    (after.halted = true ∧ Behind source read after) ∨
      (after.halted = false ∧ Behind source (read ++ [t]) after) := by
  obtain ⟨hgo, text, rest, hrest, hbegins, ht, hcases⟩ := next?_cases hnext
  rcases hcases with ⟨-, -, rfl⟩ | ⟨-, rfl⟩
  · exact Or.inl ⟨rfl, h.text, h.position, h.tokens⟩
  · have htext : t.text = String.ofList text := by rw [ht]
    have hplace : t.position = lexer.position := by rw [ht]
    refine Or.inr ⟨hgo, ?_, ?_, ?_⟩
    · rw [← h.text]
      simp [remainder, hrest, htext, String.append_assoc]
    · simp [Token.span, hplace, h.position]
    · rw [h.tokens, placed_remainder_of_begins hrest hbegins, ← ht, List.append_cons]
      rfl

/-- From where a lexer stands to its end, the source is what the lexer has left. -/
lemma Behind.cuts {source : String} {read : List Token} {lexer : Lexer}
    (h : Behind source read lexer) :
    Span.Cuts ⟨lexer.position, source.utf8ByteSize⟩ source lexer.remainder := by
  have hcuts := Span.cuts_append (String.join (read.map Token.text)) lexer.remainder ""
  rw [String.append_empty, h.text, ← h.position] at hcuts
  have hsize : source.utf8ByteSize = lexer.position + lexer.remainder.utf8ByteSize := by
    rw [h.position, ← String.utf8ByteSize_append, h.text]
  rwa [hsize]

/-! ## Reading one token after the other -/

/-- Calls for the next token give the tokens one after the other and lead to the second lexer. -/
inductive Reads : Lexer → List Token → Lexer → Prop
  | refl (lexer : Lexer) : Reads lexer [] lexer
  | token {lexer after last : Lexer} {t : Token} {tokens : List Token}
      (next : lexer.next? = some (t, after)) (rest : Reads after tokens last) :
      Reads lexer (t :: tokens) last

/-- All tokens are read by such calls. -/
lemma reads_readAll (lexer : Lexer) : Reads lexer lexer.readAll.1 lexer.readAll.2 := by
  fun_induction readAll lexer with
  | case1 lexer hnext => exact .refl lexer
  | case2 lexer t after hnext tokens last hread ih =>
    rw [hread] at ih
    exact .token hnext ih

/-- When all tokens are read, there is no next one. -/
lemma next?_readAll (lexer : Lexer) : lexer.readAll.2.next? = none := by
  fun_induction readAll lexer with
  | case1 lexer hnext => exact hnext
  | case2 lexer t after hnext tokens last hread ih =>
    rw [hread] at ih
    exact ih

/-- A lexer that passes over unknown characters stays behind what it has read. -/
lemma Behind.reads {source : String} {read tokens : List Token} {lexer last : Lexer}
    (h : Behind source read lexer) (hpolicy : lexer.policy = .recover)
    (hreads : Reads lexer tokens last) : Behind source (read ++ tokens) last := by
  induction hreads generalizing read with
  | refl lexer => rwa [List.append_nil]
  | @token lexer after last t tokens next rest ih =>
    obtain ⟨hgo, _, _, -, -, -, hcases⟩ := next?_cases next
    have hafter : after.policy = .recover ∧ after.halted = false := by
      rcases hcases with ⟨-, hhalt, -⟩ | ⟨-, rfl⟩
      · rw [hpolicy] at hhalt
        simp at hhalt
      · exact ⟨hpolicy, hgo⟩
    rcases h.next next with ⟨hhalted, -⟩ | ⟨-, hbehind⟩
    · rw [hafter.2] at hhalted
      simp at hhalted
    · have hlast := ih hbehind hafter.1
      rwa [List.append_assoc] at hlast

/-- Whatever its policy, a lexer reads tokens of its text in their order, from the first on. -/
theorem readAll_prefix_placed (lexer : Lexer) (hgo : lexer.halted = false) :
    lexer.readAll.1 <+: placed lexer.position lexer.remainder := by
  fun_induction readAll lexer with
  | case1 lexer hnext => exact List.nil_prefix
  | case2 lexer t after hnext tokens last hread ih =>
    obtain ⟨-, text, rest, hrest, hbegins, ht, hcases⟩ := next?_cases hnext
    rw [placed_remainder_of_begins hrest hbegins, ← ht, List.cons_prefix_cons]
    refine ⟨rfl, ?_⟩
    rw [hread] at ih
    rcases hcases with ⟨-, -, rfl⟩ | ⟨-, rfl⟩
    · -- A lexer that has halted reads nothing more.
      have hend : (tokens, last) = ([], _) :=
        hread.symm.trans (readAll_of_next?_eq_none (by simp [next?, peek?]))
      rw [(Prod.mk.inj hend).1]
      exact List.nil_prefix
    · exact ih hgo

/-- Passing over unknown characters, a lexer reads all tokens of the source. -/
lemma readAll_recover (source : String) (channel : Channel) :
    (ofSource source .recover channel).readAll.1 = placed 0 source := by
  rw [readAll_eq _ rfl (Or.inl rfl)]
  rfl

/-- The spans of the tokens of a text follow each other. -/
lemma ascending_placed (source : String) :
    Span.Ascending ((placed 0 source).map Token.span) := by
  refine ⟨?_, List.pairwise_map.2 (Token.pairwise_place 0 _)⟩
  intro span hspan
  obtain ⟨t, ht, rfl⟩ := List.mem_map.1 hspan
  rw [Token.start_lt_stop_iff]
  exact text_ne_empty_of_mem_placed ht

/-- Whatever its policy, a lexer reads tokens of the source in their order, from the first on. -/
lemma readAll_ofSource_prefix_placed (source : String) (policy : UnknownPolicy)
    (channel : Channel) : (ofSource source policy channel).readAll.1 <+: placed 0 source := by
  have hread := readAll_prefix_placed (ofSource source policy channel) rfl
  have htext : (ofSource source policy channel).remainder = source := String.ofList_toList
  rwa [htext] at hread

/-- Whatever its policy, the spans of the tokens that a lexer reads follow each other. -/
lemma ascending_readAll (source : String) (policy : UnknownPolicy) (channel : Channel) :
    Span.Ascending ((ofSource source policy channel).readAll.1.map Token.span) :=
  (ascending_placed source).sublist
    ((readAll_ofSource_prefix_placed source policy channel).sublist.map Token.span)

/-- Whatever its policy, the tokens that a lexer reads are spelled as their kinds ask. -/
lemma spells_of_mem_readAll {source : String} {policy : UnknownPolicy} {channel : Channel}
    {t : Token} (ht : t ∈ (ofSource source policy channel).readAll.1) :
    Spells t.kind t.text.toList := by
  have hplaced := (readAll_ofSource_prefix_placed source policy channel).subset ht
  obtain ⟨before, after, hlexemes, -⟩ := Token.exists_append_of_mem_place hplaced
  apply spells_of_mem_lexemes source.toList (t.kind, t.text)
  rw [hlexemes]
  exact List.mem_append_right before List.mem_cons_self

/-! ## Nothing is lost -/

/-- Passing over unknown characters, a lexer loses nothing.  No token is empty, and their texts make
up the source.  The first token is at the first byte, each of the others where the one before it
stops, and the last one stops at the last byte.  Every span lies on boundaries of characters and cuts
the text of its token out of the source, and so does what is left of the source whenever some tokens
have been read.  Calls for the next token come to an end: they give these tokens and no others, and
these are no more than there are characters. -/
theorem readAll_covers (source : String) (channel : Channel) :
    let start := ofSource source .recover channel
    let tokens := start.readAll.1
    (∀ t ∈ tokens, t.text ≠ "") ∧
      String.join (tokens.map Token.text) = source ∧
      (∀ t ∈ tokens.head?, t.position = 0) ∧
      (tokens.IsChain fun t u => u.position = t.span.stop) ∧
      (∀ t ∈ tokens.getLast?, t.span.stop = source.utf8ByteSize) ∧
      (∀ t ∈ tokens, t.span.Cuts source t.text) ∧
      (∀ read lexer, start.Reads read lexer → read <+: tokens ∧
        Span.Cuts ⟨lexer.position, source.utf8ByteSize⟩ source lexer.remainder) ∧
      start.Reads tokens start.readAll.2 ∧ start.readAll.2.next? = none ∧
      tokens.length ≤ source.length := by
  intro start tokens
  have htokens : tokens = placed 0 source := readAll_recover source channel
  have hjoin : String.join ((lexemes source.toList).map Prod.snd) = source := by
    rw [join_lexemes, String.ofList_toList]
  have hkept : tokens.map (fun t => (t.kind, t.text)) = lexemes source.toList := by
    rw [htokens, placed, Token.map_place]
  have htexts : tokens.map Token.text = (lexemes source.toList).map Prod.snd := by
    rw [← hkept, List.map_map]
    rfl
  refine ⟨?_, ?_, ?_, ?_, ?_, ?_, ?_, ?_, ?_, ?_⟩
  · intro t ht
    rw [htokens] at ht
    exact text_ne_empty_of_mem_placed ht
  · rw [htexts, hjoin]
  · intro t ht
    rw [htokens] at ht
    exact Token.position_of_mem_head?_place ht
  · rw [htokens]
    exact Token.isChain_place 0 _
  · intro t ht
    rw [htokens] at ht
    rw [Token.stop_of_mem_getLast?_place ht, hjoin, Nat.zero_add]
  · intro t ht
    rw [htokens] at ht
    have hcuts := Token.cuts_of_mem_place ht
    rwa [hjoin] at hcuts
  · intro read lexer hreads
    have hbehind := (behind_ofSource source .recover channel).reads rfl hreads
    rw [List.nil_append] at hbehind
    refine ⟨?_, hbehind.cuts⟩
    rw [htokens, hbehind.tokens]
    exact List.prefix_append _ _
  · exact reads_readAll start
  · exact next?_readAll start
  · have hlength := length_lexemes_le source.toList
    rwa [← hkept, List.length_map, String.length_toList] at hlength

end Lexer

end Summand
