import Summand.Diagnostic.Log
import Summand.Evaluation.Block
import Summand.Proofs.Token.Spelling
import Summand.Text.Escape

/-!
# Texts on one line

A text is on one line if it holds no character that ends a line.  So are all texts that are printed
with fixed parts, names and numbers: the spellings of names and numerals, natural numbers in any base,
numbers in positional form, and any text at all once it is escaped.  What is left of the larger texts,
the remarks, faults and values, is the part that comes from a program.
-/

namespace Summand

namespace Text

/-- No character of the text ends a line. -/
def OneLine (text : String) : Prop :=
  ∀ c ∈ text.toList, isLineEnd c = false

instance (text : String) : Decidable (OneLine text) :=
  inferInstanceAs (Decidable (∀ c ∈ text.toList, isLineEnd c = false))

@[simp] lemma oneLine_append {first second : String} :
    OneLine (first ++ second) ↔ OneLine first ∧ OneLine second := by
  simp only [OneLine, String.toList_append, List.forall_mem_append]

@[simp] lemma oneLine_ofList {cs : List Char} :
    OneLine (String.ofList cs) ↔ ∀ c ∈ cs, isLineEnd c = false := by
  simp only [OneLine, String.toList_ofList]

/-- A text is on one line if all its pieces are. -/
lemma oneLine_join {texts : List String} (h : ∀ text ∈ texts, OneLine text) :
    OneLine (String.join texts) := by
  intro c hc
  rw [String.toList_join, List.mem_flatMap] at hc
  obtain ⟨text, htext, hc⟩ := hc
  exact h text htext c hc

/-! ## Names and numbers -/

/-- The characters of names end no line. -/
lemma isLineEnd_of_isNameChar {c : Char} (h : isNameChar c = true) : isLineEnd c = false := by
  rw [Bool.eq_false_iff]
  intro hend
  simp only [isLineEnd, Bool.or_eq_true, beq_iff_eq] at hend
  rcases hend with rfl | rfl <;> revert h <;> decide

/-- Names are on one line. -/
lemma oneLine_of_isName {text : String} (h : Token.Kind.IsName text.toList) : OneLine text :=
  fun c hc => isLineEnd_of_isNameChar (h.2.1 c hc)

/-- Numerals are on one line. -/
lemma oneLine_of_isNumeral {text : String} (h : Token.Kind.IsNumeral text.toList) :
    OneLine text := by
  intro c hc
  rcases h.isDigit_or_point c hc with hdigit | rfl
  · apply isLineEnd_of_isNameChar
    simp [isNameChar, Char.isAlphanum, hdigit]
  · decide

/-- The digits of a number end no line, up to base sixteen. -/
lemma isLineEnd_of_mem_toDigits {base : Nat} (hbase : 1 < base) (hle : base ≤ 16) (n : Nat) :
    ∀ c ∈ Nat.toDigits base n, isLineEnd c = false := by
  have hdigit : ∀ d < 16, isLineEnd d.digitChar = false := by decide
  induction n using Nat.strongRecOn with
  | ind n ih =>
    rw [Nat.toDigits_eq_if hbase]
    split
    · rw [List.forall_mem_singleton]
      exact hdigit n (by omega)
    · have hlt : n / base < n := Nat.div_lt_self (by omega) hbase
      have hmod : n % base < base := Nat.mod_lt n (by omega)
      rw [List.forall_mem_append, List.forall_mem_singleton]
      exact ⟨ih (n / base) hlt, hdigit (n % base) (by omega)⟩

/-- Natural numbers are on one line. -/
lemma oneLine_toString (n : Nat) : OneLine (toString n) := by
  rw [Nat.toString_eq_ofList_toDigits, oneLine_ofList]
  exact isLineEnd_of_mem_toDigits (by decide) (by decide) n

/-- Decimals in positional form are on one line. -/
lemma oneLine_positional (d : Decimal) : OneLine d.positional := by
  have hdigits := isLineEnd_of_mem_toDigits (by decide : 1 < 10) (by decide) d.digits
  have hzeros (n : Nat) : ∀ c ∈ List.replicate n '0', isLineEnd c = false := by
    intro c hc
    rw [List.eq_of_mem_replicate hc]
    decide
  unfold Decimal.positional
  rw [oneLine_ofList]
  split
  · exact List.forall_mem_append.2 ⟨hdigits, hzeros _⟩
  · split
    · simp only [List.forall_mem_append, List.forall_mem_cons]
      exact ⟨fun c hc => hdigits c (List.mem_of_mem_take hc), by decide,
        fun c hc => hdigits c (List.mem_of_mem_drop hc)⟩
    · simp only [List.cons_append, List.forall_mem_append, List.forall_mem_cons]
      exact ⟨by decide, by decide, hzeros _, hdigits⟩

/-- The text of a number is on one line. -/
lemma oneLine_numberText (x : Float) : OneLine (numberText x) := by
  have hsign (p : Prop) [Decidable p] : OneLine (if p then "-" else "") := by
    split <;> decide
  simp only [numberText]
  split
  · split
    · exact oneLine_append.2 ⟨hsign _, by decide⟩
    · decide
  · split
    · exact oneLine_append.2 ⟨hsign _, by decide⟩
    · exact oneLine_append.2 ⟨hsign _, oneLine_positional _⟩

/-! ## Escaped text -/

/-- The escaped form of a character is on one line: the characters that end a line have an escape of
their own. -/
lemma oneLine_escapeChar (rule : EscapeRule) (c : Char) : OneLine (rule.escapeChar c) := by
  have hself (hreturn : c ≠ '\r') (hfeed : c ≠ '\n') : OneLine c.toString := by
    intro d hd
    obtain rfl : d = c := by simpa [Char.toString] using hd
    simp [isLineEnd, hreturn, hfeed]
  unfold EscapeRule.escapeChar
  split_ifs with hzero htab hreturn hfeed hquote hhidden
  · decide
  · decide
  · decide
  · decide
  · exact oneLine_append.2 ⟨by decide, hself hreturn hfeed⟩
  · refine oneLine_append.2 ⟨oneLine_append.2 ⟨by decide, oneLine_ofList.2 ?_⟩, by decide⟩
    exact isLineEnd_of_mem_toDigits (by decide) (by decide) c.toNat
  · exact hself hreturn hfeed

/-- Escaped text is on one line. -/
lemma oneLine_shown (text : String) : OneLine (shown text) := by
  unfold shown
  cases text.toList with
  | nil => decide
  | cons c rest =>
    refine oneLine_append.2 ⟨oneLine_escapeChar _ c, oneLine_join ?_⟩
    intro escaped hescaped
    obtain ⟨d, -, rfl⟩ := List.mem_map.1 hescaped
    exact oneLine_escapeChar _ d

end Text

open Text

/-! ## Printed texts -/

/-- A remark is on one line if its wording is. -/
lemma Diagnostic.oneLine_text {d : Diagnostic} (h : OneLine d.message) : OneLine d.text := by
  have hkind : OneLine d.kind.text := by
    cases d.kind <;> decide
  simp only [text, oneLine_append]
  exact ⟨⟨⟨⟨hkind, by decide⟩, h⟩, by decide⟩, oneLine_toString _⟩

/-- A fault is worded on one line if the callee is on one. -/
lemma Fault.oneLine_message {callee : String} (h : OneLine callee) (limit : Nat) :
    OneLine (Fault.callDepthExceeded callee limit).message := by
  unfold message
  simp only [oneLine_append]
  exact ⟨⟨⟨⟨by decide, oneLine_toString limit⟩, by decide⟩, h⟩, by decide⟩

/-- A value is printed on one line if it is no function, or the name of the function is on one. -/
lemma Value.oneLine_text {v : Value} (h : ∀ name body, v = .function name body → OneLine name) :
    OneLine v.text := by
  cases v with
  | number x => exact oneLine_numberText x
  | function name body =>
    simp only [text, oneLine_append]
    exact ⟨⟨by decide, h name body rfl⟩, by decide⟩
  | undefined => decide

/-- A log of remarks that are on one line each has as many lines as remarks. -/
lemma Log.count_lineFeed_text {ds : List Diagnostic} (h : ∀ d ∈ ds, OneLine d.text) :
    (Log.empty.reportAll ds).text.toList.count '\n' = ds.length := by
  rw [text, toList_reportAll, toList_empty, List.nil_append, String.toList_join, List.flatMap_map]
  induction ds with
  | nil => rfl
  | cons d ds ih =>
    rw [List.forall_mem_cons] at h
    have hfeed : '\n' ∉ d.text.toList := fun hmem => by
      have hend := h.1 '\n' hmem
      simp [isLineEnd] at hend
    have hline : ("warning: " ++ d.text ++ "\n").toList.count '\n' = 1 := by
      simp [List.count_eq_zero.2 hfeed]
    rw [List.flatMap_cons, List.count_append, hline, ih h.2, List.length_cons]
    omega

end Summand
