import Mathlib.Data.List.DropRight
import Summand.Text.Blank

/-!
# Trimming

What is left of a text when it is trimmed stands between blanks, and is the whole text between them:
it neither starts nor ends with a blank (`trims_iff`).  So a text that has been trimmed is left as it is.
-/

namespace Summand.Text

/-- Trimming is dropping blanks at the end of what starts with none. -/
lemma trimChars_eq_rdropWhile (cs : List Char) :
    trimChars cs = (cs.dropWhile isBlank).rdropWhile isBlank :=
  rfl

/-- A trimmed text has no other characters than the text. -/
lemma mem_of_mem_trimChars {cs : List Char} {c : Char} (h : c ∈ trimChars cs) : c ∈ cs := by
  rw [trimChars_eq_rdropWhile] at h
  exact (List.dropWhile_suffix isBlank).subset ((List.rdropWhile_prefix isBlank _).subset h)

/-- A trimmed text starts with no blank. -/
lemma dropWhile_trimChars (cs : List Char) :
    (trimChars cs).dropWhile isBlank = trimChars cs := by
  rw [trimChars_eq_rdropWhile]
  obtain ⟨dropped, hdropped⟩ := List.rdropWhile_prefix isBlank (cs.dropWhile isBlank)
  cases htrimmed : (cs.dropWhile isBlank).rdropWhile isBlank with
  | nil => rfl
  | cons c rest =>
    rw [htrimmed] at hdropped
    have hidempotent := List.dropWhile_idempotent (p := isBlank) cs
    rw [← hdropped, List.dropWhile_eq_self_iff] at hidempotent
    rw [List.dropWhile_eq_self_iff]
    exact fun _ => hidempotent (by simp)

/-- A trimmed text is left as it is. -/
lemma trim_trim (text : String) : trim (trim text) = trim text := by
  apply String.toList_inj.1
  rw [toList_trim, toList_trim, trimChars_eq_rdropWhile (trimChars text.toList),
    dropWhile_trimChars, trimChars_eq_rdropWhile, List.rdropWhile_idempotent]

/-- The characters are the core with blanks on both sides, and the core neither starts nor ends with a
blank. -/
structure Trims (cs core : List Char) : Prop where
  between : ∃ front back, cs = front ++ core ++ back ∧ (∀ c ∈ front, isBlank c) ∧
    ∀ c ∈ back, isBlank c
  head : ∀ c ∈ core.head?, isBlank c = false
  last : ∀ c ∈ core.getLast?, isBlank c = false

/-- No blank is dropped in front of a text that does not start with one. -/
lemma dropWhile_append_of_head {core : List Char} (hcore : core ≠ [])
    (h : ∀ c ∈ core.head?, isBlank c = false) (rest : List Char) :
    (core ++ rest).dropWhile isBlank = core ++ rest := by
  cases core with
  | nil => exact absurd rfl hcore
  | cons c core => exact List.dropWhile_cons_of_neg (by simpa using h)

/-- Trimming leaves the core. -/
lemma Trims.trimChars_eq {cs core : List Char} (h : Trims cs core) : trimChars cs = core := by
  obtain ⟨⟨front, back, rfl, hfront, hback⟩, hhead, hlast⟩ := h
  rw [trimChars, List.append_assoc, List.dropWhile_append_of_pos hfront]
  by_cases hcore : core = []
  · subst hcore
    have hnone : back.dropWhile isBlank = [] := List.dropWhile_eq_nil_iff.2 hback
    simp [hnone]
  · have hreverse : ∀ c ∈ back.reverse, isBlank c := by simpa using hback
    have hkept := dropWhile_append_of_head (List.reverse_ne_nil_iff.2 hcore)
      (by rwa [List.head?_reverse]) []
    rw [List.append_nil] at hkept
    rw [dropWhile_append_of_head hcore hhead, List.reverse_append,
      List.dropWhile_append_of_pos hreverse, hkept, List.reverse_reverse]

/-- What trimming leaves is the core. -/
lemma trims_trimChars (cs : List Char) : Trims cs (trimChars cs) := by
  constructor
  case between =>
    refine ⟨cs.takeWhile isBlank, (cs.dropWhile isBlank).rtakeWhile isBlank, ?_, ?_, ?_⟩
    · rw [trimChars_eq_rdropWhile, List.append_assoc, List.rdropWhile_append_rtakeWhile,
        List.takeWhile_append_dropWhile]
    · exact fun c hc => List.mem_takeWhile_imp hc
    · exact fun c hc => List.mem_rtakeWhile_imp hc
  case head =>
    intro c hc
    have hhead := List.head?_dropWhile_not isBlank (trimChars cs)
    rw [dropWhile_trimChars, hc] at hhead
    exact hhead
  case last =>
    intro c hc
    have hlast := List.head?_dropWhile_not isBlank (cs.dropWhile isBlank).reverse
    rw [trimChars, List.getLast?_reverse] at hc
    rw [hc] at hlast
    exact hlast

/-- A text has one core, which is what trimming leaves. -/
lemma trims_iff {cs core : List Char} : Trims cs core ↔ trimChars cs = core :=
  ⟨Trims.trimChars_eq, fun h => h ▸ trims_trimChars cs⟩

end Summand.Text
