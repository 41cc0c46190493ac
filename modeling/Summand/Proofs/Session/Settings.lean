import Mathlib.Data.List.Forall2
import Mathlib.Data.Nat.Digits.Defs
import Summand.Proofs.Text.Trimming
import Summand.Proofs.Token.Spelling
import Summand.Session.Config

/-!
# The grammar of settings

The two variables of the environment hold texts, and blanks around a text do not count.  A policy is
denoted by one of its words, in any mixture of cases (`DenotesPolicy`).  A limit is denoted by decimal
digits, with an optional sign in front, if their value is below the bound (`DenotesLimit`).

These are relations between texts and settings, and the readers of the settings decide them
(`policy?_eq_some_iff` and `limit?_eq_some_iff`).  The main statement is `ofLookup_decides_settings`:
reading the configuration fails if and only if a variable holds a text that denotes nothing, and
otherwise each setting is what its own variable asks for.
-/

namespace Summand.Config

open Text

/-! ## Texts and settings -/

/-- The words for a policy, in small letters. -/
def words : UnknownPolicy → List String
  | .recover => ["1", "true", "yes"]
  | .halt => ["", "0", "false", "no"]

/-- The second character is the first one, but small if that is a capital letter from `A` to `Z`. -/
def Lowers (c d : Char) : Prop :=
  if 'A' ≤ c ∧ c ≤ 'Z' then d.toNat = c.toNat + 32 else d = c

/-- The text is a word for the policy, but for blanks around it and capital letters. -/
def DenotesPolicy (text : String) (policy : UnknownPolicy) : Prop :=
  ∃ core, Trims text.toList core ∧ ∃ word ∈ words policy, List.Forall₂ Lowers core word.toList

/-- The text consists of decimal digits, but for blanks around it and a plus sign in front, and the
limit is their value. -/
def DenotesLimit (text : String) (limit : Nat) : Prop :=
  ∃ core digits, Trims text.toList core ∧ (core = digits ∨ core = '+' :: digits) ∧ digits ≠ [] ∧
    (∀ c ∈ digits, '0' ≤ c ∧ c ≤ '9') ∧
    limit = Nat.ofDigits 10 (digits.reverse.map fun c => c.toNat - '0'.toNat) ∧ limit < 2 ^ 64

section

variable {α : Type} (Denotes : String → α → Prop)

/-- What a variable asks for: what its text denotes, or the fallback if it is not set. -/
def Asks (fallback : α) : Option String → α → Prop
  | none, setting => setting = fallback
  | some text, setting => Denotes text setting

/-- The variable is set to the text, which denotes nothing. -/
def Misstates (text? : Option String) (text : String) : Prop :=
  text? = some text ∧ ∀ setting, ¬Denotes text setting

end

/-! ## Policies -/

/-- A character has one small form. -/
lemma lowers_iff {c d : Char} : Lowers c d ↔ c.toLower = d := by
  unfold Lowers
  split
  · rename_i hcapital
    have hval : c.val ≥ 'A'.val ∧ c.val ≤ 'Z'.val := hcapital
    have hbound : c.val.toNat ≤ 90 := hcapital.2
    have hlower : c.toLower.toNat = (c.val + 32).toNat := congrArg Char.toNat (dif_pos hval)
    have hsum : (c.val + 32).toNat = c.toNat + 32 := by
      change (c.val.toNat + 32) % 2 ^ 32 = c.val.toNat + 32
      omega
    rw [← hsum, ← hlower, Char.toNat_inj, eq_comm]
  · rename_i hsmall
    have hval : ¬(c.val ≥ 'A'.val ∧ c.val ≤ 'Z'.val) := hsmall
    have hsame : c.toLower = c := dif_neg hval
    rw [hsame, eq_comm]

/-- So have all characters together. -/
lemma forall₂_lowers_iff {cs ds : List Char} :
    List.Forall₂ Lowers cs ds ↔ cs.map Char.toLower = ds := by
  have hlowers : Lowers = fun c d => c.toLower = d := by
    funext c d
    exact propext lowers_iff
  rw [hlowers, ← List.forall₂_map_left_iff, List.forall₂_eq_eq_eq]

/-- A text denotes a policy if it is one of its words when it is trimmed and put in small letters. -/
lemma denotesPolicy_iff {text : String} {policy : UnknownPolicy} :
    DenotesPolicy text policy ↔ (trim text).map Char.toLower ∈ words policy := by
  constructor
  · rintro ⟨core, htrims, word, hword, hlowers⟩
    have hmap : (trim text).map Char.toLower = word := by
      apply String.toList_inj.1
      rw [String.toList_map, toList_trim, htrims.trimChars_eq]
      exact forall₂_lowers_iff.1 hlowers
    rwa [hmap]
  · intro hword
    refine ⟨_, trims_trimChars _, _, hword, ?_⟩
    rw [forall₂_lowers_iff, String.toList_map, toList_trim]

/-- The policy that is read is the one that the text denotes. -/
lemma policy?_eq_some_iff {text : String} {policy : UnknownPolicy} :
    policy? text = some policy ↔ DenotesPolicy text policy := by
  rw [denotesPolicy_iff, policy?]
  generalize (trim text).map Char.toLower = word
  constructor
  · intro h
    simp only [List.contains_iff_mem] at h
    split_ifs at h with hrecover hhalt
    · obtain rfl := Option.some.inj h
      exact hrecover
    · obtain rfl := Option.some.inj h
      exact hhalt
  · intro hword
    cases policy with
    | recover => exact if_pos (List.contains_iff_mem.2 hword)
    | halt =>
      simp only [words, List.mem_cons, List.not_mem_nil, or_false] at hword
      rcases hword with rfl | rfl | rfl | rfl <;> decide

/-! ## Limits -/

/-- The value of digits is positional. -/
lemma digitsValue_eq_ofDigits (digits : List Char) :
    Literal.digitsValue digits =
      Nat.ofDigits 10 (digits.reverse.map fun c => c.toNat - '0'.toNat) := by
  induction digits using List.reverseRecOn with
  | nil => rfl
  | append_singleton digits c ih =>
    rw [Literal.digitsValue_append_singleton, ih, List.reverse_append, List.reverse_singleton,
      List.singleton_append, List.map_cons, Nat.ofDigits_cons, Nat.add_comm]

/-- Digits lie between zero and nine. -/
lemma forall_isDigit_iff {digits : List Char} :
    (∀ c ∈ digits, c.isDigit) ↔ ∀ c ∈ digits, '0' ≤ c ∧ c ≤ '9' := by
  simp [Char.isDigit, Char.le_def]

/-- A plus sign is split off in front of digits, among which there is none. -/
lemma dropPlus_eq_iff {core digits : List Char} (h : ∀ c ∈ digits, c.isDigit) :
    dropPlus core = digits ↔ core = digits ∨ core = '+' :: digits := by
  unfold dropPlus
  split
  · rename_i rest
    constructor
    · rintro rfl
      exact Or.inr rfl
    · rintro (rfl | hcore)
      · simp at h
      · exact (List.cons.inj hcore).2
  · rename_i hplus
    constructor
    · exact Or.inl
    · rintro (rfl | rfl)
      · rfl
      · exact absurd rfl (hplus digits)

/-- The limit that is read is the one that the text denotes. -/
lemma limit?_eq_some_iff {text : String} {limit : Nat} :
    limit? text = some limit ↔ DenotesLimit text limit := by
  simp only [DenotesLimit, limit?, Option.ite_none_right_eq_some, Bool.and_eq_true,
    Bool.not_eq_eq_eq_not, Bool.not_true, List.isEmpty_eq_false_iff, List.all_eq_true,
    decide_eq_true_eq, Option.some.injEq, toList_trim, trims_iff, ← forall_isDigit_iff,
    ← digitsValue_eq_ofDigits]
  constructor
  · rintro ⟨⟨⟨hne, hdigits⟩, hlt⟩, rfl⟩
    exact ⟨_, _, rfl, (dropPlus_eq_iff hdigits).1 rfl, hne, hdigits, rfl, hlt⟩
  · rintro ⟨core, digits, rfl, hcore, hne, hdigits, rfl, hlt⟩
    rw [(dropPlus_eq_iff hdigits).2 hcore]
    exact ⟨⟨⟨hne, hdigits⟩, hlt⟩, rfl⟩

/-- The decimal text of a number below the bound denotes it, whatever blanks stand around it. -/
lemma denotesLimit_toString {n : Nat} (hn : n < 2 ^ 64) {front back : String}
    (hfront : ∀ c ∈ front.toList, isBlank c) (hback : ∀ c ∈ back.toList, isBlank c) :
    DenotesLimit (front ++ toString n ++ back) n := by
  have hdigits : ∀ c ∈ Nat.toDigits 10 n, c.isDigit := fun c hc =>
    Nat.isDigit_of_mem_toDigits (by decide) (by decide) hc
  have hblank : ∀ c ∈ Nat.toDigits 10 n, isBlank c = false := fun c hc =>
    isBlank_eq_false_of_isNameChar (isNameChar_of_isDigit (hdigits c hc))
  have htrims : Trims (front ++ toString n ++ back).toList (Nat.toDigits 10 n) := by
    refine ⟨⟨front.toList, back.toList, ?_, hfront, hback⟩, ?_, ?_⟩
    · rw [String.toList_append, String.toList_append, Nat.toString_eq_ofList_toDigits,
        String.toList_ofList]
    · exact fun c hc => hblank c (List.mem_of_mem_head? hc)
    · exact fun c hc => hblank c (List.mem_of_getLast? hc)
  refine ⟨_, _, htrims, Or.inl rfl, Nat.toDigits_ne_nil, forall_isDigit_iff.1 hdigits, ?_, hn⟩
  rw [← digitsValue_eq_ofDigits]
  exact (Nat.ofDigitChars_toDigits (by decide) (by decide)).symm

/-! ## One variable -/

section

variable {α : Type} {Denotes : String → α → Prop} {read? : String → Option α}

/-- What is read of a variable is what it asks for. -/
lemma setting_eq_ok_iff (hread : ∀ {text a}, read? text = some a ↔ Denotes text a)
    (error : String → Error) {text? : Option String} {fallback a : α} :
    setting text? read? fallback error = .ok a ↔ Asks Denotes fallback text? a := by
  cases text? with
  | none => simp [setting, Asks, eq_comm]
  | some text =>
    rw [Asks, ← hread, setting]
    cases read? text with
    | none => simp
    | some b => simp

/-- There is an error if a variable misstates its setting, and it has the text as it was given. -/
lemma setting_eq_error_iff (hread : ∀ {text a}, read? text = some a ↔ Denotes text a)
    (fallback : α) {error : String → Error} {text? : Option String} {e : Error} :
    setting text? read? fallback error = .error e ↔
      ∃ text, Misstates Denotes text? text ∧ e = error text := by
  unfold Misstates
  cases text? with
  | none => simp [setting]
  | some text =>
    simp only [← hread, setting]
    cases hsetting : read? text with
    | none => simp [hsetting, eq_comm]
    | some b => simp [hsetting]

/-- A variable that misstates nothing asks for a setting. -/
lemma exists_asks_iff (fallback : α) {text? : Option String} :
    (∃ a, Asks Denotes fallback text? a) ↔ ∀ text, ¬Misstates Denotes text? text := by
  cases text? with
  | none => simp [Asks, Misstates]
  | some text => simp [Asks, Misstates]

end

/-! ## Both variables -/

/-- An error is given by its variable and its text. -/
lemma Error.eq_iff {e e' : Error} :
    e = e' ↔ e.variableName = e'.variableName ∧ e.value = e'.value := by
  cases e <;> cases e' <;> simp [variableName, value, policyVariable, limitVariable]

section

variable {lookup : String → Option String}

/-- A configuration is read if both variables ask for its settings. -/
lemma ofLookup_eq_ok_iff {config : Config} :
    ofLookup lookup = .ok config ↔
      Asks DenotesPolicy default (lookup policyVariable) config.onUnknown ∧
        Asks DenotesLimit defaultCallLimit (lookup limitVariable) config.callLimit := by
  rw [← setting_eq_ok_iff policy?_eq_some_iff .notBoolean,
    ← setting_eq_ok_iff limit?_eq_some_iff .notNatural]
  obtain ⟨onUnknown, callLimit⟩ := config
  unfold ofLookup
  cases setting (lookup policyVariable) policy? default .notBoolean with
  | error e => simp [bind, Except.bind]
  | ok policy =>
    cases setting (lookup limitVariable) limit? defaultCallLimit .notNatural with
    | error e => simp [bind, Except.bind]
    | ok limit => simp [bind, Except.bind, pure, Except.pure]

/-- There is an error if a variable misstates its setting.  The one about the policy comes first. -/
lemma ofLookup_eq_error_iff {e : Error} :
    ofLookup lookup = .error e ↔
      (∃ text, Misstates DenotesPolicy (lookup policyVariable) text ∧ e = .notBoolean text) ∨
        (∀ text, ¬Misstates DenotesPolicy (lookup policyVariable) text) ∧
          ∃ text, Misstates DenotesLimit (lookup limitVariable) text ∧ e = .notNatural text := by
  rw [← setting_eq_error_iff policy?_eq_some_iff default,
    ← setting_eq_error_iff limit?_eq_some_iff defaultCallLimit, ← exists_asks_iff default]
  simp only [← setting_eq_ok_iff policy?_eq_some_iff .notBoolean]
  unfold ofLookup
  cases setting (lookup policyVariable) policy? default .notBoolean with
  | error e => simp [bind, Except.bind]
  | ok policy =>
    cases setting (lookup limitVariable) limit? defaultCallLimit .notNatural with
    | error e => simp [bind, Except.bind]
    | ok limit => simp [bind, Except.bind, pure, Except.pure]

/-- Nothing else leads to an error. -/
lemma exists_ofLookup_eq_error_iff :
    (∃ e, ofLookup lookup = .error e) ↔
      (∃ text, Misstates DenotesPolicy (lookup policyVariable) text) ∨
        ∃ text, Misstates DenotesLimit (lookup limitVariable) text := by
  simp only [ofLookup_eq_error_iff]
  constructor
  · rintro ⟨e, ⟨text, htext, -⟩ | ⟨-, text, htext, -⟩⟩
    · exact Or.inl ⟨text, htext⟩
    · exact Or.inr ⟨text, htext⟩
  · intro h
    by_cases hpolicy : ∃ text, Misstates DenotesPolicy (lookup policyVariable) text
    · obtain ⟨text, htext⟩ := hpolicy
      exact ⟨_, Or.inl ⟨text, htext, rfl⟩⟩
    · obtain ⟨text, htext⟩ := h.resolve_left hpolicy
      exact ⟨_, Or.inr ⟨not_exists.1 hpolicy, text, htext, rfl⟩⟩

end

/-- Reading the configuration fails if and only if a variable is set to a text that denotes no setting.
The error has the variable and the text as it was given, and the policy comes first.  Otherwise each
setting is the one that its variable asks for, whatever the other variable holds.  In particular, the
decimal text of a number below the bound is read as that number, whatever blanks stand around it. -/
theorem ofLookup_decides_settings (lookup : String → Option String) :
    ((∃ e, ofLookup lookup = .error e) ↔
      (∃ text, Misstates DenotesPolicy (lookup "ADDLE_RECOVER") text) ∨
        ∃ text, Misstates DenotesLimit (lookup "ADDLE_MAX_CALL_DEPTH") text) ∧
    (∀ e, ofLookup lookup = .error e ↔
      (e.variableName = "ADDLE_RECOVER" ∧
          Misstates DenotesPolicy (lookup "ADDLE_RECOVER") e.value) ∨
        (e.variableName = "ADDLE_MAX_CALL_DEPTH" ∧
          Misstates DenotesLimit (lookup "ADDLE_MAX_CALL_DEPTH") e.value ∧
          ∀ text, ¬Misstates DenotesPolicy (lookup "ADDLE_RECOVER") text)) ∧
    (∀ config, ofLookup lookup = .ok config ↔
      Asks DenotesPolicy (default : Config).onUnknown (lookup "ADDLE_RECOVER") config.onUnknown ∧
        Asks DenotesLimit (default : Config).callLimit (lookup "ADDLE_MAX_CALL_DEPTH")
          config.callLimit) ∧
    ∀ n < 2 ^ 64, ∀ front back : String, (∀ c ∈ front.toList, isBlank c) →
      (∀ c ∈ back.toList, isBlank c) →
      lookup "ADDLE_MAX_CALL_DEPTH" = some (front ++ toString n ++ back) →
      (∀ text, ¬Misstates DenotesPolicy (lookup "ADDLE_RECOVER") text) →
      ∃ config, ofLookup lookup = .ok config ∧ config.callLimit = n := by
  refine ⟨exists_ofLookup_eq_error_iff, ?_, fun config => ofLookup_eq_ok_iff, ?_⟩
  · intro e
    rw [ofLookup_eq_error_iff]
    constructor
    · rintro (⟨text, htext, rfl⟩ | ⟨hpolicy, text, htext, rfl⟩)
      · exact Or.inl ⟨rfl, htext⟩
      · exact Or.inr ⟨rfl, htext, hpolicy⟩
    · rintro (⟨hname, htext⟩ | ⟨hname, htext, hpolicy⟩)
      · exact Or.inl ⟨_, htext, Error.eq_iff.2 ⟨hname, rfl⟩⟩
      · exact Or.inr ⟨hpolicy, _, htext, Error.eq_iff.2 ⟨hname, rfl⟩⟩
  · intro n hn front back hfront hback hlookup hpolicy
    obtain ⟨policy, hasks⟩ := (exists_asks_iff (default : UnknownPolicy)).2 hpolicy
    have hlimit : Asks DenotesLimit defaultCallLimit (lookup limitVariable) n := by
      rw [limitVariable, hlookup]
      exact denotesLimit_toString hn hfront hback
    exact ⟨⟨policy, n⟩, ofLookup_eq_ok_iff.2 ⟨hasks, hlimit⟩, rfl⟩

/-- The largest limit is read between blanks, next to a policy in capital letters. -/
theorem ofLookup_decides_settings_largest :
    let lookup (name : String) : Option String :=
      if name = "ADDLE_RECOVER" then some "\u3000YES"
      else if name = "ADDLE_MAX_CALL_DEPTH" then some ("\t" ++ toString 18446744073709551615 ++ "\n")
      else none
    18446744073709551615 < 2 ^ 64 ∧ (∀ c ∈ "\t".toList, isBlank c) ∧
      (∀ c ∈ "\n".toList, isBlank c) ∧
      (∀ text, ¬Misstates DenotesPolicy (lookup "ADDLE_RECOVER") text) ∧
      ∃ config, ofLookup lookup = .ok config ∧ config.callLimit = 18446744073709551615 := by
  intro lookup
  have hpolicy : ∀ text, ¬Misstates DenotesPolicy (lookup "ADDLE_RECOVER") text := by
    rintro text ⟨htext, hnone⟩
    obtain rfl := Option.some.inj htext
    exact hnone .recover (policy?_eq_some_iff.1 (by decide +kernel))
  obtain ⟨-, -, -, hlimit⟩ := ofLookup_decides_settings lookup
  refine ⟨by decide, by decide, by decide, hpolicy, ?_⟩
  exact hlimit _ (by decide) "\t" "\n" (by decide) (by decide) rfl hpolicy

end Summand.Config
