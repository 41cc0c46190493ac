import Summand.Proofs.Token.Coverage

/-!
# Lexers under any schedule

A lexer can be asked for tokens, given another policy, asked for the rest of the source and relieved
of its remarks, in any order.  `Lexer.play` makes a list of such steps and keeps a record of what each
of them shows.

Whatever the steps, the lexer reads the same tokens.  `Follows` ties the tokens that have been
returned to the place of the lexer: it stands behind them, or it has halted in front of the last one.
Which policy is in force is a matter of the record too: it is the last one that was set
(`policyBehind`), and a lexer halts for an unknown character that is returned under the policy to
halt (`HaltedIn`).  Every step keeps this up (`Reached.perform`), so that it holds after every list of
steps (`reached_play`).  The main statement, `play_follows_recovery`, reads off what this means for
the record alone.
-/

namespace Summand.Lexer

open Token.Kind

/-! ## Steps and what they show -/

/-- A step that can be made with a lexer. -/
inductive Step where
  | next
  | setPolicy (policy : UnknownPolicy)
  | remainder
  | takeDiagnostics
deriving DecidableEq

/-- What a step has shown. -/
inductive Event where
  /-- This token was returned. -/
  | token (t : Token)
  /-- There was no token. -/
  | exhausted
  | policySet (policy : UnknownPolicy)
  /-- This was left of the source. -/
  | remainder (text : String)
  /-- These remarks were taken. -/
  | taken (diagnostics : List Diagnostic)
deriving DecidableEq

namespace Event

/-- The token that was returned. -/
def token? : Event → Option Token
  | .token t => some t
  | _ => none

/-- The policy that was set. -/
def policy? : Event → Option UnknownPolicy
  | .policySet policy => some policy
  | _ => none

/-- The remarks that were taken. -/
def diagnostics : Event → List Diagnostic
  | .taken diagnostics => diagnostics
  | _ => []

end Event

/-- Makes one step. -/
def perform (lexer : Lexer) : Step → Event × Lexer
  | .next =>
    match lexer.next? with
    | some (t, after) => (.token t, after)
    | none => (.exhausted, lexer)
  | .setPolicy policy => (.policySet policy, lexer.setPolicy policy)
  | .remainder => (.remainder lexer.remainder, lexer)
  | .takeDiagnostics =>
    let (diagnostics, after) := lexer.takeDiagnostics
    (.taken diagnostics, after)

/-- Makes steps one after the other, and returns what they show with the lexer as it then is. -/
def play : Lexer → List Step → List Event × Lexer
  | lexer, [] => ([], lexer)
  | lexer, step :: steps =>
    let (event, after) := lexer.perform step
    let (events, last) := after.play steps
    (event :: events, last)

/-- The tokens that were returned. -/
def returned (events : List Event) : List Token :=
  events.filterMap Event.token?

/-- The remarks that were taken. -/
def drained (events : List Event) : List Diagnostic :=
  events.flatMap Event.diagnostics

/-- The policy in force behind the events: the last one that was set, or else the first one of the
lexer. -/
def policyBehind (policy : UnknownPolicy) (events : List Event) : UnknownPolicy :=
  (events.filterMap Event.policy?).getLast?.getD policy

/-- An unknown character was returned while the policy in force was to halt. -/
def HaltedIn (policy : UnknownPolicy) (events : List Event) : Prop :=
  ∃ before t after, events = before ++ .token t :: after ∧ t.kind = .other ∧
    policyBehind policy before = .halt

/-- An event that sets no policy leaves the one in force. -/
lemma policyBehind_append_singleton (policy : UnknownPolicy) (events : List Event) (event : Event) :
    policyBehind policy (events ++ [event]) = event.policy?.getD (policyBehind policy events) := by
  unfold policyBehind
  cases hset : event.policy? with
  | none => simp [hset]
  | some set => simp [hset]

/-- One more event is a halt if it is an unknown character and the policy in front of it is to
halt. -/
lemma haltedIn_append_singleton {policy : UnknownPolicy} {events : List Event} {event : Event} :
    HaltedIn policy (events ++ [event]) ↔ HaltedIn policy events ∨
      ∃ t, event = .token t ∧ t.kind = .other ∧ policyBehind policy events = .halt := by
  constructor
  · rintro ⟨before, t, after, hsplit, hother, hpolicy⟩
    rcases List.eq_nil_or_concat' after with rfl | ⟨rest, last, rfl⟩
    · obtain ⟨rfl, hevent⟩ := List.append_inj' hsplit rfl
      exact .inr ⟨t, (List.cons.inj hevent).1, hother, hpolicy⟩
    · rw [← List.cons_append, ← List.append_assoc] at hsplit
      obtain ⟨rfl, -⟩ := List.append_inj' hsplit rfl
      exact .inl ⟨before, t, rest, rfl, hother, hpolicy⟩
  · rintro (⟨before, t, after, rfl, hother, hpolicy⟩ | ⟨t, rfl, hother, hpolicy⟩)
    · exact ⟨before, t, after ++ [event], by simp, hother, hpolicy⟩
    · exact ⟨events, t, [], rfl, hother, hpolicy⟩

/-- Steps in two parts are made one part after the other. -/
lemma play_append (lexer : Lexer) (first second : List Step) :
    lexer.play (first ++ second) =
      ((lexer.play first).1 ++ ((lexer.play first).2.play second).1,
        ((lexer.play first).2.play second).2) := by
  induction first generalizing lexer with
  | nil => rfl
  | cons step first ih => simp only [List.cons_append, play, ih]

/-- Every step shows one thing. -/
lemma length_play (lexer : Lexer) (steps : List Step) :
    (lexer.play steps).1.length = steps.length := by
  induction steps generalizing lexer with
  | nil => rfl
  | cons step steps ih => simp only [play, List.length_cons, ih]

/-- A record in two parts belongs to steps in two parts. -/
lemma exists_play_of_append {lexer : Lexer} {steps : List Step} {before after : List Event}
    (h : (lexer.play steps).1 = before ++ after) :
    ∃ first second, steps = first ++ second ∧ (lexer.play first).1 = before ∧
      ((lexer.play first).2.play second).1 = after := by
  have hsteps : steps = steps.take before.length ++ steps.drop before.length :=
    (List.take_append_drop _ _).symm
  rw [hsteps, play_append] at h
  have hlong : before.length ≤ steps.length := by
    rw [← length_play lexer steps, hsteps, play_append, h, List.length_append]
    omega
  have hlength : (lexer.play (steps.take before.length)).1.length = before.length := by
    rw [length_play, List.length_take]
    omega
  obtain ⟨hbefore, hafter⟩ := List.append_inj h hlength
  exact ⟨_, _, hsteps, hbefore, hafter⟩

/-- A step that shows what is left shows what the lexer has left, and only a lexer without a next
token shows that there is none. -/
lemma event_of_play_cons {lexer : Lexer} {steps : List Step} {event : Event} {after : List Event}
    (h : (lexer.play steps).1 = event :: after) :
    (∀ text, event = .remainder text → text = lexer.remainder) ∧
      (event = .exhausted → lexer.next? = none) := by
  cases steps with
  | nil => simp [play] at h
  | cons step steps =>
    obtain rfl : (lexer.perform step).1 = event := (List.cons.inj h).1
    unfold perform
    cases step with
    | next =>
      cases hnext : lexer.next? with
      | none => simp
      | some pair => simp
    | setPolicy policy => simp
    | remainder => simp
    | takeDiagnostics => simp

/-! ## The tokens that have been returned -/

/-- A lexer that has returned the tokens: it stands behind them, or it has halted in front of the
last one, an unknown character. -/
inductive Follows (source : String) (tokens : List Token) (lexer : Lexer) : Prop
  | going (active : lexer.halted = false) (behind : Behind source tokens lexer)
  | halted {read : List Token} {t : Token} {more : String} (stopped : lexer.halted = true)
      (split : tokens = read ++ [t]) (other : t.kind = .other) (behind : Behind source read lexer)
      (text : lexer.remainder = t.text ++ more)
      (first : placed lexer.position lexer.remainder = t :: placed t.span.stop more)

/-- A lexer that has returned tokens has returned the first tokens of the source. -/
lemma Follows.prefix_placed {source : String} {tokens : List Token} {lexer : Lexer}
    (h : Follows source tokens lexer) : tokens <+: placed 0 source := by
  cases h with
  | going active behind =>
    rw [behind.tokens]
    exact List.prefix_append _ _
  | @halted read t more stopped split other behind text first =>
    refine ⟨placed t.span.stop more, ?_⟩
    rw [behind.tokens, first, split, List.append_assoc, List.singleton_append]

/-- A lexer that has not halted and has no token to return has returned all of them. -/
lemma Follows.eq_placed {source : String} {tokens : List Token} {lexer : Lexer}
    (h : Follows source tokens lexer) (hgo : lexer.halted = false) (hend : lexer.next? = none) :
    tokens = placed 0 source := by
  have hrest : lexer.rest = [] := by
    by_contra hrest
    simp [next?, peek?, hgo, hrest] at hend
  cases h with
  | going active behind =>
    rw [behind.tokens]
    simp [placed, remainder, hrest]
  | halted stopped =>
    rw [hgo] at stopped
    simp at stopped

/-- With the next token a lexer has returned one token more, and it has halted if that is an unknown
character and its policy is to halt. -/
lemma Follows.next {source : String} {tokens : List Token} {lexer after : Lexer} {t : Token}
    (h : Follows source tokens lexer) (hnext : lexer.next? = some (t, after)) :
    Follows source (tokens ++ [t]) after ∧
      (after.halted = true ↔ t.kind = .other ∧ lexer.policy = .halt) := by
  obtain ⟨hgo, text, rest, hrest, hbegins, ht, hcases⟩ := next?_cases hnext
  cases h with
  | halted stopped =>
    rw [hgo] at stopped
    simp at stopped
  | going active behind =>
    rcases hcases with ⟨hother, hpolicy, rfl⟩ | ⟨hpass, rfl⟩
    · have hfirst := placed_remainder_of_begins hrest hbegins
      have htext : lexer.remainder = t.text ++ String.ofList rest := by
        rw [ht, remainder, hrest, String.ofList_append]
      rw [← ht] at hfirst
      constructor
      · exact .halted rfl rfl hother ⟨behind.text, behind.position, behind.tokens⟩ htext hfirst
      · simp [hpolicy, hother]
    · constructor
      · rcases behind.next hnext with ⟨hhalted, -⟩ | ⟨-, hbehind⟩
        · exact absurd hhalted (by simp [remarking, hgo])
        · exact .going hgo hbehind
      · have hactive : ¬ (t.kind = .other ∧ lexer.policy = .halt) := by
          rcases hpass with hpolicy | hother
          · simp [hpolicy]
          · simp [hother]
        simp [remarking, hgo, hactive]

/-- Neither the policy nor the channel has a part in this. -/
lemma Follows.withPolicy {source : String} {tokens : List Token} {lexer : Lexer}
    (h : Follows source tokens lexer) (policy : UnknownPolicy) (channel : Channel) :
    Follows source tokens { lexer with policy := policy, channel := channel } := by
  cases h with
  | going active behind => exact .going active ⟨behind.text, behind.position, behind.tokens⟩
  | halted stopped split other behind text first =>
    exact .halted stopped split other ⟨behind.text, behind.position, behind.tokens⟩ text first

/-! ## What every step keeps up -/

/-- What the record of a lexer that reports and started with the policy says about the lexer as it
is now. -/
structure Reached (source : String) (policy : UnknownPolicy) (events : List Event)
    (lexer : Lexer) : Prop where
  follows : Follows source (returned events) lexer
  inForce : lexer.policy = policyBehind policy events
  halted : lexer.halted = true ↔ HaltedIn policy events
  reports : lexer.channel ≠ .closed
  remarks : drained events ++ lexer.channel.pending =
    (returned events).filterMap Token.unknownCharacter?

/-- What is sent on a channel that is not closed waits behind what waited before. -/
lemma pending_send_of_ne_closed {channel : Channel} (h : channel ≠ .closed)
    (ds : List Diagnostic) :
    channel.send ds ≠ .closed ∧ (channel.send ds).pending = channel.pending ++ ds := by
  cases channel with
  | closed => exact absurd rfl h
  | «open» log => exact ⟨by simp [Channel.send], Channel.pending_send_open log ds⟩

/-- What is taken from a channel that is not closed no longer waits, and the channel stays open. -/
lemma take_of_ne_closed {channel : Channel} (h : channel ≠ .closed) :
    channel.take.2 ≠ .closed ∧ channel.take.1 ++ channel.take.2.pending = channel.pending := by
  cases channel with
  | closed => exact absurd rfl h
  | «open» log => exact ⟨by simp [Channel.take, Channel.fresh], List.append_nil _⟩

/-- The next token adds to the record what it adds to the lexer. -/
lemma Reached.next {source : String} {policy : UnknownPolicy} {events : List Event}
    {lexer after : Lexer} {t : Token} (h : Reached source policy events lexer)
    (hnext : lexer.next? = some (t, after)) :
    Reached source policy (events ++ [.token t]) after := by
  obtain ⟨hfollows, hhalted⟩ := h.follows.next hnext
  obtain ⟨hgo, _, _, -, -, -, hcases⟩ := next?_cases hnext
  have hbefore : ¬ HaltedIn policy events := by
    rw [← h.halted, hgo]
    simp
  have hafter : after.policy = lexer.policy ∧
      after.channel = lexer.channel.send t.unknownCharacter?.toList := by
    rcases hcases with ⟨-, -, rfl⟩ | ⟨-, rfl⟩
    · exact ⟨rfl, rfl⟩
    · exact ⟨rfl, rfl⟩
  obtain ⟨hreports, hpending⟩ := pending_send_of_ne_closed h.reports t.unknownCharacter?.toList
  have hreturned : returned (events ++ [.token t]) = returned events ++ [t] := by
    simp [returned, Event.token?]
  refine ⟨?_, ?_, ?_, ?_, ?_⟩
  · rwa [hreturned]
  · rw [hafter.1, h.inForce, policyBehind_append_singleton]
    rfl
  · rw [hhalted, haltedIn_append_singleton, h.inForce]
    simp [hbefore]
  · rwa [hafter.2]
  · have hdrained : drained (events ++ [.token t]) = drained events := by
      simp [drained, Event.diagnostics]
    rw [hdrained, hreturned, hafter.2, hpending, ← List.append_assoc, h.remarks,
      List.filterMap_append]
    cases hremark : t.unknownCharacter? <;> simp [hremark]

/-- A step that shows no token adds to the record the policy that it gives to the lexer and the
remarks that it takes from it. -/
lemma Reached.silent {source : String} {policy : UnknownPolicy} {events : List Event}
    {lexer : Lexer} (h : Reached source policy events lexer) {event : Event}
    (htoken : event.token? = none) {set : UnknownPolicy}
    (hset : set = event.policy?.getD lexer.policy) {channel : Channel}
    (hreports : channel ≠ .closed)
    (hpending : event.diagnostics ++ channel.pending = lexer.channel.pending) :
    Reached source policy (events ++ [event])
      { lexer with policy := set, channel := channel } := by
  have hreturned : returned (events ++ [event]) = returned events := by
    simp [returned, htoken]
  have hnone : ¬ ∃ t, event = .token t ∧ t.kind = .other ∧ policyBehind policy events = .halt := by
    rintro ⟨t, rfl, -⟩
    simp [Event.token?] at htoken
  refine ⟨?_, ?_, ?_, hreports, ?_⟩
  · rw [hreturned]
    exact h.follows.withPolicy set channel
  · rw [policyBehind_append_singleton, ← h.inForce]
    exact hset
  · rw [haltedIn_append_singleton, or_iff_left hnone]
    exact h.halted
  · rw [hreturned, ← h.remarks, ← hpending]
    simp [drained]

/-- Every step keeps up what the record says about the lexer. -/
lemma Reached.perform {source : String} {policy : UnknownPolicy} {events : List Event}
    {lexer : Lexer} (h : Reached source policy events lexer) (step : Step) :
    Reached source policy (events ++ [(lexer.perform step).1]) (lexer.perform step).2 := by
  cases step with
  | next =>
    unfold Lexer.perform
    cases hnext : lexer.next? with
    | none => exact h.silent rfl rfl h.reports rfl
    | some pair => exact h.next hnext
  | setPolicy set => exact h.silent rfl rfl h.reports rfl
  | remainder => exact h.silent rfl rfl h.reports rfl
  | takeDiagnostics =>
    obtain ⟨hreports, hpending⟩ := take_of_ne_closed h.reports
    exact h.silent rfl rfl hreports hpending

/-- The record of all steps says so about the lexer that they lead to. -/
lemma Reached.play {source : String} {policy : UnknownPolicy} {events : List Event}
    {lexer : Lexer} (h : Reached source policy events lexer) (steps : List Step) :
    Reached source policy (events ++ (lexer.play steps).1) (lexer.play steps).2 := by
  induction steps generalizing events lexer with
  | nil => rwa [Lexer.play, List.append_nil]
  | cons step steps ih =>
    have hsteps := ih (h.perform step)
    rwa [List.append_assoc] at hsteps

/-- At the start nothing has been shown. -/
lemma reached_play (source : String) (policy : UnknownPolicy) (steps : List Step) :
    Reached source policy ((ofSource source policy .fresh).play steps).1
      ((ofSource source policy .fresh).play steps).2 := by
  have hstart : Reached source policy [] (ofSource source policy .fresh) :=
    { follows := .going rfl (behind_ofSource source policy .fresh)
      inForce := rfl
      halted := by simp [ofSource, HaltedIn]
      reports := by simp [ofSource, Channel.fresh]
      remarks := rfl }
  exact hstart.play steps

/-! ## A lexer that has halted -/

/-- Steps with a lexer that has halted return no token and show the same rest each time. -/
lemma play_of_halted {lexer : Lexer} (h : lexer.halted = true) (steps : List Step) :
    returned (lexer.play steps).1 = [] ∧
      ∀ text, .remainder text ∈ (lexer.play steps).1 → text = lexer.remainder := by
  have hnext : lexer.next? = none := by simp [next?, peek?, h]
  induction steps generalizing lexer with
  | nil => simp [play, returned]
  | cons step steps ih =>
    have hperform : (lexer.perform step).1.token? = none ∧ (lexer.perform step).2.halted = true ∧
        (lexer.perform step).2.remainder = lexer.remainder ∧
        ∀ text, (lexer.perform step).1 = .remainder text → text = lexer.remainder := by
      unfold perform
      cases step with
      | next => simp [hnext, Event.token?, h]
      | setPolicy policy => simp [Event.token?, setPolicy, remainder, h]
      | remainder =>
        refine ⟨rfl, h, rfl, ?_⟩
        intro text heq
        exact (Event.remainder.inj heq).symm
      | takeDiagnostics => simp [Event.token?, takeDiagnostics, remainder, h]
    obtain ⟨htoken, hhalted, hrest, htext⟩ := hperform
    obtain ⟨hreturned, hlater⟩ := ih hhalted (by simp [next?, peek?, hhalted])
    constructor
    · unfold returned at hreturned ⊢
      simp only [play, List.filterMap_cons, htoken, hreturned]
    · intro text hmem
      rcases List.mem_cons.1 hmem with heq | hmem
      · exact htext text heq.symm
      · rw [← hrest]
        exact hlater text hmem

/-! ## The record -/

/-- Whatever steps are made with a lexer that reports, and in whatever order, the record of them shows
the tokens that are read when unknown characters are passed over.  The tokens returned are the first
of these, in their places.  Up to an unknown character under the policy to halt, their texts and what
is left make up the source; behind it no token is returned any more, whatever policy is set, and what
is left starts with that character each time.  If there is no token without such a halt, all have been
returned.  The remarks that were taken and those that still wait are one for each unknown character
returned. -/
theorem play_follows_recovery (source : String) (policy : UnknownPolicy) (steps : List Step) :
    let whole := (ofSource source .recover .closed).readAll.1
    let events := ((ofSource source policy .fresh).play steps).1
    let last := ((ofSource source policy .fresh).play steps).2
    returned events <+: whole ∧
      (∀ before text after, events = before ++ .remainder text :: after →
        ¬ HaltedIn policy before →
          String.join ((returned before).map Token.text) ++ text = source) ∧
      (∀ before after, events = before ++ after → HaltedIn policy before →
        returned after = [] ∧
          ∃ read t, returned before = read ++ [t] ∧ t.kind = .other ∧
            ∀ text, .remainder text ∈ after →
              String.join (read.map Token.text) ++ text = source ∧ ∃ more, text = t.text ++ more) ∧
      (∀ before after, events = before ++ .exhausted :: after → ¬ HaltedIn policy before →
        returned before = whole) ∧
      drained events ++ last.channel.pending =
        ((returned events).filter fun t => t.kind = .other).map fun t =>
          ⟨.unknownCharacter, "No rule matches `" ++ t.text ++ "`", t.span⟩ := by
  intro whole events last
  have hwhole : whole = placed 0 source := readAll_recover source .closed
  have hreached := reached_play source policy steps
  refine ⟨?_, ?_, ?_, ?_, ?_⟩
  · rw [hwhole]
    exact hreached.follows.prefix_placed
  · intro before text after hevents hgo
    obtain ⟨first, second, -, hbefore, hsecond⟩ := exists_play_of_append hevents
    have hreached := reached_play source policy first
    rw [hbefore] at hreached
    have htext := (event_of_play_cons hsecond).1 text rfl
    rw [htext]
    cases hreached.follows with
    | going active behind => exact behind.text
    | halted stopped => exact absurd (hreached.halted.1 stopped) hgo
  · intro before after hevents hhalted
    obtain ⟨first, second, -, hbefore, hsecond⟩ := exists_play_of_append hevents
    have hreached := reached_play source policy first
    rw [hbefore] at hreached
    obtain ⟨hreturned, hrest⟩ := play_of_halted (hreached.halted.2 hhalted) second
    rw [hsecond] at hreturned hrest
    refine ⟨hreturned, ?_⟩
    cases hreached.follows with
    | going active =>
      rw [hreached.halted.2 hhalted] at active
      simp at active
    | @halted read t more stopped split other behind text first =>
      refine ⟨read, t, split, other, ?_⟩
      intro text' hmem
      rw [hrest text' hmem]
      exact ⟨behind.text, more, text⟩
  · intro before after hevents hgo
    obtain ⟨first, second, -, hbefore, hsecond⟩ := exists_play_of_append hevents
    have hreached := reached_play source policy first
    rw [hbefore] at hreached
    have hend := (event_of_play_cons hsecond).2 rfl
    have hactive : ((ofSource source policy .fresh).play first).2.halted = false := by
      rw [← Bool.not_eq_true, hreached.halted]
      exact hgo
    rw [hwhole]
    exact hreached.follows.eq_placed hactive hend
  · rw [hreached.remarks, filterMap_unknownCharacter?]

-- A lexer that has halted in front of a character stays there under the other policy.
example :
    ((ofSource "aé" .recover .fresh).play
      [.next, .setPolicy .halt, .next, .setPolicy .recover, .next, .remainder,
        .takeDiagnostics]).1 =
      [.token ⟨.word, "a", 0⟩, .policySet .halt, .token ⟨.other, "é", 1⟩, .policySet .recover,
        .exhausted, .remainder "é",
        .taken [⟨.unknownCharacter, "No rule matches `é`", ⟨1, 3⟩⟩]] := by
  decide +kernel

end Summand.Lexer
