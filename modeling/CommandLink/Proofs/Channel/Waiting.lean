import CommandLink.Proofs.Channel.Properties

/-!
# No wait sleeps through what it waits for

A wait for a property goes by what it sees when it looks. It ends with what the other end has
published last by then; or because nothing had been published by then and the channel is closing; or
because its time has run out (`EndsWait`). Where nobody can go on any more, nobody waits for a
property that is there, and nobody waits on a channel that is closing (`not_waiting_of_idle`).

Who waits first has itself told of changes, then looks the property up, then asks whether the channel
is closing, and falls asleep if it is not. These are steps of their own, and anything may go on
between them. What comes up after the look-up comes with a step that tells those who wait, or is
followed by one (`exists_tells`, `stage?_of_tells`), and who has been told does not sleep but looks
again. Only who finds the channel closing does not: a value that has come in between its look-up and
its question, ahead of the closing, is there for the next to look (`closed_despite_publication`).
-/

namespace CommandLink.Channel

variable {ω ρ : Type} {c d : Channel ω ρ} {action : Action ω ρ} {events : List (Event ρ)}
  {number : ℕ} {name : String} {deadline : Option ℕ} {stage : WaitStage}
  {next : Option (Except ChannelError Json) → Routine ω ρ Unit}

/-! ## Who tells those who wait -/

/-- An action tells everyone who waits that something has changed: a property is taken, or who closes
the channel says so. -/
def Tells (c : Channel ω ρ) (action : Action ω ρ) : Prop :=
  (∃ name value, c.taken? action = some (.property name value)) ∨
    ∃ a choice, action = .agent a choice ∧ c.closing? a = some .notify

/-- Everyone who waits is told. -/
theorem stage?_of_tells (h : c.step action = some (d, events)) (ht : c.Tells action)
    (hs : c.stage? number = some (.wait name deadline stage next)) :
    d.stage? number = some (.wait name deadline stage.wake next) := by
  have hwoken : d.stage? number = (c.stage? number).map Stage.wake → d.stage? number =
      some (.wait name deadline stage.wake next) := by
    intro hd
    rw [hd, hs]
    rfl
  rcases ht with ⟨name, value, htaken⟩ | ⟨a, choice, rfl, hn⟩
  · rcases step_properties h with ⟨-, -, -, -, hstages⟩ | ⟨-, hother⟩
    · exact hwoken (hstages number)
    · exact absurd htaken (hother name value)
  · rcases stage?_of_notify h hn number with ⟨rfl, -⟩ | hstage
    · simp [closing?, hs, Stage.closing?] at hn
    · exact hwoken hstage

/-- What holds at first and not in the end, and only a step that tells those who wait can break, such
a step has broken. -/
theorem exists_tells {P : Channel ω ρ → Prop}
    (hkept : ∀ {c d : Channel ω ρ} {action events}, P c → c.step action = some (d, events) →
      ¬ c.Tells action → P d)
    (actions : List (Action ω ρ)) (hc : P c) (hd : ¬ P (c.after actions)) :
    ∃ m ∈ c.moments actions, m.before.Tells m.action := by
  induction actions generalizing c with
  | nil => exact absurd hc hd
  | cons action actions ih =>
    rcases h : c.step action with _ | ⟨d, events⟩
    · rw [after_cons_of_disabled h] at hd
      rw [moments_cons_of_disabled h]
      exact ih hc hd
    · rw [after_cons_of_step h] at hd
      rw [moments_cons_of_step h]
      by_cases ht : c.Tells action
      · exact ⟨_, List.mem_cons_self, ht⟩
      · obtain ⟨m, hm, htells⟩ := ih (hkept hc h ht) hd
        exact ⟨m, List.mem_cons_of_mem _ hm, htells⟩

theorem exists_tells_of_property? (actions : List (Action ω ρ)) (hc : c.property? name = none)
    (hd : (c.after actions).property? name ≠ none) :
    ∃ m ∈ c.moments actions, m.before.Tells m.action := by
  refine exists_tells (P := fun c => c.property? name = none) ?_ actions hc hd
  intro c d action events hnone h ht
  rcases step_properties h with ⟨name', value, htaken, -⟩ | ⟨hsame, -⟩
  · exact absurd (.inl ⟨name', value, htaken⟩) ht
  · rw [property?, hsame]
    exact hnone

theorem exists_tells_of_untold (actions : List (Action ω ρ)) (ho : Orderly c) (hc : Untold c)
    (hd : ¬ Untold (c.after actions)) : ∃ m ∈ c.moments actions, m.before.Tells m.action := by
  refine exists_tells (P := fun c => Orderly c ∧ Untold c) ?_ actions ⟨ho, hc⟩ fun h => hd h.2
  rintro c d action events ⟨ho, hu⟩ h ht
  exact ⟨ho.step h, hu.step ho h fun a choice haction hn => ht (.inr ⟨a, choice, haction, hn⟩)⟩

/-! ## When nobody can go on -/

/-- Everyone has done what there was to do: nobody goes on but by the link, as time passes, or
because the channel is closing. -/
def Idle (c : Channel ω ρ) : Prop := ∀ a, c.step (.agent a .go) = none

/-- Who is about to tell of the closing can do so. -/
theorem step_of_announces {a : Agent} {stage : CloseStage} (hs : c.closing? a = some stage)
    (hannounces : stage.announces = true) : (c.step (.agent a .go)).isSome := by
  have hclose : (c.closeStep a stage .go).isSome := by
    cases stage with
    | cancel => rfl
    | notify => rfl
    | _ => cases hannounces
  cases a with
  | reader =>
    have hreader : c.reader = .close stage := by
      change c.reader.closing? = some stage at hs
      generalize c.reader = reader at hs
      cases reader <;> cases hs
      rfl
    simpa [step, agentStep, readerStep, hreader] using hclose
  | heartbeat => cases hs
  | task closer =>
    obtain ⟨s, hstage, hcloses⟩ := Option.bind_eq_some_iff.mp hs
    have hcan : (c.taskStep (.task closer) s .go).isSome := by
      cases s with
      | call callStage next =>
        cases callStage <;> cases hcloses
        obtain ⟨⟨d, events, progress⟩, hx⟩ := Option.isSome_iff_exists.mp hclose
        cases progress with
        | more => simp [taskStep, callStep, hx]
        | finished => simp [taskStep, callStep, hx]
      | close closeStage next =>
        cases hcloses
        simpa [taskStep] using hclose
      | _ => cases hcloses
    simpa [step, agentStep, hstage] using hcan

/-- Who waits can go on, unless it is asleep and has been told of nothing. -/
theorem step_of_wait (hs : c.stage? number = some (.wait name deadline stage next))
    (hasleep : stage ≠ .asleep false) : (c.step (.agent (.task number) .go)).isSome := by
  have hwait : (c.waitStep name deadline stage .go).isSome := by
    cases stage with
    | enter => rfl
    | look notified =>
      rcases hvalue : c.property? name with _ | value
      · simp [waitStep, hvalue]
      · simp [waitStep, hvalue]
    | check notified =>
      by_cases hc : c.closing = true
      · simp [waitStep, hc]
      · simp [waitStep, hc]
    | asleep notified =>
      cases notified with
      | false => exact absurd rfl hasleep
      | true => rfl
  simpa [step, agentStep, hs, taskStep] using hwait

theorem Idle.step_eq_none {a : Agent} (hi : c.Idle) : ¬ (c.step (.agent a .go)).isSome := by
  rw [hi a]
  exact Bool.false_ne_true

/-- Where nobody can go on, a channel that is closing has told everyone. -/
theorem Idle.open_of_untold (hi : c.Idle) (hu : Untold c) : c.closing = false := by
  rcases hu with hopen | ⟨a, stage, hs, hannounces⟩
  · exact hopen
  · exact absurd (step_of_announces hs hannounces) hi.step_eq_none

/-- **Nobody waits for what is there**, where nobody can go on. -/
theorem Alert.not_waiting_of_idle (ha : Alert c) (hi : c.Idle)
    (hs : c.stage? number = some (.wait name deadline stage next)) :
    c.property? name = none ∧ c.closing = false := by
  by_cases hasleep : stage = .asleep false
  · subst hasleep
    exact ⟨ha.unaware hs rfl, hi.open_of_untold (ha.asleep hs)⟩
  · exact absurd (step_of_wait hs hasleep) hi.step_eq_none

/-! ## What the other end has published -/

theorem published_eq_none_iff {actions : List (Action ω ρ)} :
    c.published actions name = none ↔ ∀ value, Frame.property name value ∉ c.taken actions := by
  rw [published, List.getLast?_eq_none_iff, List.filterMap_eq_nil_iff]
  constructor
  · intro h value hmem
    have hnone := h _ hmem
    simp [Frame.published?] at hnone
  · intro h frame hmem
    cases frame with
    | property other value =>
      rw [Frame.published?, if_neg]
      rintro rfl
      exact h value hmem
    | _ => rfl

/-- A property that is taken is known from then on, in the place of what was known under its name,
and what is known under other names stays. -/
theorem property?_of_taken {value : Json} (h : c.step action = some (d, events))
    (ht : c.taken? action = some (.property name value)) (other : String) :
    d.property? other = if other = name then some value else c.property? other := by
  rw [property?_step h, ht, Option.bind_some, Frame.published?]
  by_cases hname : other = name
  · rw [if_pos hname.symm, if_pos hname, Option.some_or]
  · rw [if_neg (Ne.symm hname), if_neg hname, Option.none_or]

/-- Nothing else changes what is known. -/
theorem property?_of_not_taken (h : c.step action = some (d, events))
    (ht : ∀ name value, c.taken? action ≠ some (.property name value)) :
    d.property? name = c.property? name := by
  rcases step_properties h with ⟨name', value, htaken, -⟩ | ⟨hsame, -⟩
  · exact absurd htaken (ht name' value)
  · rw [property?, hsame, property?]

/-! ## What a wait ends with -/

/-- What a wait for a property ends with after a run: what has been published last under the name
among the frames taken, when it looks; or nothing had been published when it last looked, and the
channel is closing; or nothing has been published, and the time has run out. -/
inductive EndsWait (c : Channel ω ρ) (actions : List (Action ω ρ)) (number : ℕ) (name : String)
    (deadline : Option ℕ) : Option (Except ChannelError Json) → Prop
  | found (value : Json) (published : c.published actions name = some value) :
    EndsWait c actions number name deadline (some (.ok value))
  | closed (looked : List (Action ω ρ)) (last : LastLook c number name looked actions)
    (silent : ∀ value, Frame.property name value ∉ c.taken looked)
    (closing : (c.after actions).closing = true) :
    EndsWait c actions number name deadline (some (.error .closed))
  | late (time : ℕ) (limited : deadline = some time)
    (silent : ∀ value, Frame.property name value ∉ c.taken actions)
    (passed : time ≤ (c.after actions).clock) : EndsWait c actions number name deadline none

/-- What becomes of a wait with the next step after a run: it goes on, it ends, or its task is ended
with the channel. -/
inductive Waited (c : Channel ω ρ) (actions : List (Action ω ρ)) (number : ℕ) (name : String)
    (deadline : Option ℕ) (next : Option (Except ChannelError Json) → Routine ω ρ Unit)
    (closing : Bool) : Stage ω ρ → Prop
  | waits (stage : WaitStage) :
    Waited c actions number name deadline next closing (.wait name deadline stage next)
  | ends (result : Option (Except ChannelError Json))
    (how : EndsWait c actions number name deadline result) :
    Waited c actions number name deadline next closing (.ready (next result))
  | ended (closed : closing = true) : Waited c actions number name deadline next closing .done

/-- A wait that looks when there is a value ends with it. -/
theorem stage?_of_look {notified : Bool} {choice : Choice} {value : Json}
    (hs : c.stage? number = some (.wait name deadline (.look notified) next))
    (h : c.step (.agent (.task number) choice) = some (d, events))
    (hvalue : c.property? name = some value) :
    d.stage? number = some (.ready (next (some (.ok value)))) := by
  obtain ⟨e, stage', hstep, -, hstage'⟩ := step_of_stage? hs h
  rw [hstage']
  cases taskStep_iff.mp hstep with
  | wait hwait =>
    cases waitStep_iff.mp hwait with
    | miss hnone => exact absurd (hvalue.symm.trans hnone) (by simp)
  | waited hwait =>
    cases waitStep_iff.mp hwait with
    | find hfound =>
      rw [hvalue, Option.some.injEq] at hfound
      rw [hfound]

variable (setup : ChannelSetup ω ρ) (world : ω) (guarded : Bool)

/-- A wait that ends has observed what the other end has published. -/
theorem endsWait_of_waitStep {actions : List (Action ω ρ)} {choice : Choice}
    {result : Option (Except ChannelError Json)}
    (hs : ((start setup world guarded).after actions).stage? number =
      some (.wait name deadline stage next))
    (h : ((start setup world guarded).after actions).waitStep name deadline stage choice =
      some (.finished result)) :
    EndsWait (start setup world guarded) actions number name deadline result := by
  have hdeadline : deadline.map (0 + ·) = deadline := by simp
  rw [← hdeadline] at hs h
  obtain ⟨looked, hlast, hobserves⟩ := observes_of_waitStep setup world guarded hs h
  have hknown := fun run => property?_after setup world guarded run name
  cases hobserves with
  | there value known => exact .found value ((hknown actions).symm.trans known)
  | closed unknown closing =>
    exact .closed looked hlast (published_eq_none_iff.mp ((hknown looked).symm.trans unknown)) closing
  | late millis limited unknown untold time =>
    exact .late millis limited (published_eq_none_iff.mp ((hknown actions).symm.trans unknown))
      (Nat.zero_add millis ▸ time)

theorem waited_of_step {actions : List (Action ω ρ)}
    (hs : ((start setup world guarded).after actions).stage? number =
      some (.wait name deadline stage next))
    (h : ((start setup world guarded).after actions).step action = some (d, events)) :
    ∃ stage', d.stage? number = some stage' ∧
      Waited (start setup world guarded) actions number name deadline next d.closing stage' := by
  obtain ⟨stage', hstage', hnext⟩ := stage?_step (orderly_after setup world guarded actions) h hs
  refine ⟨stage', hstage', ?_⟩
  generalize hwait : Stage.wait name deadline stage next = waiting at hnext
  cases hnext with
  | acted hact hstep =>
    subst hwait
    cases taskStep_iff.mp hstep with
    | wait => exact .waits _
    | waited hwait => exact .ends _ (endsWait_of_waitStep setup world guarded hs hwait)
  | kept => exact hwait ▸ .waits stage
  | woken => exact hwait ▸ .waits stage.wake
  | ended others closed => exact .ended closed

/-! ## Every run -/

/-- What holds of waits for properties in every run of a channel. -/
structure WaitsKept (c : Channel ω ρ) : Prop where
  /-- What is taken are frames of what has arrived. -/
  arrived : ∀ actions, c.taken actions <+:
    (Frame.Partial.start.feed c.setup.frameLimit (c.delivered actions)).1
  /-- What is known under a name is what has been published last among the frames taken. -/
  known : ∀ actions name, (c.after actions).property? name = c.published actions name
  /-- A property that is taken replaces what was known under its name, and nothing else. -/
  replaced : ∀ {actions action d events name value},
    (c.after actions).step action = some (d, events) →
    (c.after actions).taken? action = some (.property name value) → ∀ other,
    d.property? other = if other = name then some value else (c.after actions).property? other
  /-- Nothing else changes what is known. -/
  kept : ∀ {actions action d events}, (c.after actions).step action = some (d, events) →
    (∀ name value, (c.after actions).taken? action ≠ some (.property name value)) →
    ∀ name, d.property? name = (c.after actions).property? name
  /-- A wait goes on, or ends with what is true of the run so far. -/
  ends : ∀ {actions action d events number name deadline stage next},
    (c.after actions).stage? number = some (.wait name deadline stage next) →
    (c.after actions).step action = some (d, events) →
    ∃ stage', d.stage? number = some stage' ∧
      Waited c actions number name deadline next d.closing stage'
  /-- A wait that looks when something has been published ends with it, also when the channel is
  closing. -/
  finds : ∀ {actions choice d events number name deadline notified next value},
    (c.after actions).stage? number = some (.wait name deadline (.look notified) next) →
    (c.after actions).step (.agent (.task number) choice) = some (d, events) →
    c.published actions name = some value → d.stage? number = some (.ready (next (some (.ok value))))
  /-- Where nobody can go on, nobody waits for what has been published, nor on a channel that is
  closing. -/
  awake : ∀ {actions number name deadline stage next}, (c.after actions).Idle →
    (c.after actions).stage? number = some (.wait name deadline stage next) →
    (∀ value, Frame.property name value ∉ c.taken actions) ∧ (c.after actions).closing = false
  /-- A step that tells those who wait reaches everyone. -/
  told : ∀ {actions action d events number name deadline stage next},
    (c.after actions).step action = some (d, events) → (c.after actions).Tells action →
    (c.after actions).stage? number = some (.wait name deadline stage next) →
    d.stage? number = some (.wait name deadline stage.wake next)
  /-- However much goes on between the look-up that finds nothing, the question whether the channel
  is closing, and the falling asleep: what is published after the look-up comes with a step that
  tells those who wait. -/
  publication : ∀ {name} looked later, (c.after looked).property? name = none →
    (c.after (looked ++ later)).property? name ≠ none →
    ∃ m ∈ (c.after looked).moments later, m.before.Tells m.action
  /-- And so does the closing after the channel was found open, at the latest when nobody can go
  on. -/
  closing : ∀ asked later, (c.after asked).closing = false →
    (c.after (asked ++ later)).closing = true → (c.after (asked ++ later)).Idle →
    ∃ m ∈ (c.after asked).moments later, m.before.Tells m.action

/-- **No wait sleeps through what it waits for**, whatever the other end sends, whoever waits for
whatever name, and in whichever order all of them go on. -/
theorem waits_kept : WaitsKept (start setup world guarded) where
  arrived := taken_prefix setup world guarded
  known := property?_after setup world guarded
  replaced h ht other := property?_of_taken h ht other
  kept h ht _ := property?_of_not_taken h ht
  ends hs h := waited_of_step setup world guarded hs h
  finds hs h hvalue := stage?_of_look hs h ((property?_after setup world guarded _ _).trans hvalue)
  awake {actions _ name _ _ _} hi hs := by
    obtain ⟨hnone, hopen⟩ := (alert_after setup world guarded actions).not_waiting_of_idle hi hs
    rw [property?_after] at hnone
    exact ⟨published_eq_none_iff.mp hnone, hopen⟩
  told h ht hs := stage?_of_tells h ht hs
  publication {name} looked later hnone hsome := by
    rw [after_append] at hsome
    exact exists_tells_of_property? later hnone hsome
  closing asked later hopen hclosing hidle := by
    rw [after_append] at hclosing hidle
    refine exists_tells_of_untold later (orderly_after setup world guarded asked) (.inl hopen) ?_
    intro hu
    rw [hidle.open_of_untold hu] at hclosing
    cases hclosing

/-! ## What is published too late -/

/-- Waits for a value, for the error with which that ends. -/
def awaitsValue : Routine Unit Unit (Option ChannelError) := do
  match ← Routine.property "a" none with
  | some (.error e) => return some e
  | _ => return none

/-- A value is published after a wait has looked for it, and before the wait asks whether the channel
is closing. -/
def publishedMeanwhile : List (Action Unit Unit) :=
  .start (awaitsValue.bind fun _ => return ()) :: List.replicate 3 (.agent (.task 0) .go) ++
    comesIn (.property "a" (.bool true))

/-- A task closes the channel. -/
def closes (number : ℕ) : List (Action Unit Unit) :=
  .start Routine.close :: List.replicate 10 (.agent (.task number) .go)

/-- A value is published, the channel is closed, and another value is published. -/
def publishedAfterwards : List (Action Unit Unit) :=
  comesIn (.property "a" (.bool true)) ++ closes 0 ++ comesIn (.property "a" (.bool false))

/-- **What is published too late is not seen.** A wait finds the channel closing although a value has
been taken while the channel was open, after the wait has looked. And what is published on a closed
channel does not replace what has been published before. -/
theorem closed_despite_publication :
    let c := start refusingLink () false
    let sent := (Frame.Partial.start.feed refusingLink.frameLimit
      (c.delivered publishedAfterwards)).1
    ((c.published publishedMeanwhile "a").bind Json.bool? = some true ∧
      (c.after publishedMeanwhile).closing = false ∧
      awaitsValue.Returns (c.heard (publishedMeanwhile ++ closes 1 ++ [.agent (.task 0) .go]) 0)
        (some .closed)) ∧
    (sent.filterMap (Frame.published? "a")).filterMap Json.bool? = [true, false] ∧
    ((c.after publishedAfterwards).property? "a").bind Json.bool? = some true := by
  refine ⟨⟨by decide +kernel, by decide +kernel, Routine.returns_of_result? ?_⟩, by decide +kernel,
    by decide +kernel⟩
  decide +kernel

end CommandLink.Channel
