import CommandLink.Proofs.Channel.Taking
import CommandLink.Proofs.Channel.Unaided
import Mathlib.Data.List.Induction

/-!
# What the other end publishes

A channel knows under every name the value that the other end has published last, among the frames
that have been taken (`property?_after`). Who waits for a property is told of every change, and that
the channel closes: nobody is asleep over a property that is there, or over a channel that has told
of its closing (`alert_after`). A wait ends with the value that is there when it looks, or there was
none when it last looked, and the channel is closing or the time has run out (`Observes`).
-/

namespace CommandLink

variable {ω ρ : Type}

/-- The value that a frame publishes under a name. -/
def Frame.published? (name : String) : Frame → Option Json
  | .property n value => if n = name then some value else none
  | _ => none

/-- Whether closing has begun and those who wait have not been told of it yet. -/
def CloseStage.announces : CloseStage → Bool
  | .cancel => true
  | .notify => true
  | _ => false

/-- Whether nothing has been found. -/
def WaitStage.hasLooked : WaitStage → Bool
  | .check _ => true
  | .asleep _ => true
  | _ => false

/-- Whether nothing has been found, and nothing has changed since. -/
def WaitStage.isUnaware : WaitStage → Bool
  | .check false => true
  | .asleep false => true
  | _ => false

namespace Channel

/-- What the other end has last published under a name, among the frames taken in a run. -/
def published (c : Channel ω ρ) (actions : List (Action ω ρ)) (name : String) : Option Json :=
  ((c.taken actions).filterMap (Frame.published? name)).getLast?

variable {c d : Channel ω ρ} {action : Action ω ρ} {events : List (Event ρ)} {a : Agent}
  {choice : Choice}

/-! ## What leaves the properties as they are -/

theorem properties_endOthers (a : Agent) : (c.endOthers a).properties = c.properties := by
  unfold endOthers
  generalize c.backgroundAgents.filter (· ≠ a) = agents
  induction agents generalizing c with
  | nil => rfl
  | cons b agents ih =>
    rw [List.foldl_cons, ih]
    cases b <;> rfl

theorem properties_settle (id : CallId) (result : Except ChannelError Reply) :
    (c.settle id result).properties = c.properties := by
  unfold settle
  split <;> rfl

theorem properties_closeStep {stage : CloseStage} {progress : Progress CloseStage Unit}
    (h : c.closeStep a stage choice = some (d, events, progress)) :
    d.properties = c.properties := by
  cases closeStep_iff.mp h with
  | drain => exact properties_settle _ _
  | abort => exact properties_endOthers a
  | _ => rfl

theorem properties_sendStep {stage : SendStage}
    {progress : Progress SendStage (Except ChannelError Unit)}
    (h : c.sendStep a stage choice = some (d, events, progress)) :
    d.properties = c.properties := by
  obtain ⟨w, rfl⟩ := sendStep_writer h
  rfl

theorem properties_callStep {stage : CallStage}
    {progress : Progress CallStage (Except ChannelError Reply)}
    (h : c.callStep a stage choice = some (d, events, progress)) :
    d.properties = c.properties := by
  cases callStep_iff.mp h with
  | send hsend | sent hsend | unsent hsend => exact properties_sendStep hsend
  | shut hclose | fail hclose => exact properties_closeStep hclose
  | _ => rfl

theorem properties_taskStep {stage stage' : Stage ω ρ}
    (h : c.taskStep a stage choice = some (d, events, stage')) : d.properties = c.properties := by
  cases taskStep_iff.mp h with
  | @ask op next => cases op <;> rfl
  | call hcall | called hcall => exact properties_callStep hcall
  | publish hsend | published hsend | respond hsend | replace hsend | responded hsend =>
    exact properties_sendStep hsend
  | close hclose | closed hclose => exact properties_closeStep hclose
  | stop | wait | waited | told | slept | resume => rfl

theorem properties_heartbeatStep {stage stage' : HeartbeatStage}
    (h : c.heartbeatStep stage choice = some (d, events, stage')) :
    d.properties = c.properties := by
  cases heartbeatStep_iff.mp h with
  | ping | abandon => rfl
  | send hsend | sent hsend => exact properties_sendStep hsend

/-- The reader takes no frame, or the one that comes next. -/
theorem readerStep_properties {stage : ReaderStage}
    (h : c.readerStep c.reader choice = some (d, events, stage)) :
    (c.taken? (.agent .reader choice) = none ∧ d.properties = c.properties) ∨
      ∃ frame rest, c.taken? (.agent .reader choice) = some frame ∧
        d = { c with inbox := rest }.dispatch frame := by
  obtain ⟨reader, hreader⟩ : ∃ reader, c.reader = reader := ⟨_, rfl⟩
  rw [hreader] at h
  cases readerStep_iff.mp h with
  | ended hinbox => exact .inl ⟨by simp only [taken?, incoming?, hreader, hinbox, takeFrame], rfl⟩
  | stumble _ htake | read _ htake =>
    exact .inl ⟨by simp only [taken?, incoming?, hreader, htake], rfl⟩
  | @take _ _ frame rest _ htake =>
    exact .inr ⟨frame, rest, by simp only [taken?, incoming?, hreader, htake], rfl⟩
  | abandon => exact .inl ⟨rfl, rfl⟩
  | close hclose | closed hclose =>
    exact .inl ⟨taken?_of_not_reading (by simp [hreader]) _, properties_closeStep hclose⟩

/-- **Steps and properties.** Only a property that is taken changes what is known, and then everyone
is told. -/
theorem step_properties (h : c.step action = some (d, events)) :
    (∃ name value, c.taken? action = some (.property name value) ∧
      d.properties = c.properties.insert name value ∧
      ∀ number, d.stage? number = (c.stage? number).map Stage.wake) ∨
    (d.properties = c.properties ∧ ∀ name value, c.taken? action ≠ some (.property name value)) := by
  cases step_iff.mp h with
  | reader hstep =>
    rcases readerStep_properties hstep with ⟨hnone, hsame⟩ | ⟨frame, rest, htaken, rfl⟩
    · exact .inr ⟨hsame, by simp [hnone]⟩
    · rw [htaken]
      cases frame with
      | request id call =>
        refine .inr ⟨?_, by simp⟩
        simp only [dispatch]
        split_ifs <;> rfl
      | response id result =>
        exact .inr ⟨properties_settle (c := { c with inbox := rest }) _ _, by simp⟩
      | property name value =>
        exact .inl ⟨name, value, rfl, rfl,
          stage?_wakeAll (c := { c with properties := c.properties.insert name value })⟩
      | ping => exact .inr ⟨rfl, by simp⟩
  | heartbeat hstep =>
    have hsame := properties_heartbeatStep hstep
    exact .inr ⟨hsame, by simp [taken?]⟩
  | task _ hstep =>
    have hsame := properties_taskStep hstep
    exact .inr ⟨hsame, by simp [taken?]⟩
  | deliver | endInput | start | elapse => exact .inr ⟨rfl, by simp [taken?]⟩

/-- What is known under a name changes with what is taken. -/
theorem property?_step (h : c.step action = some (d, events)) (name : String) :
    d.property? name =
      (((c.taken? action).bind (Frame.published? name)).or (c.property? name)) := by
  rcases step_properties h with ⟨name', value, htaken, hinsert, -⟩ | ⟨hsame, hother⟩
  · rw [htaken, Option.bind_some, Frame.published?, property?, hinsert, Table.get?_insert]
    by_cases hname : name' = name
    · subst hname
      simp
    · rw [if_neg hname, if_neg (Ne.symm hname)]
      rfl
  · have hnone : (c.taken? action).bind (Frame.published? name) = none := by
      rw [Option.bind_eq_none_iff]
      intro frame hframe
      cases frame with
      | property name' value => exact absurd hframe (hother name' value)
      | _ => rfl
    rw [hnone, property?, hsame]
    rfl

variable (setup : ChannelSetup ω ρ) (world : ω) (guarded : Bool)

/-- **What is known of the other end** is what it has published last. -/
theorem property?_after (actions : List (Action ω ρ)) (name : String) :
    ((start setup world guarded).after actions).property? name =
      (start setup world guarded).published actions name := by
  refine run_induction (P := fun past c => c.property? name =
    ((past.filterMap Moment.taken?).filterMap (Frame.published? name)).getLast?)
    (start setup world guarded) rfl ?_ actions
  intro past c action d events hpast h
  rw [property?_step h, hpast, filterMap_concat, List.filterMap_append, List.getLast?_append,
    Moment.taken?]
  rcases c.taken? action with _ | frame
  · rfl
  · rcases hpublished : frame.published? name with _ | value
    · simp [hpublished]
    · simp [hpublished]

/-! ## Who waits -/

/-- The channel is open, or who closes it is still to tell those who wait. -/
def Untold (c : Channel ω ρ) : Prop :=
  c.closing = false ∨ ∃ a stage, c.closing? a = some stage ∧ stage.announces = true

/-- Who has found nothing and has been told of nothing has missed nothing, and nobody is asleep over
a channel that has told of its closing. -/
structure Alert (c : Channel ω ρ) : Prop where
  unaware : ∀ {number name deadline stage next},
    c.stage? number = some (.wait name deadline stage next) → stage.isUnaware = true →
    c.property? name = none
  asleep : ∀ {number name deadline next},
    c.stage? number = some (.wait name deadline (.asleep false) next) → c.Untold

/-- Who has been woken knows that something has changed. -/
theorem Stage.isUnaware_of_wake {stage : Stage ω ρ} {name : String} {deadline : Option ℕ}
    {s : WaitStage} {next : Option (Except ChannelError Json) → Routine ω ρ Unit}
    (h : Stage.wake stage = .wait name deadline s next) : s.isUnaware = false := by
  cases stage
  case wait name' deadline' stage next' => cases stage <;> cases h <;> rfl
  all_goals cases h

/-- Who closes the channel tells everyone else who waits. -/
theorem stage?_of_notify (h : c.step (.agent a choice) = some (d, events))
    (hn : c.closing? a = some .notify) (number : ℕ) :
    (a = .task number ∧ d.closing? a = some .snapshot) ∨
      d.stage? number = (c.stage? number).map Stage.wake := by
  have hwakes : ∀ {e : Channel ω ρ} {events' p}, c.closeStep a .notify choice = some (e, events', p) →
      e = c.wakeAll ∧ p.stage? = some .snapshot := by
    intro e events' p hclose
    cases choice <;> cases hclose
    exact ⟨rfl, rfl⟩
  cases step_iff.mp h with
  | reader hstep =>
    rcases readerStep_closes hstep with ⟨s, p, hcloses, hclose, -⟩ | ⟨hnone, -⟩
    · obtain rfl : s = .notify := Option.some.inj (hcloses.symm.trans hn)
      obtain ⟨rfl, -⟩ := hwakes hclose
      exact .inr (stage?_wakeAll number)
    · exact absurd (hnone.symm.trans hn) (by simp)
  | heartbeat => cases hn
  | @task closer _ _ _ _ _ ht hstep =>
    rw [closing?_task ht] at hn
    have ht' := task_of_taskStep ht hstep
    rcases taskStep_closes hstep with ⟨s, p, hcloses, hclose, hnext⟩ | ⟨hnone, -⟩
    · obtain rfl : s = .notify := Option.some.inj (hcloses.symm.trans hn)
      obtain ⟨rfl, hp⟩ := hwakes hclose
      by_cases hnumber : number = closer
      · refine .inl ⟨by rw [hnumber], ?_⟩
        rw [closing?_task ht']
        exact hnext.trans hp
      · rw [stage?_setStage_of_ne _ hnumber]
        exact .inr (stage?_wakeAll number)
    · exact absurd (hnone.symm.trans hn) (by simp)

theorem told_of_notify {number : ℕ} {name : String} {deadline : Option ℕ} {stage : WaitStage}
    {next : Option (Except ChannelError Json) → Routine ω ρ Unit}
    (h : c.step (.agent a choice) = some (d, events)) (hn : c.closing? a = some .notify)
    (hs : d.stage? number = some (.wait name deadline stage next)) : stage.isUnaware = false := by
  rcases stage?_of_notify h hn number with ⟨rfl, hsnapshot⟩ | hwoken
  · simp [closing?, hs, Stage.closing?] at hsnapshot
  · rw [hs] at hwoken
    obtain ⟨_, -, hwake⟩ := Option.map_eq_some_iff.mp hwoken.symm
    exact Stage.isUnaware_of_wake hwake

/-- The channel tells those who wait only by the step that does. -/
theorem Untold.step (hu : Untold c) (ho : Orderly c) (h : c.step action = some (d, events))
    (hn : ∀ a choice, action = .agent a choice → c.closing? a ≠ some .notify) : Untold d := by
  cases step_closes h with
  | rest hclosing _ hstage =>
    rcases hu with hopen | ⟨a, s, ha, hannounces⟩
    · exact .inl (hclosing.trans hopen)
    · exact .inr ⟨a, s, (hstage a).trans ha, hannounces⟩
  | turned b _ hclosing _ hbefore _ hothers =>
    rcases hu with hopen | ⟨a, s, ha, hannounces⟩
    · exact .inl (hclosing.trans hopen)
    · have hab : a ≠ b := by
        rintro rfl
        rw [hbefore] at ha
        cases ha
      exact .inr ⟨a, s, (hothers a hab).trans ha, hannounces⟩
  | went b choice stage e events' p hact hself hstep hclosing _ _ hnext hothers =>
    subst hact
    by_cases henter : stage = .enter
    · subst henter
      rcases closeStep_cases hstep with ⟨-, hc, rfl, -, rfl⟩ | ⟨-, -, -, rfl⟩ | hcontinues
      · obtain ⟨a, s, ha, hannounces⟩ := hu.resolve_left (by simp [hc])
        have hab : a ≠ b := by
          rintro rfl
          rw [hself, Option.some.injEq] at ha
          subst ha
          cases hannounces
        rcases hothers a hab with hkept | ⟨habort, -⟩
        · exact .inr ⟨a, s, hkept.trans ha, hannounces⟩
        · cases habort
      · exact .inr ⟨b, .cancel, hnext, rfl⟩
      · exact absurd rfl hcontinues.late
    · -- Only one agent closes the channel.
      have hc := ho.begun b stage hself henter
      obtain ⟨a, s, ha, hannounces⟩ := hu.resolve_left (by simp [hc])
      have hs' : s ≠ .enter := by
        rintro rfl
        cases hannounces
      obtain rfl := ho.one a b s stage ha hs' hself henter
      obtain rfl : s = stage := Option.some.inj (ha.symm.trans hself)
      cases s with
      | cancel =>
        cases choice <;> cases hstep
        exact .inr ⟨a, .notify, hnext, rfl⟩
      | notify => exact absurd hself (hn a choice rfl)
      | _ => cases hannounces

/-- How a task comes to stand where it does in a wait, by one step. -/
inductive WaitNext (c d : Channel ω ρ) (number : ℕ) (name : String) (deadline : Option ℕ)
    (next : Option (Except ChannelError Json) → Routine ω ρ Unit) : WaitStage → Prop
  | began : WaitNext c d number name deadline next .enter
  | went {choice : Choice} {before stage : WaitStage}
    (hs : c.stage? number = some (.wait name deadline before next))
    (hwait : c.waitStep name deadline before choice = some (.more stage))
    (hclosing : d.closing = c.closing) : WaitNext c d number name deadline next stage
  | kept {stage : WaitStage} (hs : c.stage? number = some (.wait name deadline stage next)) :
    WaitNext c d number name deadline next stage
  | woken {before : WaitStage} (hs : c.stage? number = some (.wait name deadline before next)) :
    WaitNext c d number name deadline next before.wake

section Waits

variable {number : ℕ} {name : String} {deadline : Option ℕ} {stage : WaitStage}
  {next : Option (Except ChannelError Json) → Routine ω ρ Unit}

theorem waitNext_of_step (ho : Orderly c) (h : c.step action = some (d, events))
    (hs : d.stage? number = some (.wait name deadline stage next)) :
    c.WaitNext d number name deadline next stage := by
  rcases hc : c.stage? number with _ | before
  · -- A task that has just begun does not wait.
    obtain ⟨t', ht', hstage⟩ := Option.map_eq_some_iff.mp hs
    have hnone : c.tasks[number]? = none := Option.map_eq_none_iff.mp hc
    obtain ⟨-, hspawned⟩ := (step_others h).new number t' hnone ht'
    cases hspawned <;> cases hstage
  · obtain ⟨stage', hstage', hnext⟩ := stage?_step ho h hc
    rw [hs, Option.some.injEq] at hstage'
    subst hstage'
    generalize hwaiting : Stage.wait name deadline stage next = waiting at hnext
    cases hnext with
    | acted hact hstep =>
      subst hact hwaiting
      obtain ⟨e, stage', hstep', rfl, -⟩ := step_of_stage? hc h
      rw [hstep] at hstep'
      obtain ⟨rfl, -, rfl⟩ := hstep'
      rcases taskStep_wait hstep with ⟨s, rfl⟩ | ⟨limit, rfl, rfl, -⟩
      · cases taskStep_iff.mp hstep with
        | wait hwait => exact .went hc hwait rfl
      · cases hstep
        exact .began
    | kept => exact .kept (hwaiting ▸ hc)
    | woken =>
      cases before with
      | wait =>
        cases hwaiting
        exact .woken hc
      | _ => cases hwaiting
    | ended => cases hwaiting

end Waits

theorem Alert.step (ha : Alert c) (ho : Orderly c) (h : c.step action = some (d, events)) :
    Alert d where
  unaware {number name deadline stage next} hs hstage := by
    rcases step_properties h with ⟨name', value, -, -, hwoken⟩ | ⟨hsame, -⟩
    · rw [hwoken number] at hs
      obtain ⟨_, -, hwake⟩ := Option.map_eq_some_iff.mp hs
      exact absurd hstage (by simp [Stage.isUnaware_of_wake hwake])
    rw [property?, hsame]
    cases waitNext_of_step ho h hs with
    | began => cases hstage
    | went hc hwait =>
      cases waitStep_iff.mp hwait with
      | enter | wake => cases hstage
      | miss hnone => exact hnone
      | @doze notified =>
        cases notified with
        | false => exact ha.unaware hc rfl
        | true => cases hstage
    | kept hc => exact ha.unaware hc hstage
    | @woken before hc => cases before <;> cases hstage
  asleep {number name deadline next} hs := by
    have huntold : c.Untold → d.Untold := fun hu => hu.step ho h fun a choice haction hn =>
      absurd (told_of_notify (haction ▸ h) hn hs) (by simp [WaitStage.isUnaware])
    generalize hstage : WaitStage.asleep false = stage at hs
    cases waitNext_of_step ho h hs with
    | began => cases hstage
    | went hc hwait hclosing =>
      subst hstage
      cases waitStep_iff.mp hwait with
      | doze hopen => exact .inl (hclosing.trans hopen)
    | kept hc => exact huntold (ha.asleep (hstage ▸ hc))
    | @woken before hc => cases before <;> cases hstage

theorem alert_after (actions : List (Action ω ρ)) :
    Alert ((start setup world guarded).after actions) := by
  refine (run_induction (P := fun _ c => Orderly c ∧ Alert c) (start setup world guarded)
    ⟨orderly_after setup world guarded [], ⟨fun hs => ?_, fun hs => ?_⟩⟩ ?_ actions).2
  · cases hs
  · cases hs
  · rintro past c action d events ⟨ho, ha⟩ h
    exact ⟨ho.step h, ha.step ho h⟩

/-! ## When a wait has last looked -/

/-- A task is about to look a property up. -/
def Looks (c : Channel ω ρ) (number : ℕ) (name : String) : Prop :=
  ∃ deadline notified next, c.stage? number = some (.wait name deadline (.look notified) next)

/-- A task has looked a property up and not found it, and has not been back to look again. -/
def HasLooked (c : Channel ω ρ) (number : ℕ) (name : String) : Prop :=
  ∃ deadline stage next, c.stage? number = some (.wait name deadline stage next) ∧
    stage.hasLooked = true

/-- The part of a run up to where a task that waits for a property looks it up, for the last time in
the run. -/
structure LastLook (c : Channel ω ρ) (number : ℕ) (name : String)
    (looked actions : List (Action ω ρ)) : Prop where
  of_run : looked <+: actions
  looks : (c.after looked).Looks number name
  since : ∀ past, looked <+: past → past <+: actions → past ≠ looked →
    (c.after past).HasLooked number name

theorem LastLook.refl {number : ℕ} {name : String} {actions : List (Action ω ρ)}
    (h : (c.after actions).Looks number name) : LastLook c number name actions actions where
  of_run := List.prefix_rfl
  looks := h
  since _ hpre hpost hne := absurd (hpost.eq_of_length_le hpre.length_le) hne

theorem LastLook.concat {number : ℕ} {name : String} {looked actions : List (Action ω ρ)}
    (h : LastLook c number name looked actions)
    (hc : (c.after (actions ++ [action])).HasLooked number name) :
    LastLook c number name looked (actions ++ [action]) where
  of_run := h.of_run.trans (List.prefix_append _ _)
  looks := h.looks
  since past hpre hpost hne := by
    rcases List.prefix_concat_iff.mp hpost with rfl | hpost
    · exact hc
    · exact h.since past hpre hpost hne

/-- Who has looked and found nothing has just done so, or had done so before. -/
theorem HasLooked.of_step {number : ℕ} {name : String} (ho : Orderly c)
    (h : c.step action = some (d, events)) (hd : d.HasLooked number name) :
    (c.Looks number name ∧ c.property? name = none) ∨ c.HasLooked number name := by
  obtain ⟨deadline, stage, next, hs, hstage⟩ := hd
  cases waitNext_of_step ho h hs with
  | began => cases hstage
  | went hc hwait =>
    cases waitStep_iff.mp hwait with
    | enter | wake => cases hstage
    | miss hnone => exact .inl ⟨⟨_, _, _, hc⟩, hnone⟩
    | doze => exact .inr ⟨_, _, _, hc, rfl⟩
  | kept hc => exact .inr ⟨_, _, _, hc, hstage⟩
  | @woken before hc =>
    refine .inr ⟨_, before, _, hc, ?_⟩
    cases before <;> first | rfl | cases hstage

/-- **When a wait has last looked**: there was nothing then. -/
theorem exists_lastLook {number : ℕ} {name : String} {actions : List (Action ω ρ)}
    (h : ((start setup world guarded).after actions).HasLooked number name) :
    ∃ looked, LastLook (start setup world guarded) number name looked actions ∧
      ((start setup world guarded).after looked).property? name = none := by
  induction actions using List.reverseRecOn with
  | nil =>
    obtain ⟨_, _, _, hs, -⟩ := h
    cases hs
  | append_singleton actions action ih =>
    have hbefore : (((start setup world guarded).after actions).Looks number name ∧
        ((start setup world guarded).after actions).property? name = none) ∨
        ((start setup world guarded).after actions).HasLooked number name := by
      rcases hstep : ((start setup world guarded).after actions).step action with _ | ⟨d, events⟩
      · rw [after_append, after_cons_of_disabled hstep] at h
        exact .inr h
      · rw [after_append, after_cons_of_step hstep] at h
        exact HasLooked.of_step (orderly_after setup world guarded actions) hstep h
    rcases hbefore with ⟨hlooks, hnone⟩ | hlooked
    · exact ⟨actions, (LastLook.refl hlooks).concat h, hnone⟩
    · obtain ⟨looked, hlast, hnone⟩ := ih hlooked
      exact ⟨looked, hlast.concat h, hnone⟩

/-! ## What a wait ends with -/

/-- What a wait for a property that has begun at a time ends with, where `seen` is what was known when
it last looked: the value that is there; or there was none, and the channel is closing; or there is
none and the time has run out, before those who wait were told that the channel is closing. -/
inductive Observes (c : Channel ω ρ) (seen : Option Json) (name : String) (limit : Option ℕ)
    (began : ℕ) : Option (Except ChannelError Json) → Prop
  | there (value : Json) (known : c.property? name = some value) :
    Observes c seen name limit began (some (.ok value))
  | closed (unknown : seen = none) (closing : c.closing = true) :
    Observes c seen name limit began (some (.error .closed))
  | late (millis : ℕ) (limited : limit = some millis) (unknown : c.property? name = none)
    (untold : c.Untold) (time : began + millis ≤ c.clock) : Observes c seen name limit began none

/-- **What a wait ends with.** -/
theorem observes_of_waitStep {actions : List (Action ω ρ)} {number : ℕ} {name : String}
    {limit : Option ℕ} {began : ℕ} {stage : WaitStage}
    {next : Option (Except ChannelError Json) → Routine ω ρ Unit}
    {result : Option (Except ChannelError Json)}
    (hs : ((start setup world guarded).after actions).stage? number =
      some (.wait name (limit.map (began + ·)) stage next))
    (h : ((start setup world guarded).after actions).waitStep name (limit.map (began + ·)) stage
      choice = some (.finished result)) :
    ∃ looked, LastLook (start setup world guarded) number name looked actions ∧
      Observes ((start setup world guarded).after actions)
        (((start setup world guarded).after looked).property? name) name limit began result := by
  have hlast := fun hstage => exists_lastLook setup world guarded ⟨_, stage, next, hs, hstage⟩
  generalize hdeadline : limit.map (began + ·) = deadline at h
  cases waitStep_iff.mp h with
  | find hvalue => exact ⟨actions, .refl ⟨_, _, _, hs⟩, .there _ hvalue⟩
  | giveUp hclosing =>
    obtain ⟨looked, hlast, hnone⟩ := hlast rfl
    exact ⟨looked, hlast, .closed hnone hclosing⟩
  | expire hlimited htime =>
    -- Who is asleep has been told of nothing.
    obtain ⟨looked, hlast, -⟩ := hlast rfl
    have ha := alert_after setup world guarded actions
    obtain ⟨millis, rfl, rfl⟩ := Option.map_eq_some_iff.mp (hdeadline.trans hlimited)
    exact ⟨looked, hlast, .late millis rfl (ha.unaware hs rfl) (ha.asleep hs) htime⟩

end Channel

end CommandLink
