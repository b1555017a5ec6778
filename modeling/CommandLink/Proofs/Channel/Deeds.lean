import CommandLink.Proofs.Channel.Alone
import CommandLink.Proofs.Channel.History

/-!
# What tasks do in a run

In every run of a channel a task does what its routine does by itself with the replies that the task
has got to its own calls, as far as the task has come (`deeds_after`). What the other tasks do, and
what replies they get, makes no difference to it.
-/

namespace CommandLink

variable {ω ρ : Type}

/-- What the next step of a task in a stage does to the outside. -/
def Stage.deed? : Stage ω ρ → Option (Deed ρ)
  | .ready (.ask op _) => op.deed?
  | _ => none

/-- Whether a task in a stage has not begun the first operation of its routine. -/
def Stage.isReady : Stage ω ρ → Bool
  | .ready _ => true
  | _ => false

/-- What a task does to the outside with an action. -/
def Channel.deed? (c : Channel ω ρ) (number : ℕ) : Action ω ρ → Option (Deed ρ)
  | .agent a _ => if a = .task number then (c.stage? number).bind Stage.deed? else none
  | _ => none

/-- What a task does to the outside at a moment. -/
def Moment.deed? (number : ℕ) (m : Moment ω ρ) : Option (Deed ρ) := m.before.deed? number m.action

/-- The result with which a call of an agent returns. -/
def Note.result? (a : Agent) : Note → Option (Except ChannelError Reply)
  | .completed b result => if b = a then some result else none
  | _ => none

namespace Channel

/-- What a task does to the outside in a run. -/
def deeds (c : Channel ω ρ) (actions : List (Action ω ρ)) (number : ℕ) : List (Deed ρ) :=
  (c.moments actions).filterMap (Moment.deed? number)

/-- What the calls of a task return in a run. -/
def replies (c : Channel ω ρ) (actions : List (Action ω ρ)) (number : ℕ) : Replies :=
  (c.history actions).filterMap (Note.result? (.task number))

variable {c d : Channel ω ρ} {action : Action ω ρ} {events : List (Event ρ)} {number : ℕ}
  {routine : Routine ω ρ Unit} {heard : List (Heard ω)}

/-! ## Replies -/

/-- Only calls are replied to. -/
theorem reply?_of_stageHeard? {stage : Stage ω ρ} {choice : Choice} {x : Heard ω}
    (hn : ∀ s next, stage ≠ .call s next)
    (hx : c.stageHeard? (.task number) choice stage = some x) : x.reply? = none := by
  cases stage
  case ready routine =>
    rcases routine with _ | ⟨op, next⟩
    · cases hx
    · cases op
      case change => cases hx; rfl
      case log => cases hx; rfl
      case report => cases hx; rfl
      all_goals cases hx
  case call s next => exact absurd rfl (hn s next)
  case publish =>
    obtain ⟨stepped, -, hmap⟩ := Option.bind_eq_some_iff.mp hx
    obtain ⟨result, -, rfl⟩ := Option.map_eq_some_iff.mp hmap
    rfl
  case respond =>
    obtain ⟨stepped, -, hdone⟩ := Option.bind_eq_some_iff.mp hx
    split at hdone
    all_goals cases hdone
    rfl
  case wait =>
    obtain ⟨progress, -, hmap⟩ := Option.bind_eq_some_iff.mp hx
    obtain ⟨result, -, rfl⟩ := Option.map_eq_some_iff.mp hmap
    rfl
  case close =>
    obtain ⟨stepped, -, hmap⟩ := Option.bind_eq_some_iff.mp hx
    obtain ⟨result, -, rfl⟩ := Option.map_eq_some_iff.mp hmap
    rfl
  all_goals
    cases hx
    try rfl

/-- A task hears what its calls return. -/
theorem result?_of_stage {stage : Stage ω ρ} {choice : Choice} (hs : c.stage? number = some stage) :
    (c.note? (.agent (.task number) choice)).bind (Note.result? (.task number)) =
      (c.stageHeard? (.task number) choice stage).bind Heard.reply? := by
  by_cases hn : ∀ s next, stage ≠ .call s next
  · have hheard : (c.stageHeard? (.task number) choice stage).bind Heard.reply? = none :=
      Option.bind_eq_none_iff.mpr fun x hx => reply?_of_stageHeard? hn hx
    rw [hheard, note?, hs]
    cases stage with
    | ready left =>
      cases left with
      | done => rfl
      | ask op next => cases op <;> rfl
    | call s next => exact absurd rfl (hn s next)
    | _ => rfl
  · push Not at hn
    obtain ⟨s, next, rfl⟩ := hn
    rw [note?, hs]
    rcases hstep : c.callStep (.task number) s choice with _ | ⟨e, events, s' | result⟩
    · simp [stageHeard?, hstep]
    · simp only [stageHeard?, hstep, Option.bind_some, Progress.result?, Option.map_none,
        Option.bind_none]
      cases s' <;> cases s <;> rfl
    · simp [stageHeard?, hstep, Progress.result?, callNote?, Note.result?, Heard.reply?]

/-- What happens to the calls of a task happens while it acts. -/
theorem result?_eq_none (ha : action.agent? ≠ some (.task number)) :
    (c.note? action).bind (Note.result? (.task number)) = none := by
  rw [Option.bind_eq_none_iff]
  intro note hnote
  cases noted_of_note? hnote with
  | completed => exact if_neg fun heq => ha (congrArg some heq)
  | _ => rfl

theorem result?_note? (c : Channel ω ρ) (number : ℕ) (action : Action ω ρ) :
    (c.note? action).bind (Note.result? (.task number)) =
      (c.heard? number action).bind Heard.reply? := by
  by_cases ha : action.agent? = some (.task number)
  · obtain ⟨choice, rfl⟩ := exists_choice_of_agent? ha
    rw [heard?, if_pos rfl]
    rcases hs : c.stage? number with _ | stage
    · simp [note?, hs]
    · exact result?_of_stage hs
  · rw [heard?_eq_none ha, result?_eq_none ha, Option.bind_none]

/-- The replies to the calls of a task are those that it hears. -/
theorem replies_eq (c : Channel ω ρ) (actions : List (Action ω ρ)) (number : ℕ) :
    c.replies actions number = (c.heard actions number).filterMap Heard.reply? := by
  rw [replies, history, Channel.heard, List.filterMap_filterMap, List.filterMap_filterMap]
  exact List.filterMap_congr fun m _ => result?_note? m.before number m.action

/-! ## The steps of a task -/

/-- What a routine has done in a stage, behind what it has heard. -/
def begun (left : Routine ω ρ Unit) (stage : Stage ω ρ) : List (Deed ρ) :=
  if stage.isReady then [] else Routine.firstDeed left

/-- A task goes on with its routine when it has heard an answer. -/
theorem isSome_of_ready {a : Agent} {stage stage' : Stage ω ρ} {choice : Choice}
    (h : c.taskStep a stage choice = some (d, events, stage')) (hr : stage'.isReady = true) :
    (c.stageHeard? a choice stage).isSome = true := by
  cases taskStep_iff.mp h with
  | @ask op next =>
    cases op
    case change => rfl
    case log => rfl
    case report => rfl
    all_goals cases hr
  | called hcall => simp [stageHeard?, hcall]
  | published hsend => simp [stageHeard?, hsend]
  | responded hsend hlast => simp [stageHeard?_responded hsend hlast]
  | waited hwait => simp [stageHeard?, hwait]
  | closed hclose => simp [stageHeard?, hclose]
  | told | slept | resume => rfl
  | stop | call | publish | respond | replace | wait | close => cases hr

/-- A task that goes on has then done the first operation of its routine. -/
theorem begun_append_deed? {left : Routine ω ρ Unit} {stage : Stage ω ρ}
    (hp : Stage.Performs c.setup.frameLimit left stage) :
    begun left stage ++ stage.deed?.toList = Routine.firstDeed left := by
  cases hp
  case ready =>
    rcases left with _ | ⟨op, next⟩
    · rfl
    · rfl
  all_goals exact List.append_nil _

/-! ## The tasks of a run -/

/-- What a task has done is what its routine does along what it has heard, and what it has begun to
do. -/
def Did (c : Channel ω ρ) (number : ℕ) (routine : Routine ω ρ Unit) (heard : List (Heard ω))
    (deeds : List (Deed ρ)) : Prop :=
  ∃ left stage, Routine.follow routine heard = some left ∧ c.stage? number = some stage ∧
    ((Stage.Performs c.setup.frameLimit left stage ∧
        deeds = Routine.deedsAlong routine heard ++ begun left stage) ∨
      (stage = .done ∧ c.closing = true ∧ ∃ stage',
        deeds = Routine.deedsAlong routine heard ++ begun left stage'))

theorem deed?_eq_none (ha : action.agent? ≠ some (.task number)) :
    c.deed? number action = none := by
  cases action with
  | agent a choice => exact if_neg fun heq => ha (congrArg some heq)
  | _ => rfl

theorem begun_wake (left : Routine ω ρ Unit) (stage : Stage ω ρ) :
    begun left (Stage.wake stage) = begun left stage := by
  cases stage <;> rfl

/-- What a task has done is still what its routine does after every step, whoever acts. -/
theorem Did.step {deeds : List (Deed ρ)} (hf : c.Did number routine heard deeds) (ho : Orderly c)
    (h : c.step action = some (d, events)) :
    d.Did number routine (heard ++ (c.heard? number action).toList)
      (deeds ++ (c.deed? number action).toList) := by
  obtain ⟨left, stage, hleft, hstage, hp⟩ := hf
  obtain ⟨stage', hstage', hnext⟩ := stage?_step ho h hstage
  have hsetup := (step_others h).setup
  cases hnext with
  | acted hact hstep =>
    subst hact
    rw [heard?, if_pos rfl, deed?, if_pos rfl, hstage, Option.bind_some, Option.bind_some]
    rcases hp with ⟨hp, rfl⟩ | ⟨rfl, -⟩
    · rw [List.append_assoc, begun_append_deed? hp]
      rcases taskStep_goesOn hp hstep with ⟨hheard, hp'⟩ | ⟨x, left', hheard, hleft', rfl⟩
      · have hready : stage'.isReady = false := by
          by_contra hready
          have hsome := isSome_of_ready hstep ((Bool.not_eq_false _).mp hready)
          rw [hheard] at hsome
          cases hsome
        rw [hheard, Option.toList_none, List.append_nil]
        refine ⟨left, stage', hleft, hstage', .inl ⟨hsetup ▸ hp', ?_⟩⟩
        rw [begun, hready]
        rfl
      · refine ⟨left', .ready left', ?_, hstage', .inl ⟨.ready left', ?_⟩⟩
        · rw [hheard, Routine.follow_append, hleft, Option.bind_some]
          exact hleft'
        · rw [hheard, Option.toList_some, Routine.deedsAlong_append hleft,
            Routine.deedsAlong_singleton hleft']
          exact (List.append_nil _).symm
    · cases hstep
  | kept ha =>
    rw [heard?_eq_none ha, deed?_eq_none ha, Option.toList_none, Option.toList_none,
      List.append_nil, List.append_nil, Did, hsetup]
    exact ⟨left, stage, hleft, hstage',
      hp.imp_right (And.imp_right (And.imp_left (closing_of_step h)))⟩
  | woken ha =>
    rw [heard?_eq_none ha, deed?_eq_none ha, Option.toList_none, Option.toList_none,
      List.append_nil, List.append_nil, Did, hsetup]
    refine ⟨left, _, hleft, hstage', ?_⟩
    rcases hp with ⟨hp, hdeeds⟩ | ⟨rfl, hc, hdeeds⟩
    · exact .inl ⟨hp.wake, by rw [begun_wake, hdeeds]⟩
    · exact .inr ⟨rfl, closing_of_step h hc, hdeeds⟩
  | ended ha hc =>
    rw [heard?_eq_none ha, deed?_eq_none ha, Option.toList_none, Option.toList_none,
      List.append_nil, List.append_nil]
    exact ⟨left, .done, hleft, hstage', .inr ⟨rfl, hc, hp.elim (fun hp => ⟨_, hp.2⟩) (·.2.2)⟩⟩

theorem deed?_of_length_le (h : c.tasks.length ≤ number) : c.deed? number action = none := by
  unfold deed?
  split
  · rw [stage?, List.getElem?_eq_none h]
    simp
  · rfl

/-- What holds of the deeds of the tasks of a channel after what has happened. -/
structure Acted (past : List (Moment ω ρ)) (c : Channel ω ρ) : Prop where
  begun : Begun past c
  silent : ∀ number, c.tasks.length ≤ number → past.filterMap (Moment.deed? number) = []
  did : ∀ (number : ℕ) (origin : Origin ω ρ),
    (past.filterMap Moment.origin?)[number]? = some origin →
    c.Did number (origin.routine c.setup.handler) (past.filterMap (Moment.heard? number))
      (past.filterMap (Moment.deed? number))

theorem Acted.step {past : List (Moment ω ρ)} (ha : Acted past c)
    (h : c.step action = some (d, events)) : Acted (past ++ [⟨c, action, d, events⟩]) d := by
  refine ⟨ha.begun.step h, fun number hnumber => ?_, fun number origin horigin => ?_⟩
  · have hc := Nat.le_trans (length_le_of_step h) hnumber
    rw [filterMap_concat, ha.silent number hc, Moment.deed?, deed?_of_length_le hc]
    rfl
  · rw [filterMap_concat, filterMap_concat, (step_others h).setup]
    rcases ha.begun.origin_cases horigin with hold | ⟨rfl, hnew⟩
    · exact (ha.did number origin hold).step ha.begun.orderly h
    · rw [ha.begun.silent _ (Nat.le_refl _), ha.silent _ (Nat.le_refl _), Moment.heard?,
        Moment.deed?, heard?_of_length_le (Nat.le_refl _), deed?_of_length_le (Nat.le_refl _), Option.toList_none,
        Option.toList_none, List.append_nil, List.append_nil]
      refine ⟨_, _, Routine.follow_nil _, (step_origin h hnew).2, .inl ⟨.ready _, ?_⟩⟩
      rw [Routine.deedsAlong_nil]
      rfl

/-- The world that a task finds is that of the channel. -/
theorem eq_world_of_stageHeard? {a : Agent} {choice : Choice} {stage : Stage ω ρ} {w : ω}
    (h : c.stageHeard? a choice stage = some (.world w)) : w = c.world := by
  cases stage
  case ready routine =>
    rcases routine with _ | ⟨op, next⟩
    · cases h
    · cases op
      case change => cases h; rfl
      all_goals cases h
  case respond =>
    obtain ⟨stepped, -, hdone⟩ := Option.bind_eq_some_iff.mp h
    split at hdone
    all_goals cases hdone
  case wait =>
    obtain ⟨progress, -, hmap⟩ := Option.bind_eq_some_iff.mp h
    obtain ⟨result, -, hheard⟩ := Option.map_eq_some_iff.mp hmap
    cases hheard
  case awaitClosed => cases h
  case sleep => cases h
  case pause => cases h
  case hang => cases h
  case done => cases h
  all_goals
    obtain ⟨stepped, -, hmap⟩ := Option.bind_eq_some_iff.mp h
    obtain ⟨result, -, hheard⟩ := Option.map_eq_some_iff.mp hmap
    cases hheard

theorem eq_world_of_heard? {w : ω} (h : c.heard? number action = some (.world w)) :
    w = c.world := by
  unfold heard? at h
  split at h
  · split_ifs at h
    obtain ⟨stage, -, hheard⟩ := Option.bind_eq_some_iff.mp h
    exact eq_world_of_stageHeard? hheard
  · cases h

/-! ## The world -/

/-- Only a routine changes the world. -/
theorem world_step (h : c.step action = some (d, events)) :
    d.world = c.world ∨ ∃ number choice f next, action = .agent (.task number) choice ∧
      c.stage? number = some (.ready (.ask (.change f) next)) ∧ d.world = f c.world := by
  cases step_iff.mp h with
  | reader hstep =>
    have hworld := world_readerStep hstep
    exact .inl hworld
  | heartbeat hstep => exact .inl (spares_heartbeatStep hstep).world
  | @task number choice _ _ _ _ ht hstep =>
    rcases spares_taskStep hstep with hspares | ⟨f, next, hstage, rfl⟩
    · exact .inl hspares.world
    · exact .inr ⟨number, choice, f, next, rfl, by rw [stage?_task ht, hstage], rfl⟩
  | deliver | endInput | start | elapse => exact .inl rfl

variable (setup : ChannelSetup ω ρ) (world : ω) (guarded : Bool)

/-- The world stays as it is while all routines leave it as it is. -/
theorem world_after {actions : List (Action ω ρ)}
    (hstill : ∀ origin ∈ (start setup world guarded).origins actions,
      Dialogue.All Op.Still (fun _ => True) (origin.routine setup.handler)) :
    (∀ m ∈ (start setup world guarded).moments actions, m.before.world = world) ∧
      ((start setup world guarded).after actions).world = world := by
  refine (run_induction (P := fun past c => Begun past c ∧ c.setup = setup ∧
      ((∀ origin ∈ past.filterMap Moment.origin?,
        Dialogue.All Op.Still (fun _ => True) (origin.routine setup.handler)) →
      (∀ m ∈ past, m.before.world = world) ∧ c.world = world)) (start setup world guarded)
    ⟨begun_after setup world guarded [], rfl, fun _ => ⟨by simp, rfl⟩⟩ ?_ actions).2.2 hstill
  rintro past c action d events ⟨hb, hsetup, hworld⟩ h
  refine ⟨hb.step h, (step_others h).setup.trans hsetup, fun hstill => ?_⟩
  have hpast : ∀ origin ∈ past.filterMap Moment.origin?,
      Dialogue.All Op.Still (fun _ => True) (origin.routine setup.handler) := by
    intro origin hmem
    refine hstill origin ?_
    rw [filterMap_concat]
    exact List.mem_append_left _ hmem
  obtain ⟨hbefore, hc⟩ := hworld hpast
  refine ⟨fun m hm => ?_, ?_⟩
  · rcases List.mem_append.mp hm with hm | hm
    · exact hbefore m hm
    · rw [List.mem_singleton.mp hm, hc]
  · rcases world_step h with hkept | ⟨number, choice, f, next, -, hstage, hchanged⟩
    · rw [hkept, hc]
    · -- The routine of the task leaves the world as it is.
      obtain ⟨origin, horigin⟩ := hb.origin_of_stage hstage
      have hleft := hb.follow_of_ready horigin hstage
      rw [hsetup] at hleft
      have hf : f = id := ((hpast _ (List.mem_of_getElem? horigin)).follow hleft).1
      rw [hchanged, hf, hc]
      rfl

/-! ## The deeds of a run -/

theorem acted_after (actions : List (Action ω ρ)) :
    Acted ((start setup world guarded).moments actions)
      ((start setup world guarded).after actions) :=
  run_induction (P := Acted) _ ⟨begun_after setup world guarded [], fun _ _ => rfl, by simp⟩
    (fun _ _ _ _ _ ha h => ha.step h) actions

/-- **What a task does** in a world that nothing changes is what its routine does by itself with the
replies to the calls of the task, as far as the task has come. It has come as far as that when it
waits for a reply. -/
theorem deeds_after {known : ω} {actions : List (Action ω ρ)} {origin : Origin ω ρ}
    (hworld : ∀ m ∈ (start setup world guarded).moments actions, m.before.world = known)
    (horigin : ((start setup world guarded).origins actions)[number]? = some origin)
    (ht : Dialogue.All Op.Tame (fun _ => True) (origin.routine setup.handler)) :
    let alone := Routine.alone known (origin.routine setup.handler)
      ((start setup world guarded).replies actions number)
    (start setup world guarded).deeds actions number <+: alone.deeds ∧
      ∀ stage next,
        ((start setup world guarded).after actions).stage? number = some (.call stage next) →
        (start setup world guarded).deeds actions number = alone.deeds := by
  intro alone
  have hdid := (acted_after setup world guarded actions).did number origin horigin
  rw [setup_after] at hdid
  obtain ⟨left, stage, hleft, hstage, hdone⟩ := hdid
  have hheard : ∀ w, .world w ∈ (start setup world guarded).heard actions number → w = known := by
    intro w hw
    obtain ⟨m, hm, hw⟩ := List.mem_filterMap.mp hw
    rw [eq_world_of_heard? hw, hworld m hm]
  have halone : alone.deeds = Routine.deedsAlong (origin.routine setup.handler)
      ((start setup world guarded).heard actions number) ++
        (Routine.alone known left []).deeds := by
    have hfollow := Routine.alone_follow ht hleft hheard []
    rw [List.append_nil, ← Channel.heard, ← replies_eq] at hfollow
    exact congrArg Solo.deeds hfollow
  have hbegun : ∀ stage : Stage ω ρ, begun left stage <+: (Routine.alone known left []).deeds := by
    intro stage
    rw [begun]
    split_ifs
    · exact List.nil_prefix
    · exact Routine.firstDeed_prefix left []
  rw [halone]
  constructor
  · rcases hdone with ⟨-, hdeeds⟩ | ⟨-, -, stage', hdeeds⟩
    · rw [deeds, hdeeds]
      exact (List.prefix_append_right_inj _).mpr (hbegun stage)
    · rw [deeds, hdeeds]
      exact (List.prefix_append_right_inj _).mpr (hbegun stage')
  · intro stage' next hcall
    rw [hcall, Option.some.injEq] at hstage
    subst hstage
    rcases hdone with ⟨hperforms, hdeeds⟩ | ⟨hdone, -⟩
    · rw [deeds, hdeeds]
      cases hperforms
      rfl
    · cases hdone

end Channel

end CommandLink
