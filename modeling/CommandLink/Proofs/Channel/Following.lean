import CommandLink.Proofs.Channel.Closing

/-!
# How a task follows its routine

What a task hears is the answers to the operations of its routine (`Heard`, `Channel.heard`), and
`Routine.follow` is what is left of a routine after some answers. At every moment of a run a task
performs what is left of its routine after all that it has heard, unless it has been ended with the
channel (`follows_after`). So a task depends on the others only through what it hears.
-/

namespace CommandLink

variable {ω ρ α β : Type}

/-- What a task hears after an operation. -/
inductive Heard (ω : Type) where
  | reply (result : Except ChannelError Reply)
  | sent (result : Except ChannelError Unit)
  | found (result : Option (Except ChannelError Json))
  | world (world : ω)
  /-- The operation has no result. -/
  | done

/-- The answer to an operation that is heard, if it can be one. -/
def Op.answer? : (op : Op ω ρ) → Heard ω → Option op.Answer
  | .call _, .reply result => some result
  | .publish _ _, .sent result => some result
  | .respond _ _, .done => some ()
  | .property _ _, .found result => some result
  | .closed, .done => some ()
  | .close, .done => some ()
  | .change _, .world w => some w
  | .log _, .done => some ()
  | .sleep _, .done => some ()
  | .pause, .done => some ()
  | .report _, .done => some ()
  | _, _ => none

/-! ## What is left of a routine -/

namespace Routine

/-- What is left of a routine that has heard some answers. -/
def follow : Routine ω ρ α → List (Heard ω) → Option (Routine ω ρ α)
  | routine, [] => some routine
  | .done _, _ :: _ => none
  | .ask op next, heard :: later => (op.answer? heard).bind fun a => follow (next a) later

@[simp]
theorem follow_nil (routine : Routine ω ρ α) : follow routine [] = some routine := by
  cases routine <;> rfl

theorem follow_done {result : α} {heard : List (Heard ω)} {left : Routine ω ρ α}
    (h : follow (.done result) heard = some left) : heard = [] ∧ left = .done result := by
  cases heard with
  | nil => exact ⟨rfl, (Option.some.inj h).symm⟩
  | cons first later => cases h

theorem follow_append (routine : Routine ω ρ α) (heard later : List (Heard ω)) :
    follow routine (heard ++ later) =
      (follow routine heard).bind fun left => follow left later := by
  induction heard generalizing routine with
  | nil => simp
  | cons first heard ih =>
    cases routine with
    | done result => rfl
    | ask op next =>
      rw [List.cons_append, follow, follow, Option.bind_assoc]
      exact Option.bind_congr fun a _ => ih (next a)

end Routine

/-- All that a dialogue asks and all that it can end with has a property. -/
def Dialogue.All {Q : Type} {A : Q → Type} (P : Q → Prop) (R : α → Prop) : Dialogue Q A α → Prop
  | .done result => R result
  | .ask question next => P question ∧ ∀ answer, (next answer).All P R

section Dialogue

variable {Q Q' : Type} {A : Q → Type} {A' : Q' → Type} {P P' : Q → Prop} {R : α → Prop}
  {S : β → Prop}

theorem Dialogue.All.mono {d : Dialogue Q A α} (h : Dialogue.All P R d) (hp : ∀ q, P q → P' q) :
    Dialogue.All P' R d := by
  induction d with
  | done result => exact h
  | ask q next ih => exact ⟨hp q h.1, fun a => ih a (h.2 a)⟩

theorem Dialogue.All.bind {d : Dialogue Q A α} {next : α → Dialogue Q A β}
    (h : Dialogue.All P R d) (hnext : ∀ a, R a → Dialogue.All P S (next a)) :
    Dialogue.All P S (d.bind next) := by
  induction d with
  | done result => exact hnext result h
  | ask q f ih => exact ⟨h.1, fun a => ih a (h.2 a)⟩

theorem Dialogue.All.interpret {P' : Q' → Prop} {answer : (q : Q) → Dialogue Q' A' (A q)}
    (h : ∀ q, Dialogue.All P' (fun _ => True) (answer q)) (d : Dialogue Q A α) :
    Dialogue.All P' (fun _ => True) (d.interpret answer) := by
  induction d with
  | done result => trivial
  | ask q next ih => exact (h q).bind fun a _ => ih a

end Dialogue

theorem Dialogue.All.follow {P : Op ω ρ → Prop} {R : α → Prop} {routine left : Routine ω ρ α}
    {heard : List (Heard ω)} (h : Dialogue.All P R routine)
    (hleft : Routine.follow routine heard = some left) : Dialogue.All P R left := by
  induction heard generalizing routine with
  | nil =>
    rw [Routine.follow_nil, Option.some.injEq] at hleft
    exact hleft ▸ h
  | cons first heard ih =>
    cases routine with
    | done result => cases hleft
    | ask op next =>
      obtain ⟨a, -, hnext⟩ := Option.bind_eq_some_iff.mp hleft
      exact ih (h.2 a) hnext

/-! ## What a task does for its routine -/

/-- What is sent is a frame, as far as it has not been encoded. -/
def SendStage.Carries (frame : Frame) : SendStage → Prop
  | .encode f => f = frame
  | _ => True

/-- What is made is a call, as far as its request has not been encoded. -/
def CallStage.Carries (call : Call) : CallStage → Prop
  | .check c => c = call
  | .draw c => c = call
  | .register _ c => c = call
  | .recheck _ c => c = call
  | .send _ stage => ∃ id, stage.Carries (.request id call)
  | _ => True

/-- A task that is in a stage performs the first operation of a routine, on a channel with a limit
for frames. -/
inductive Stage.Performs (limit : ℕ) : Routine ω ρ Unit → Stage ω ρ → Prop
  | ready (routine : Routine ω ρ Unit) : Stage.Performs limit routine (.ready routine)
  | call (call : Call) (stage : CallStage) (next : Except ChannelError Reply → Routine ω ρ Unit)
    (carries : stage.Carries call) : Stage.Performs limit (.ask (.call call) next) (.call stage next)
  | publish (name : String) (value : Json) (stage : SendStage)
    (next : Except ChannelError Unit → Routine ω ρ Unit)
    (carries : stage.Carries (.property name value)) :
    Stage.Performs limit (.ask (.publish name value) next) (.publish stage next)
  | respond (id : CallId) (result : Except Failure Reply) (stage : SendStage)
    (next : Unit → Routine ω ρ Unit) (carries : stage.Carries (.response id result)) :
    Stage.Performs limit (.ask (.respond id result) next) (.respond id false stage next)
  /-- The answer cannot be sent, and its error is sent instead. -/
  | refuse (id : CallId) (result : Except Failure Reply) (e : FrameError) (stage : SendStage)
    (next : Unit → Routine ω ρ Unit) (refused : (Frame.response id result).wire limit = .error e)
    (carries : stage.Carries (.response id (.error ⟨e.message⟩))) :
    Stage.Performs limit (.ask (.respond id result) next) (.respond id true stage next)
  | property (name : String) (millis deadline : Option ℕ) (stage : WaitStage)
    (next : Option (Except ChannelError Json) → Routine ω ρ Unit) :
    Stage.Performs limit (.ask (.property name millis) next) (.wait name deadline stage next)
  | closed (next : Unit → Routine ω ρ Unit) :
    Stage.Performs limit (.ask .closed next) (.awaitClosed next)
  | close (stage : CloseStage) (next : Unit → Routine ω ρ Unit) :
    Stage.Performs limit (.ask .close next) (.close stage next)
  | sleep (millis time : ℕ) (next : Unit → Routine ω ρ Unit) :
    Stage.Performs limit (.ask (.sleep millis) next) (.sleep time next)
  | pause (next : Unit → Routine ω ρ Unit) : Stage.Performs limit (.ask .pause next) (.pause next)
  | hang (next : Empty → Routine ω ρ Unit) : Stage.Performs limit (.ask .hang next) .hang
  | done : Stage.Performs limit (.done ()) .done

theorem Stage.Performs.wake {limit : ℕ} {routine : Routine ω ρ Unit} {stage : Stage ω ρ}
    (h : Stage.Performs limit routine stage) :
    Stage.Performs limit routine (Channel.Stage.wake stage) := by
  cases stage
  case wait =>
    cases h
    exact .property ..
  all_goals exact h

namespace Channel

/-- What a task that is in a stage hears with its next step. -/
def stageHeard? (c : Channel ω ρ) (a : Agent) (choice : Choice) : Stage ω ρ → Option (Heard ω)
  | .ready (.ask (.change _) _) => some (.world c.world)
  | .ready (.ask (.log _) _) => some .done
  | .ready (.ask (.report _) _) => some .done
  | .ready _ => none
  | .call stage _ => (c.callStep a stage choice).bind fun s => s.2.2.result?.map .reply
  | .publish stage _ => (c.sendStep a stage choice).bind fun s => s.2.2.result?.map .sent
  | .respond _ last stage _ => (c.sendStep a stage choice).bind fun s =>
    match s.2.2, last with
    | .more _, _ => none
    | .finished (.error (.protocol _)), false => none
    | .finished _, _ => some .done
  | .wait name deadline stage _ =>
    (c.waitStep name deadline stage choice).bind fun p => p.result?.map .found
  | .close stage _ => (c.closeStep a stage choice).bind fun s => s.2.2.result?.map fun _ => .done
  | .awaitClosed _ => some .done
  | .sleep _ _ => some .done
  | .pause _ => some .done
  | .hang => none
  | .done => none

/-- What a task hears with an action. -/
def heard? (c : Channel ω ρ) (number : ℕ) : Action ω ρ → Option (Heard ω)
  | .agent a choice =>
    if a = .task number then (c.stage? number).bind (c.stageHeard? a choice) else none
  | _ => none

end Channel

/-- What a task hears at a moment. -/
def Moment.heard? (number : ℕ) (m : Moment ω ρ) : Option (Heard ω) :=
  m.before.heard? number m.action

/-- What a task hears in a run. -/
def Channel.heard (c : Channel ω ρ) (actions : List (Action ω ρ)) (number : ℕ) : List (Heard ω) :=
  (c.moments actions).filterMap (Moment.heard? number)

/-! ## What tasks are begun for -/

/-- What a task has been begun for. -/
inductive Origin (ω ρ : Type) where
  | started (routine : Routine ω ρ Unit)
  | requested (id : CallId) (call : Call)

/-- The routine of a task, on a channel with a handler. -/
def Origin.routine (handler : Handler ω ρ) : Origin ω ρ → Routine ω ρ Unit
  | .started routine => routine
  | .requested id call => handler.serve id call

namespace Channel

/-- What the task that begins with an action is begun for. -/
def origin? (c : Channel ω ρ) : Action ω ρ → Option (Origin ω ρ)
  | .start routine => some (.started routine)
  | .agent .reader .go =>
    match c.incoming? with
    | some (.request id call) => if c.closing then none else some (.requested id call)
    | _ => none
  | _ => none

end Channel

/-- What the task that begins at a moment is begun for. -/
def Moment.origin? (m : Moment ω ρ) : Option (Origin ω ρ) := m.before.origin? m.action

/-- A task keeps what it has been begun for. -/
theorem origin_append {past : List (Moment ω ρ)} {number : ℕ} {origin : Origin ω ρ}
    (h : (past.filterMap Moment.origin?)[number]? = some origin) (later : List (Moment ω ρ)) :
    ((past ++ later).filterMap Moment.origin?)[number]? = some origin := by
  rw [List.filterMap_append, List.getElem?_append_left (List.getElem?_eq_some_iff.mp h).1, h]

/-- What the tasks of a run have been begun for, in the order of their numbers. -/
def Channel.origins (c : Channel ω ρ) (actions : List (Action ω ρ)) : List (Origin ω ρ) :=
  (c.moments actions).filterMap Moment.origin?

namespace Channel

variable {c d : Channel ω ρ} {action : Action ω ρ} {events : List (Event ρ)} {number : ℕ}
  {routine : Routine ω ρ Unit}

/-! ## The steps of a task -/

/-- A frame is encoded only at first. -/
theorem sendStep_encoded {a : Agent} {stage stage' : SendStage} {choice : Choice}
    (h : c.sendStep a stage choice = some (d, events, .more stage')) (frame : Frame) :
    stage' ≠ .encode frame := by
  cases sendStep_iff.mp h <;> simp

theorem sendStep_carries {a : Agent} {stage stage' : SendStage} {choice : Choice}
    (h : c.sendStep a stage choice = some (d, events, .more stage')) (frame : Frame) :
    stage'.Carries frame := by
  cases stage' with
  | encode f => exact absurd rfl (sendStep_encoded h f)
  | _ => trivial

theorem callStep_carries {a : Agent} {stage stage' : CallStage} {choice : Choice} {call : Call}
    (h : c.callStep a stage choice = some (d, events, .more stage')) (hs : stage.Carries call) :
    stage'.Carries call := by
  cases callStep_iff.mp h with
  | check | draw | register => exact hs
  | recheck => exact ⟨_, congrArg _ hs⟩
  | send hsend => exact ⟨0, sendStep_carries hsend _⟩
  | sent | unsent | breakOff | shut => trivial

/-- A task goes on with the operation that it performs, or it hears the answer and goes on with its
routine. -/
def GoesOn (limit : ℕ) (routine : Routine ω ρ Unit) (heard? : Option (Heard ω)) (stage : Stage ω ρ) :
    Prop :=
  (heard? = none ∧ Stage.Performs limit routine stage) ∨
    ∃ heard left, heard? = some heard ∧ Routine.follow routine [heard] = some left ∧
      stage = .ready left

theorem GoesOn.follow {limit : ℕ} {heard? : Option (Heard ω)} {stage : Stage ω ρ}
    (h : GoesOn limit routine heard? stage) :
    ∃ left, Routine.follow routine heard?.toList = some left ∧ Stage.Performs limit left stage := by
  rcases h with ⟨rfl, hp⟩ | ⟨heard, left, rfl, hleft, rfl⟩
  · exact ⟨routine, Routine.follow_nil _, hp⟩
  · exact ⟨left, hleft, .ready left⟩

/-- The first step of an operation. -/
theorem begin_goesOn (a : Agent) (op : Op ω ρ) (next : op.Answer → Routine ω ρ Unit) :
    GoesOn c.setup.frameLimit (.ask op next) (c.stageHeard? a .go (.ready (.ask op next)))
      (c.begin op next).2.2 := by
  cases op
  case call call => exact .inl ⟨rfl, .call call _ next rfl⟩
  case publish name value => exact .inl ⟨rfl, .publish name value _ next rfl⟩
  case respond id result => exact .inl ⟨rfl, .respond id result _ next rfl⟩
  case change f => exact .inr ⟨_, next c.world, rfl, Routine.follow_nil _, rfl⟩
  case log entry => exact .inr ⟨_, next (), rfl, Routine.follow_nil _, rfl⟩
  case report value => exact .inr ⟨_, next (), rfl, Routine.follow_nil _, rfl⟩
  all_goals exact .inl ⟨rfl, by constructor⟩

theorem goesOn_of_answer {limit : ℕ} {op : Op ω ρ} {next : op.Answer → Routine ω ρ Unit}
    {heard : Heard ω} {answer : op.Answer} {heard? : Option (Heard ω)} (h : heard? = some heard)
    (ha : op.answer? heard = some answer) :
    GoesOn limit (.ask op next) heard? (.ready (next answer)) := by
  refine .inr ⟨heard, next answer, h, ?_, rfl⟩
  rw [Routine.follow, ha, Option.bind_some, Routine.follow_nil]

/-- A task hears that its answer has been dealt with, unless the error is still to be sent. -/
theorem stageHeard?_responded {a : Agent} {last : Bool} {stage : SendStage} {choice : Choice}
    {result : Except ChannelError Unit}
    (h : c.sendStep a stage choice = some (d, events, .finished result))
    (hlast : ∀ e, result = .error (.protocol e) → last = true) (id : CallId)
    (next : Unit → Routine ω ρ Unit) :
    c.stageHeard? a choice (.respond id last stage next) = some .done := by
  simp only [stageHeard?, h, Option.bind_some]
  split
  · rename_i heq
    cases heq
  · rename_i heq
    cases heq
    exact absurd (hlast _ rfl) Bool.false_ne_true
  · rfl

/-- **The step of a task.** -/
theorem taskStep_goesOn {a : Agent} {stage stage' : Stage ω ρ} {choice : Choice}
    (hp : Stage.Performs c.setup.frameLimit routine stage)
    (h : c.taskStep a stage choice = some (d, events, stage')) :
    GoesOn c.setup.frameLimit routine (c.stageHeard? a choice stage) stage' := by
  cases taskStep_iff.mp h with
  | stop =>
    cases hp
    exact .inl ⟨rfl, .done⟩
  | ask =>
    cases hp
    exact begin_goesOn a _ _
  | @call _ _ next _ _ _ hcall =>
    cases hp with
    | call call _ _ hcarries =>
      refine .inl ⟨?_, .call call _ next (callStep_carries hcall hcarries)⟩
      simp [stageHeard?, hcall]
  | @called stage next _ _ _ result hcall =>
    cases hp
    have hheard : c.stageHeard? a choice (.call stage next) = some (.reply result) := by
      simp [stageHeard?, hcall]
    exact goesOn_of_answer hheard rfl
  | @publish _ _ next _ _ _ hsend =>
    cases hp with
    | publish name value =>
      refine .inl ⟨?_, .publish name value _ next (sendStep_carries hsend _)⟩
      simp [stageHeard?, hsend]
  | @published stage next _ _ _ result hsend =>
    cases hp
    have hheard : c.stageHeard? a choice (.publish stage next) = some (.sent result) := by
      simp [stageHeard?, hsend]
    exact goesOn_of_answer hheard rfl
  | @respond id _ _ _ next _ _ _ hsend =>
    cases hp with
    | respond _ result =>
      refine .inl ⟨?_, .respond id result _ next (sendStep_carries hsend _)⟩
      simp [stageHeard?, hsend]
    | refuse _ result e _ _ hrefused =>
      refine .inl ⟨?_, .refuse id result e _ next hrefused (sendStep_carries hsend _)⟩
      simp [stageHeard?, hsend]
  | @replace id _ next _ _ _ _ hsend =>
    cases hp with
    | respond _ result _ _ hcarries =>
      obtain ⟨frame, rfl, hwire⟩ := sendStep_refused hsend
      have hframe : frame = .response id result := hcarries
      refine .inl ⟨?_, .refuse id result _ _ next (hframe ▸ hwire) rfl⟩
      simp [stageHeard?, hsend]
  | @responded id _ _ next _ _ _ _ hsend hlast =>
    have hheard := stageHeard?_responded hsend hlast id next
    cases hp with
    | respond => exact goesOn_of_answer hheard rfl
    | refuse => exact goesOn_of_answer hheard rfl
  | @wait name _ _ _ next _ hwait =>
    cases hp with
    | property _ millis =>
      refine .inl ⟨?_, .property name millis _ _ next⟩
      simp [stageHeard?, hwait]
  | @waited name deadline stage next _ result hwait =>
    cases hp
    have hheard : c.stageHeard? a choice (.wait name deadline stage next) =
        some (.found result) := by
      simp [stageHeard?, hwait]
    exact goesOn_of_answer hheard rfl
  | @close _ _ next _ _ _ hclose =>
    cases hp
    refine .inl ⟨?_, .close _ next⟩
    simp [stageHeard?, hclose]
  | @closed stage next _ _ _ hclose =>
    cases hp
    have hheard : c.stageHeard? a choice (.close stage next) = some .done := by
      simp [stageHeard?, hclose]
    exact goesOn_of_answer hheard rfl
  | told | slept | resume =>
    cases hp
    exact goesOn_of_answer rfl rfl

/-! ## The tasks of a run -/

/-- A task performs what is left of a routine after what it has heard, or it has been ended with the
channel. -/
def Follows (c : Channel ω ρ) (number : ℕ) (routine : Routine ω ρ Unit) (heard : List (Heard ω)) :
    Prop :=
  ∃ left stage, Routine.follow routine heard = some left ∧ c.stage? number = some stage ∧
    (Stage.Performs c.setup.frameLimit left stage ∨ (stage = .done ∧ c.closing = true))

/-- What a step makes of the stage of a task. -/
inductive Next (c d : Channel ω ρ) (action : Action ω ρ) (number : ℕ) (stage : Stage ω ρ) :
    Stage ω ρ → Prop
  | acted {choice : Choice} {e : Channel ω ρ} {events : List (Event ρ)} {stage' : Stage ω ρ}
    (acts : action = .agent (.task number) choice)
    (step : c.taskStep (.task number) stage choice = some (e, events, stage')) :
    Next c d action number stage stage'
  | kept (others : action.agent? ≠ some (.task number)) : Next c d action number stage stage
  | woken (others : action.agent? ≠ some (.task number)) :
    Next c d action number stage (Stage.wake stage)
  /-- The channel has been closed. -/
  | ended (others : action.agent? ≠ some (.task number)) (closing : d.closing = true) :
    Next c d action number stage .done

theorem stage?_step {stage : Stage ω ρ} (ho : Orderly c) (h : c.step action = some (d, events))
    (hs : c.stage? number = some stage) :
    ∃ stage', d.stage? number = some stage' ∧ Next c d action number stage stage' := by
  by_cases ha : action.agent? = some (.task number)
  · obtain ⟨choice, rfl⟩ := exists_choice_of_agent? ha
    obtain ⟨e, stage', hstep, -, hstage'⟩ := step_of_stage? hs h
    exact ⟨stage', hstage', .acted rfl hstep⟩
  · obtain ⟨t, ht, rfl⟩ := Option.map_eq_some_iff.mp hs
    obtain ⟨t', ht', hleft⟩ := (step_others h).task number t ht ha
    refine ⟨t'.stage, stage?_task ht', ?_⟩
    rcases hleft with _ | _ | ⟨⟨b, -, habort⟩, -⟩
    · exact .kept ha
    · exact .woken ha
    · exact .ended ha (closing_of_step h (ho.begun b _ habort (by simp)))

/-- A task hears nothing while others act. -/
theorem heard?_eq_none (ha : action.agent? ≠ some (.task number)) :
    c.heard? number action = none := by
  cases action with
  | agent a choice => exact if_neg fun heq => ha (congrArg some heq)
  | _ => rfl

/-- A task that follows its routine still does after every step, whoever acts. -/
theorem Follows.step {heard : List (Heard ω)} (hf : c.Follows number routine heard)
    (ho : Orderly c) (h : c.step action = some (d, events)) :
    d.Follows number routine (heard ++ (c.heard? number action).toList) := by
  obtain ⟨left, stage, hleft, hstage, hp⟩ := hf
  obtain ⟨stage', hstage', hnext⟩ := stage?_step ho h hstage
  have hsetup := (step_others h).setup
  cases hnext with
  | acted hact hstep =>
    subst hact
    rcases hp with hp | ⟨rfl, -⟩
    · obtain ⟨left', hleft', hp'⟩ := (taskStep_goesOn hp hstep).follow
      refine ⟨left', stage', ?_, hstage', .inl (hsetup ▸ hp')⟩
      rw [Routine.follow_append, hleft, Option.bind_some, heard?, if_pos rfl, hstage,
        Option.bind_some, hleft']
    · cases hstep
  | kept ha =>
    rw [heard?_eq_none ha, Option.toList_none, List.append_nil, Follows, hsetup]
    exact ⟨left, stage, hleft, hstage', hp.imp_right (And.imp_right (closing_of_step h))⟩
  | woken ha =>
    rw [heard?_eq_none ha, Option.toList_none, List.append_nil, Follows, hsetup]
    refine ⟨left, _, hleft, hstage', hp.imp Stage.Performs.wake fun hended => ?_⟩
    exact ⟨by rw [hended.1]; rfl, closing_of_step h hended.2⟩
  | ended ha hc =>
    rw [heard?_eq_none ha, Option.toList_none, List.append_nil]
    exact ⟨left, .done, hleft, hstage', .inr ⟨rfl, hc⟩⟩

/-- A task begins with its routine. -/
theorem step_origin {origin : Origin ω ρ} (h : c.step action = some (d, events))
    (ho : c.origin? action = some origin) :
    d.tasks.length = c.tasks.length + 1 ∧
      d.stage? c.tasks.length = some (.ready (origin.routine c.setup.handler)) := by
  unfold origin? at ho
  split at ho
  · cases ho
    cases h
    simp [spawn, stage?, Origin.routine]
  · split at ho
    · rename_i id call hincoming
      split_ifs at ho with hc
      cases ho
      obtain ⟨-, rest, incomplete, rfl⟩ := step_of_incoming hincoming h
      simp [dispatch, hc, spawn, stage?, Origin.routine]
    · cases ho
  · cases ho

theorem Spawned.origin {t : Task ω ρ} (h : Spawned action c t) :
    ∃ origin, c.origin? action = some origin := by
  rcases h with ⟨routine, rfl⟩ | ⟨id, call, rfl, hf, hc⟩
  · exact ⟨_, rfl⟩
  · exact ⟨.requested id call, by simp [origin?, hf, hc]⟩

/-- Tasks are never taken away. -/
theorem length_le_of_step (h : c.step action = some (d, events)) :
    c.tasks.length ≤ d.tasks.length := by
  by_contra hlt
  obtain ⟨t, ht⟩ : ∃ t, c.tasks[d.tasks.length]? = some t :=
    ⟨_, List.getElem?_eq_getElem (Nat.lt_of_not_le hlt)⟩
  have hnone : d.tasks[d.tasks.length]? = none := List.getElem?_eq_none (Nat.le_refl _)
  by_cases ha : action.agent? = some (.task d.tasks.length)
  · obtain ⟨choice, rfl⟩ := exists_choice_of_agent? ha
    obtain ⟨_, _, _, -, -, -, ht'⟩ := step_own h
    rw [hnone] at ht'
    cases ht'
  · obtain ⟨t', ht', -⟩ := (step_others h).task _ t ht ha
    rw [hnone] at ht'
    cases ht'

/-- Without a beginning there is no new task. -/
theorem step_no_origin (h : c.step action = some (d, events)) (ho : c.origin? action = none) :
    d.tasks.length = c.tasks.length := by
  refine Nat.le_antisymm (Nat.le_of_not_lt fun hlt => ?_) (length_le_of_step h)
  obtain ⟨-, hspawned⟩ := (step_others h).new c.tasks.length _
    (List.getElem?_eq_none (Nat.le_refl _)) (List.getElem?_eq_getElem hlt)
  obtain ⟨origin, horigin⟩ := hspawned.origin
  rw [ho] at horigin
  cases horigin

/-- What holds of the tasks of a channel after what has happened. -/
structure Begun (past : List (Moment ω ρ)) (c : Channel ω ρ) : Prop where
  orderly : Orderly c
  length : (past.filterMap Moment.origin?).length = c.tasks.length
  silent : ∀ number, c.tasks.length ≤ number → past.filterMap (Moment.heard? number) = []
  follows : ∀ (number : ℕ) (origin : Origin ω ρ),
    (past.filterMap Moment.origin?)[number]? = some origin →
    c.Follows number (origin.routine c.setup.handler) (past.filterMap (Moment.heard? number))

variable {past : List (Moment ω ρ)}

/-- A task has been begun for something. -/
theorem Begun.origin_of_stage (hb : Begun past c) {stage : Stage ω ρ}
    (hs : c.stage? number = some stage) :
    ∃ origin, (past.filterMap Moment.origin?)[number]? = some origin :=
  ⟨_, List.getElem?_eq_getElem (hb.length ▸ lt_of_stage? hs)⟩

/-- What a task is ready for is what its routine has come to. -/
theorem Begun.follow_of_ready (hb : Begun past c) {origin : Origin ω ρ}
    (ho : (past.filterMap Moment.origin?)[number]? = some origin)
    (hs : c.stage? number = some (.ready routine)) :
    Routine.follow (origin.routine c.setup.handler) (past.filterMap (Moment.heard? number)) =
      some routine := by
  obtain ⟨left, stage, hleft, hstage, hp⟩ := hb.follows number _ ho
  rw [hs, Option.some.injEq] at hstage
  subst hstage
  rcases hp with hp | ⟨hdone, -⟩
  · cases hp
    exact hleft
  · cases hdone

/-- A task of a run has been there before the last step, or it begins with it. -/
theorem Begun.origin_cases (hb : Begun past c) {origin : Origin ω ρ}
    (ho : ((past ++ [(⟨c, action, d, events⟩ : Moment ω ρ)]).filterMap Moment.origin?)[number]? =
      some origin) :
    (past.filterMap Moment.origin?)[number]? = some origin ∨
      number = c.tasks.length ∧ c.origin? action = some origin := by
  rw [filterMap_concat, List.getElem?_append, hb.length] at ho
  split_ifs at ho with hlt
  · exact .inl ho
  · change (c.origin? action).toList[number - c.tasks.length]? = some origin at ho
    rcases hnew : c.origin? action with _ | new
    · rw [hnew] at ho
      cases ho
    · rw [hnew, Option.toList_some, List.getElem?_singleton] at ho
      split_ifs at ho with hzero
      exact .inr ⟨by omega, ho⟩

/-- What has not begun hears nothing. -/
theorem heard?_of_length_le (h : c.tasks.length ≤ number) : c.heard? number action = none := by
  unfold heard?
  split
  · rw [stage?, List.getElem?_eq_none h]
    simp
  · rfl

theorem Begun.step (hb : Begun past c) (h : c.step action = some (d, events)) :
    Begun (past ++ [⟨c, action, d, events⟩]) d := by
  refine ⟨hb.orderly.step h, ?_, fun number hnumber => ?_, fun number origin horigin => ?_⟩
  · rw [filterMap_concat, List.length_append, hb.length, Moment.origin?]
    rcases ho : c.origin? action with _ | origin
    · rw [step_no_origin h ho]
      rfl
    · rw [(step_origin h ho).1]
      rfl
  · have hc := Nat.le_trans (length_le_of_step h) hnumber
    rw [filterMap_concat, hb.silent number hc, Moment.heard?, heard?_of_length_le hc]
    rfl
  · rw [filterMap_concat, (step_others h).setup]
    rcases hb.origin_cases horigin with hold | ⟨rfl, hnew⟩
    · exact (hb.follows number origin hold).step hb.orderly h
    · rw [hb.silent _ (Nat.le_refl _), Moment.heard?, heard?_of_length_le (Nat.le_refl _)]
      exact ⟨_, _, Routine.follow_nil _, (step_origin h hnew).2, .inl (.ready _)⟩

variable (setup : ChannelSetup ω ρ) (world : ω) (guarded : Bool)

theorem begun_after (actions : List (Action ω ρ)) :
    Begun ((start setup world guarded).moments actions)
      ((start setup world guarded).after actions) :=
  run_induction (P := Begun) _
    ⟨orderly_after setup world guarded [], rfl, fun _ _ => rfl, by simp⟩
    (fun _ _ _ _ _ hb h => hb.step h) actions

/-- **Every task follows its routine.** As many tasks have begun as there are, and each performs
what is left of its routine after what it has heard, or has been ended with the channel. -/
theorem follows_after (actions : List (Action ω ρ)) :
    ((start setup world guarded).origins actions).length =
        ((start setup world guarded).after actions).tasks.length ∧
      ∀ (number : ℕ) (origin : Origin ω ρ),
        ((start setup world guarded).origins actions)[number]? = some origin →
        ((start setup world guarded).after actions).Follows number (origin.routine setup.handler)
          ((start setup world guarded).heard actions number) := by
  have hbegun := begun_after setup world guarded actions
  refine ⟨hbegun.length, fun number origin horigin => ?_⟩
  have hfollows := hbegun.follows number origin horigin
  rwa [setup_after] at hfollows

end Channel

end CommandLink
