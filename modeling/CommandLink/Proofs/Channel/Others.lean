import CommandLink.Channel.Schedule
import CommandLink.Proofs.Channel.Ledger

/-!
# What a step leaves of the others

A step of an agent changes its own stage. Another task is left as it was, or is woken, or is ended
at the end of closing if it runs in the background (`Task.Left`). A task that is new has been
started or serves a request (`Spawned`). This is `step_others`, with `step_own` for the task that
acts.
-/

namespace CommandLink

variable {ω ρ : Type}

/-- The result of what does not go on. -/
@[simp] def Progress.result? {σ α : Type} : Progress σ α → Option α
  | .more _ => none
  | .finished result => some result

/-! ## Who closes -/

/-- How far a call has come with closing the channel. -/
def CallStage.closing? : CallStage → Option CloseStage
  | .shut _ stage => some stage
  | _ => none

/-- How far a task has come with closing the channel. -/
def Stage.closing? : Stage ω ρ → Option CloseStage
  | .close stage _ => some stage
  | .call stage _ => stage.closing?
  | _ => none

/-- How far the reader has come with closing the channel. -/
def ReaderStage.closing? : ReaderStage → Option CloseStage
  | .close stage => some stage
  | _ => none

/-- How far an agent has come with closing the channel. -/
def Channel.closing? (c : Channel ω ρ) : Agent → Option CloseStage
  | .reader => c.reader.closing?
  | .heartbeat => none
  | .task number => (c.stage? number).bind Stage.closing?

theorem Channel.closing?_task {c : Channel ω ρ} {number : ℕ} {t : Task ω ρ}
    (ht : c.tasks[number]? = some t) : c.closing? (.task number) = t.stage.closing? := by
  rw [closing?, stage?_task ht, Option.bind_some]

theorem Stage.closing?_wake (stage : Stage ω ρ) :
    (Channel.Stage.wake stage).closing? = stage.closing? := by
  cases stage <;> rfl

/-! ## Tasks that do not act -/

/-- What a step of another agent makes of a task. Where `ends` holds, those who run in the
background are ended. -/
inductive Task.Left (ends : Prop) (t : Task ω ρ) : Task ω ρ → Prop
  | kept : Task.Left ends t t
  | woken : Task.Left ends t { t with stage := Channel.Stage.wake t.stage }
  | ended (h : ends) (hb : t.background = true) : Task.Left ends t { t with stage := .done }

theorem Task.Left.mono {ends ends' : Prop} {t t' : Task ω ρ} (h : Task.Left ends t t')
    (hi : ends → ends') : Task.Left ends' t t' := by
  cases h with
  | kept => exact .kept
  | woken => exact .woken
  | ended h hb => exact .ended (hi h) hb

theorem Task.Left.background {ends : Prop} {t t' : Task ω ρ} (h : Task.Left ends t t') :
    t'.background = t.background := by
  cases h <;> rfl

namespace Channel

variable {ends : Prop} {c d : Channel ω ρ}

/-- Every task is left in one of the ways in which a step leaves tasks, and so are the reader and
the heartbeat. -/
structure Leaves (ends : Prop) (c d : Channel ω ρ) : Prop where
  setup : d.setup = c.setup
  task : ∀ (number : ℕ) (t : Task ω ρ), c.tasks[number]? = some t →
    ∃ t', d.tasks[number]? = some t' ∧ Task.Left ends t t'
  reader : d.reader = c.reader ∨ (ends ∧ d.reader = .stopped)
  heartbeat : d.heartbeat = c.heartbeat ∨ (ends ∧ d.heartbeat = .stopped)
  length : d.tasks.length = c.tasks.length

theorem leaves_of_eq (hs : d.setup = c.setup) (ht : d.tasks = c.tasks) (hr : d.reader = c.reader)
    (hh : d.heartbeat = c.heartbeat) : Leaves ends c d :=
  ⟨hs, fun number t h => ⟨t, by rw [ht, h], .kept⟩, .inl hr, .inl hh, by rw [ht]⟩

theorem Leaves.mono {ends' : Prop} (h : Leaves ends c d) (hi : ends → ends') : Leaves ends' c d where
  setup := h.setup
  task number t ht := by
    obtain ⟨t', ht', hleft⟩ := h.task number t ht
    exact ⟨t', ht', hleft.mono hi⟩
  reader := h.reader.imp id (And.imp hi id)
  heartbeat := h.heartbeat.imp id (And.imp hi id)
  length := h.length

theorem Leaves.of_eq {e : Channel ω ρ} (h : Leaves ends e d) (hs : e.setup = c.setup)
    (ht : e.tasks = c.tasks) (hr : e.reader = c.reader) (hh : e.heartbeat = c.heartbeat) :
    Leaves ends c d :=
  ⟨hs ▸ h.setup, ht ▸ h.task, hr ▸ h.reader, hh ▸ h.heartbeat, ht ▸ h.length⟩

/-! ## The parts of a step -/

theorem leaves_wakeAll : Leaves ends c c.wakeAll := by
  refine ⟨rfl, fun number t h => ⟨{ t with stage := Stage.wake t.stage }, ?_, .woken⟩,
    .inl rfl, .inl rfl, length_wakeAll⟩
  simp [wakeAll, h]

theorem leaves_settle (id : CallId) (result : Except ChannelError Reply) :
    Leaves ends c (c.settle id result) := by
  unfold settle
  split
  · exact leaves_of_eq rfl rfl rfl rfl
  · exact leaves_of_eq rfl rfl rfl rfl

theorem leaves_sendStep {a : Agent} {stage : SendStage} {choice : Choice}
    {events : List (Event ρ)} {progress : Progress SendStage (Except ChannelError Unit)}
    (h : c.sendStep a stage choice = some (d, events, progress)) : Leaves ends c d := by
  obtain ⟨w, rfl⟩ := sendStep_writer h
  exact leaves_of_eq rfl rfl rfl rfl

theorem mem_backgroundAgents {number : Nat} (h : .task number ∈ c.backgroundAgents) :
    ∃ t, c.tasks[number]? = some t ∧ t.background = true := by
  simp only [backgroundAgents, List.mem_cons, reduceCtorEq, false_or, List.mem_map, List.mem_filter,
    Agent.task.injEq] at h
  obtain ⟨⟨t, i⟩, ⟨hmem, hb⟩, rfl⟩ := h
  exact ⟨t, List.mem_zipIdx_iff_getElem?.mp hmem, hb⟩

theorem setup_endAgent (a : Agent) : (c.endAgent a).setup = c.setup := by
  cases a <;> rfl

theorem task_endAgent {number : Nat} {t : Task ω ρ} (a : Agent) (h : c.tasks[number]? = some t) :
    (c.endAgent a).tasks[number]? = some t ∨
      (a = .task number ∧ (c.endAgent a).tasks[number]? = some { t with stage := .done }) := by
  cases a with
  | reader | heartbeat => exact .inl h
  | task other =>
    by_cases ho : other = number
    · subst ho
      right
      simp [endAgent, setStage, h]
    · left
      simp [endAgent, setStage, h, ho]

theorem reader_endAgent (a : Agent) :
    (c.endAgent a).reader = c.reader ∨ (c.endAgent a).reader = .stopped := by
  cases a
  · exact .inr rfl
  · exact .inl rfl
  · exact .inl rfl

theorem heartbeat_endAgent (a : Agent) :
    (c.endAgent a).heartbeat = c.heartbeat ∨ (c.endAgent a).heartbeat = .stopped := by
  cases a
  · exact .inl rfl
  · exact .inr rfl
  · exact .inl rfl

/-- Ending some of those who run in the background leaves everyone in one of the ways. -/
theorem leaves_foldl_endAgent (agents : List Agent)
    (hb : ∀ (number : ℕ) (t : Task ω ρ), .task number ∈ agents →
      c.tasks[number]? = some t → t.background = true) :
    Leaves True c (agents.foldl endAgent c) := by
  induction agents generalizing c with
  | nil => exact leaves_of_eq rfl rfl rfl rfl
  | cons a agents ih =>
    have hrest : Leaves True (c.endAgent a) (agents.foldl endAgent (c.endAgent a)) := by
      refine ih fun number t' hmem ht' => ?_
      rcases hn : c.tasks[number]? with _ | t
      · have hlength : (c.endAgent a).tasks.length = c.tasks.length := (ended_endAgent a).length
        rw [List.getElem?_eq_none_iff, ← hlength, ← List.getElem?_eq_none_iff, ht'] at hn
        cases hn
      · have hself := hb number t (List.mem_cons_of_mem _ hmem) hn
        rcases task_endAgent a hn with hkept | ⟨-, hended⟩
        · rw [hkept, Option.some.injEq] at ht'
          exact ht' ▸ hself
        · rw [hended, Option.some.injEq] at ht'
          exact ht' ▸ hself
    refine ⟨hrest.setup.trans (setup_endAgent a), fun number t ht => ?_, ?_, ?_,
      hrest.length.trans (ended_endAgent a).length⟩
    · rcases task_endAgent a ht with hkept | ⟨rfl, hended⟩
      · exact hrest.task number t hkept
      · have hself := hb number t (List.mem_cons_self ..) ht
        obtain ⟨t', ht', hleft⟩ := hrest.task number _ hended
        refine ⟨t', ht', ?_⟩
        cases hleft
        · exact .ended trivial hself
        · exact .ended trivial hself
        · exact .ended trivial hself
    · rcases hrest.reader with hr | hr
      · exact (reader_endAgent a).imp hr.trans fun hstopped => ⟨trivial, hr.trans hstopped⟩
      · exact .inr hr
    · rcases hrest.heartbeat with hh | hh
      · exact (heartbeat_endAgent a).imp hh.trans fun hstopped => ⟨trivial, hh.trans hstopped⟩
      · exact .inr hh

theorem leaves_endOthers (a : Agent) : Leaves True c (c.endOthers a) := by
  refine leaves_foldl_endAgent _ fun number t hmem ht => ?_
  obtain ⟨t', ht', hb⟩ := mem_backgroundAgents (List.mem_filter.mp hmem).1
  rw [ht, Option.some.injEq] at ht'
  exact ht' ▸ hb

theorem leaves_closeStep {a : Agent} {stage : CloseStage} {choice : Choice}
    {events : List (Event ρ)} {progress : Progress CloseStage Unit}
    (h : c.closeStep a stage choice = some (d, events, progress)) : Leaves (stage = .abort) c d := by
  cases closeStep_iff.mp h with
  | notify => exact leaves_wakeAll
  | drain => exact leaves_settle _ _
  | abort => exact (leaves_endOthers a).mono fun _ => rfl
  | _ => exact leaves_of_eq rfl rfl rfl rfl

theorem leaves_callStep {a : Agent} {stage : CallStage} {choice : Choice}
    {events : List (Event ρ)} {progress : Progress CallStage (Except ChannelError Reply)}
    (h : c.callStep a stage choice = some (d, events, progress)) :
    Leaves (stage.closing? = some .abort) c d := by
  cases callStep_iff.mp h with
  | send hsend | sent hsend | unsent hsend => exact leaves_sendStep hsend
  | shut hclose | fail hclose => exact (leaves_closeStep hclose).mono (congrArg some)
  | _ => exact leaves_of_eq rfl rfl rfl rfl

theorem leaves_begin (op : Op ω ρ) (next : op.Answer → Routine ω ρ Unit) :
    Leaves ends c (c.begin op next).1 := by
  cases op <;> exact leaves_of_eq rfl rfl rfl rfl

theorem leaves_taskStep {a : Agent} {stage stage' : Stage ω ρ} {choice : Choice}
    {events : List (Event ρ)} (h : c.taskStep a stage choice = some (d, events, stage')) :
    Leaves (stage.closing? = some .abort) c d := by
  cases taskStep_iff.mp h with
  | @ask op next => exact leaves_begin op next
  | call hcall | called hcall => exact leaves_callStep hcall
  | publish hsend | published hsend | respond hsend | replace hsend | responded hsend =>
    exact leaves_sendStep hsend
  | close hclose | closed hclose => exact (leaves_closeStep hclose).mono (congrArg some)
  | stop | wait | waited | told | slept | resume => exact leaves_of_eq rfl rfl rfl rfl

theorem leaves_dispatch (frame : Frame) :
    Leaves ends c (c.dispatch frame) ∨
      ∃ id call, frame = .request id call ∧ c.closing = false ∧
        c.dispatch frame = c.spawn true (c.setup.handler.serve id call) := by
  cases frame with
  | request id call =>
    rcases hc : c.closing with _ | _
    · exact .inr ⟨id, call, rfl, rfl, by rw [dispatch, if_neg (by simp [hc])]⟩
    · left
      rw [dispatch, if_pos hc]
      exact leaves_of_eq rfl rfl rfl rfl
  | response id result => exact .inl (leaves_settle _ _)
  | property name value =>
    have hwoken : Leaves ends { c with properties := c.properties.insert name value } _ :=
      leaves_wakeAll
    exact .inl (hwoken.of_eq rfl rfl rfl rfl)
  | ping => exact .inl (leaves_of_eq rfl rfl rfl rfl)

/-- The reader starts a task for a request, or it leaves everyone in one of the ways. -/
theorem leaves_readerStep {stage : ReaderStage} {choice : Choice}
    {events : List (Event ρ)} (h : c.readerStep c.reader choice = some (d, events, stage)) :
    Leaves (c.reader.closing? = some .abort) c d ∨ ∃ id call rest, choice = .go ∧
      c.incoming? = some (.request id call) ∧ c.closing = false ∧
      d = { c with inbox := rest }.spawn true (c.setup.handler.serve id call) := by
  obtain ⟨reader, hreader⟩ : ∃ reader, c.reader = reader := ⟨_, rfl⟩
  rw [hreader] at h
  cases readerStep_iff.mp h with
  | ended | stumble | read | abandon => exact .inl (leaves_of_eq rfl rfl rfl rfl)
  | @take _ _ frame rest hinbox htake =>
    rcases leaves_dispatch (c := { c with inbox := rest }) frame with
      hdispatched | ⟨id, call, rfl, hc, heq⟩
    · exact .inl (hdispatched.of_eq rfl rfl rfl rfl)
    · refine .inr ⟨id, call, rest, rfl, ?_, hc, heq⟩
      simp only [incoming?, hreader, htake]
  | close hclose | closed hclose =>
    rw [hreader]
    exact .inl ((leaves_closeStep hclose).mono (congrArg some))

theorem leaves_heartbeatStep {stage stage' : HeartbeatStage} {choice : Choice}
    {events : List (Event ρ)} (h : c.heartbeatStep stage choice = some (d, events, stage')) :
    Leaves ends c d := by
  cases heartbeatStep_iff.mp h with
  | ping | abandon => exact leaves_of_eq rfl rfl rfl rfl
  | send hsend | sent hsend => exact leaves_sendStep hsend

/-! ## Steps -/

variable {action : Action ω ρ} {events : List (Event ρ)}

theorem exists_choice_of_agent? {a : Agent} (ha : action.agent? = some a) :
    ∃ choice, action = .agent a choice := by
  cases action with
  | agent b choice => exact ⟨choice, congrArg (Action.agent · choice) (Option.some.inj ha)⟩
  | _ => cases ha

/-- A task that has made a step is what it was but for its stage. -/
theorem task_of_taskStep {number : ℕ} {choice : Choice} {t : Task ω ρ} {stage : Stage ω ρ}
    (ht : c.tasks[number]? = some t)
    (h : c.taskStep (.task number) t.stage choice = some (d, events, stage)) :
    (d.setStage number stage).tasks[number]? = some { t with stage := stage } := by
  obtain ⟨t', ht', hleft⟩ := (leaves_taskStep h).task number t ht
  have hset : ({ t' with stage := stage } : Task ω ρ) = { t with stage := stage } := by
    cases hleft <;> rfl
  simp [setStage, ht', hset]

/-- The step of a task puts it into its next stage, after everything else that it does. -/
theorem step_own {number : Nat} {choice : Choice}
    (h : c.step (.agent (.task number) choice) = some (d, events)) :
    ∃ t e stage, c.tasks[number]? = some t ∧
      c.taskStep (.task number) t.stage choice = some (e, events, stage) ∧
      d = e.setStage number stage ∧ d.tasks[number]? = some { t with stage := stage } := by
  cases step_iff.mp h with
  | task ht hstep => exact ⟨_, _, _, ht, hstep, rfl, task_of_taskStep ht hstep⟩

/-- The step of a task that is in a stage. -/
theorem step_of_stage? {number : ℕ} {stage : Stage ω ρ} {choice : Choice}
    (hs : c.stage? number = some stage)
    (h : c.step (.agent (.task number) choice) = some (d, events)) :
    ∃ e stage', c.taskStep (.task number) stage choice = some (e, events, stage') ∧
      d = e.setStage number stage' ∧ d.stage? number = some stage' := by
  obtain ⟨t, e, stage', ht, hstep, hd, ht'⟩ := step_own h
  rw [stage?, ht, Option.map_some, Option.some.injEq] at hs
  exact ⟨e, stage', hs ▸ hstep, hd, stage?_task ht'⟩

/-- A task that begins with an action. -/
inductive Spawned (action : Action ω ρ) (c : Channel ω ρ) : Task ω ρ → Prop
  | started (routine : Routine ω ρ Unit) (h : action = .start routine) :
    Spawned action c ⟨false, .ready routine⟩
  | requested (id : CallId) (call : Call) (h : action = .agent .reader .go)
    (hf : c.incoming? = some (.request id call)) (hc : c.closing = false) :
    Spawned action c ⟨true, .ready (c.setup.handler.serve id call)⟩

/-- An action is the last step of closing, which ends those who run in the background. -/
def EndsOthers (action : Action ω ρ) (c : Channel ω ρ) : Prop :=
  ∃ a, action.agent? = some a ∧ c.closing? a = some .abort

/-- What an action leaves of those who do not act, and the task that begins with it. -/
structure Others (action : Action ω ρ) (c d : Channel ω ρ) : Prop where
  setup : d.setup = c.setup
  task : ∀ (number : ℕ) (t : Task ω ρ), c.tasks[number]? = some t →
    action.agent? ≠ some (.task number) →
    ∃ t', d.tasks[number]? = some t' ∧ Task.Left (EndsOthers action c) t t'
  reader : action.agent? ≠ some .reader →
    d.reader = c.reader ∨ (EndsOthers action c ∧ d.reader = .stopped)
  heartbeat : action.agent? ≠ some .heartbeat →
    d.heartbeat = c.heartbeat ∨ (EndsOthers action c ∧ d.heartbeat = .stopped)
  new : ∀ (number : ℕ) (t : Task ω ρ), c.tasks[number]? = none → d.tasks[number]? = some t →
    number = c.tasks.length ∧ Spawned action c t

theorem Leaves.others (h : Leaves (EndsOthers action c) c d) : Others action c d := by
  refine ⟨h.setup, fun number t ht _ => h.task number t ht, fun _ => h.reader,
    fun _ => h.heartbeat, fun number t hn ht => ?_⟩
  rw [List.getElem?_eq_none_iff, ← h.length, ← List.getElem?_eq_none_iff, ht] at hn
  cases hn

theorem others_spawn {background : Bool} {routine : Routine ω ρ Unit}
    (h : Spawned action c ⟨background, .ready routine⟩) :
    Others action c (c.spawn background routine) := by
  refine ⟨rfl, fun number t ht _ => ⟨t, ?_, .kept⟩, fun _ => .inl rfl, fun _ => .inl rfl,
    fun number t hn ht => ?_⟩
  · rw [spawn, List.getElem?_append_left (List.getElem?_eq_some_iff.mp ht).1, ht]
  · rw [List.getElem?_eq_none_iff] at hn
    rw [spawn, List.getElem?_append_right hn, List.getElem?_singleton] at ht
    split_ifs at ht with hnumber
    cases ht
    exact ⟨by omega, h⟩

/-- **What a step leaves of the others.** Those who do not act are left in one of the ways, and a
task that is new begins at its beginning. -/
theorem step_others (h : c.step action = some (d, events)) : Others action c d := by
  cases step_iff.mp h with
  | @reader choice e _ _ hstep =>
    rcases leaves_readerStep hstep with hleaves | ⟨id, call, rest, rfl, hf, hc, rfl⟩
    · have hothers : Others (.agent .reader choice) c e :=
        (hleaves.mono fun hs => ⟨.reader, rfl, hs⟩).others
      exact ⟨hothers.setup, hothers.task, fun ha => absurd rfl ha, hothers.heartbeat, hothers.new⟩
    · have hothers := others_spawn (.requested id call rfl hf hc)
      exact ⟨hothers.setup, hothers.task, fun ha => absurd rfl ha, hothers.heartbeat, hothers.new⟩
  | @heartbeat choice e _ _ hstep =>
    have hothers : Others (.agent .heartbeat choice) c e := (leaves_heartbeatStep hstep).others
    exact ⟨hothers.setup, hothers.task, hothers.reader, fun ha => absurd rfl ha, hothers.new⟩
  | @task number choice t e _ stage ht hstep =>
    have hothers : Others (.agent (.task number) choice) c e := by
      refine ((leaves_taskStep hstep).mono fun hended => ⟨.task number, rfl, ?_⟩).others
      rwa [closing?_task ht]
    refine ⟨hothers.setup, fun other t ht hother => ?_, hothers.reader, hothers.heartbeat,
      fun other t' hn ht' => ?_⟩
    · have hne : number ≠ other := fun heq => hother (by rw [← heq]; rfl)
      obtain ⟨t', ht', hleft⟩ := hothers.task other t ht hother
      exact ⟨t', by simp [setStage, hne, ht'], hleft⟩
    · rw [List.getElem?_eq_none_iff, ← (leaves_taskStep hstep).length,
        ← length_setStage number stage, ← List.getElem?_eq_none_iff, ht'] at hn
      cases hn
  | @start routine => exact others_spawn (.started routine rfl)
  | deliver | endInput | elapse =>
    refine Leaves.others ?_
    exact leaves_of_eq rfl rfl rfl rfl

/-- A task that waits for no property and does not act stays in its stage, or it runs in the
background and has been ended. -/
theorem Others.stage {number : ℕ} {stage : Stage ω ρ} (h : Others action c d)
    (hs : c.stage? number = some stage) (hw : Stage.wake stage = stage)
    (ha : action.agent? ≠ some (.task number)) :
    d.stage? number = some stage ∨ d.stage? number = some .done := by
  obtain ⟨t, ht, rfl⟩ := Option.map_eq_some_iff.mp hs
  obtain ⟨t', ht', hleft⟩ := h.task number t ht ha
  rw [stage?, ht', Option.map_some, Option.some.injEq, Option.some.injEq]
  cases hleft with
  | kept => exact .inl rfl
  | woken => exact .inl hw
  | ended => exact .inr rfl

theorem setup_after (c : Channel ω ρ) (actions : List (Action ω ρ)) :
    (c.after actions).setup = c.setup :=
  run_induction (P := fun _ d => d.setup = c.setup) c rfl
    (fun _ _ _ _ _ hd h => (step_others h).setup.trans hd) actions

end Channel

end CommandLink
