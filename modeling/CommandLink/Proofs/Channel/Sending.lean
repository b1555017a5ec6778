import CommandLink.Channel.Trace
import CommandLink.Proofs.Channel.Closing

/-!
# Who sends frames

On an open channel a frame is encoded, its bytes join the line, get the writer when they are first,
and are written (`Forwards`). A step of the channel writes nothing and leaves everyone as far as
they have come with sending, or it is such a step of one agent (`Sends`, `step_sends`), and every
such step can be made (`step_of_sending`).
-/

namespace CommandLink

variable {ω ρ : Type}

/-! ## Who sends -/

/-- Whether who sends a frame has the writer. -/
def SendStage.writes : SendStage → Bool
  | .write _ => true
  | .flush => true
  | _ => false

/-- How far a call has come with sending a frame. -/
def CallStage.sending? : CallStage → Option SendStage
  | .send _ stage => some stage
  | _ => none

/-- How far a task has come with sending a frame. -/
def Stage.sending? : Stage ω ρ → Option SendStage
  | .call stage _ => stage.sending?
  | .publish stage _ => some stage
  | .respond _ _ stage _ => some stage
  | _ => none

/-- How far the heartbeat has come with sending a frame. -/
def HeartbeatStage.sending? : HeartbeatStage → Option SendStage
  | .send stage _ => some stage
  | _ => none

/-- How far an agent has come with sending a frame. -/
def Channel.sending? (c : Channel ω ρ) : Agent → Option SendStage
  | .reader => none
  | .heartbeat => c.heartbeat.sending?
  | .task number => (c.stage? number).bind Stage.sending?

theorem Channel.sending?_task {c : Channel ω ρ} {number : ℕ} {t : Task ω ρ}
    (ht : c.tasks[number]? = some t) : c.sending? (.task number) = t.stage.sending? := by
  rw [sending?, stage?_task ht, Option.bind_some]

/-- Somebody sends nothing, or begins to send. -/
def Begins (stage? : Option SendStage) : Prop :=
  stage? = none ∨ ∃ frame, stage? = some (.encode frame)

theorem Begins.ne {stage? : Option SendStage} (h : Begins stage?) {stage : SendStage}
    (hs : ∀ frame, stage ≠ .encode frame) : stage? ≠ some stage := by
  rintro rfl
  rcases h with h | ⟨frame, h⟩
  · cases h
  · exact hs frame (Option.some.inj h)

theorem Stage.sending?_wake (stage : Stage ω ρ) :
    (Channel.Stage.wake stage).sending? = stage.sending? := by
  cases stage <;> rfl

namespace Channel

variable {c d : Channel ω ρ} {action : Action ω ρ} {events : List (Event ρ)} {a : Agent}
  {choice : Choice}

/-! ## The steps of sending -/

/-- What a step of sending does on an open channel, if the link takes the bytes. -/
inductive Forwards (c : Channel ω ρ) (a : Agent) : SendStage → Choice → Channel ω ρ →
    List (Event ρ) → Progress SendStage (Except ChannelError Unit) → Prop
  /-- The frame cannot be sent. -/
  | refused (frame : Frame) (e : FrameError) (wire : frame.wire c.setup.frameLimit = .error e) :
    Forwards c a (.encode frame) .go c [] (.finished (.error (.protocol e)))
  /-- Its bytes join the line. -/
  | joined (frame : Frame) (bytes : Bytes) (wire : frame.wire c.setup.frameLimit = .ok bytes) :
    Forwards c a (.encode frame) .go { c with writer := c.writer.enqueue a } []
      (.more (.queued bytes))
  /-- They are next. -/
  | took (bytes : Bytes) (holder : c.writer.holder = none) (first : c.writer.line.head? = some a) :
    Forwards c a (.queued bytes) .go { c with writer := c.writer.take a } [] (.more (.write bytes))
  | wrote (rest : Bytes) (count : ℕ) (more : rest.drop count ≠ []) :
    Forwards c a (.write rest) (.write count) c [.wrote (rest.take count)]
      (.more (.write (rest.drop count)))
  /-- The last of them are written. -/
  | completed (rest : Bytes) (count : ℕ) (all : rest.drop count = []) :
    Forwards c a (.write rest) (.write count) c [.wrote (rest.take count)] (.more .flush)
  | flushed : Forwards c a .flush .go (c.leaveWriter a) [] (.finished (.ok ()))

theorem sendStep_forwards {stage : SendStage}
    {progress : Progress SendStage (Except ChannelError Unit)} (hc : c.cancelled = false)
    (hw : c.writer.isOpen = true) (hl : ∀ error, choice ≠ .fail error)
    (h : c.sendStep a stage choice = some (d, events, progress)) :
    Forwards c a stage choice d events progress := by
  cases sendStep_iff.mp h with
  | refuse hwire => exact .refused _ _ hwire
  | join hwire => exact .joined _ _ hwire
  | take hfree =>
    simp only [Writer.isFreeFor, Bool.and_eq_true, decide_eq_true_eq] at hfree
    exact .took _ hfree.1 hfree.2
  | late _ hshut =>
    rw [hw] at hshut
    cases hshut
  | write _ hleft => exact .wrote _ _ hleft
  | finish _ hall => exact .completed _ _ hall
  | flush => exact .flushed
  | fail => exact absurd rfl (hl _)
  | abandon _ hcancelled =>
    rw [hc] at hcancelled
    cases hcancelled

theorem callStep_sends {stage : CallStage}
    {progress : Progress CallStage (Except ChannelError Reply)} (hn : stage.closing? = none)
    (h : c.callStep a stage choice = some (d, events, progress)) :
    (∃ s p, stage.sending? = some s ∧ c.sendStep a s choice = some (d, events, p) ∧
      progress.stage?.bind CallStage.sending? = p.stage?) ∨
    (stage.sending? = none ∧ d.writer = c.writer ∧ Trace.written events = [] ∧
      Begins (progress.stage?.bind CallStage.sending?)) := by
  cases callStep_iff.mp h with
  | recheck => exact .inr ⟨rfl, rfl, rfl, .inr ⟨_, rfl⟩⟩
  | send hsend | sent hsend | unsent hsend => exact .inl ⟨_, _, rfl, hsend, rfl⟩
  | shut | fail => cases hn
  | _ => exact .inr ⟨rfl, rfl, rfl, .inl rfl⟩

theorem begin_sends (op : Op ω ρ) (next : op.Answer → Routine ω ρ Unit) :
    (c.begin op next).1.writer = c.writer ∧ Trace.written (c.begin op next).2.1 = [] ∧
      Begins (c.begin op next).2.2.sending? := by
  cases op
  case publish => exact ⟨rfl, rfl, .inr ⟨_, rfl⟩⟩
  case respond => exact ⟨rfl, rfl, .inr ⟨_, rfl⟩⟩
  all_goals exact ⟨rfl, rfl, .inl rfl⟩

/-- A step of a task goes on with sending a frame, or writes nothing. -/
theorem taskStep_sends {stage stage' : Stage ω ρ} (hn : stage.closing? = none)
    (h : c.taskStep a stage choice = some (d, events, stage')) :
    (∃ s p, stage.sending? = some s ∧ c.sendStep a s choice = some (d, events, p) ∧
      (stage'.sending? = p.stage? ∨ p.stage? = none ∧ Begins stage'.sending?)) ∨
    (stage.sending? = none ∧ d.writer = c.writer ∧ Trace.written events = [] ∧
      Begins stage'.sending?) := by
  cases taskStep_iff.mp h with
  | ask => exact .inr ⟨rfl, begin_sends _ _⟩
  | call hcall =>
    rcases callStep_sends hn hcall with ⟨s, p, hs, hsend, hp⟩ | hrest
    · exact .inl ⟨s, p, hs, hsend, .inl hp⟩
    · exact .inr hrest
  | called hcall =>
    rcases callStep_sends hn hcall with ⟨s, p, hs, hsend, hp⟩ | ⟨hs, hwriter, hwritten, -⟩
    · exact .inl ⟨s, p, hs, hsend, .inl hp⟩
    · exact .inr ⟨hs, hwriter, hwritten, .inl rfl⟩
  | publish hsend | published hsend | respond hsend | responded hsend =>
    exact .inl ⟨_, _, rfl, hsend, .inl rfl⟩
  | replace hsend => exact .inl ⟨_, _, rfl, hsend, .inr ⟨rfl, .inr ⟨_, rfl⟩⟩⟩
  | close | closed => cases hn
  | stop | wait | waited | told | slept | resume => exact .inr ⟨rfl, rfl, rfl, .inl rfl⟩

theorem writer_dispatch (frame : Frame) : (c.dispatch frame).writer = c.writer := by
  cases frame with
  | request id call =>
    simp only [dispatch]
    split_ifs
    · rfl
    · rfl
  | response id result =>
    simp only [dispatch, settle]
    split
    · rfl
    · rfl
  | property | ping => rfl

theorem readerStep_sends {stage : ReaderStage} (hn : c.reader.closing? = none)
    (h : c.readerStep c.reader choice = some (d, events, stage)) :
    d.writer = c.writer ∧ events = [] := by
  obtain ⟨reader, hreader⟩ : ∃ reader, c.reader = reader := ⟨_, rfl⟩
  rw [hreader] at h hn
  cases readerStep_iff.mp h with
  | ended | stumble | read | abandon => exact ⟨rfl, rfl⟩
  | take => exact ⟨writer_dispatch _, rfl⟩
  | close | closed => cases hn

theorem heartbeatStep_sends {stage stage' : HeartbeatStage}
    (h : c.heartbeatStep stage choice = some (d, events, stage')) :
    (∃ s p, stage.sending? = some s ∧ c.sendStep .heartbeat s choice = some (d, events, p) ∧
      stage'.sending? = p.stage?) ∨
    (stage.sending? = none ∧ d.writer = c.writer ∧ Trace.written events = [] ∧
      Begins stage'.sending?) := by
  cases heartbeatStep_iff.mp h with
  | ping => exact .inr ⟨rfl, rfl, rfl, .inr ⟨_, rfl⟩⟩
  | abandon => exact .inr ⟨rfl, rfl, rfl, .inl rfl⟩
  | send hsend | sent hsend => exact .inl ⟨_, _, rfl, hsend, rfl⟩

/-- What an action does about sending on a channel that is open after it. -/
inductive Sends (action : Action ω ρ) (c d : Channel ω ρ) (events : List (Event ρ)) : Prop
  /-- Nothing, but that somebody may begin to send. -/
  | rest (writer : d.writer = c.writer) (written : Trace.written events = [])
    (silent : ∀ a, action.agent? = some a → c.sending? a = none)
    (kept : ∀ a, d.sending? a = c.sending? a ∨ c.sending? a = none ∧ Begins (d.sending? a))
  /-- An agent goes on with sending. -/
  | went (a : Agent) (choice : Choice) (stage : SendStage) (e : Channel ω ρ)
    (progress : Progress SendStage (Except ChannelError Unit)) (acts : action = .agent a choice)
    (self : c.sending? a = some stage)
    (step : c.sendStep a stage choice = some (e, events, progress)) (writer : d.writer = e.writer)
    (next : d.sending? a = progress.stage? ∨ progress.stage? = none ∧ Begins (d.sending? a))
    (kept : ∀ b, b ≠ a → d.sending? b = c.sending? b)

/-- On an open channel another agent is left as far as it has come with sending. -/
theorem Others.sending?_eq (h : Others action c d) (ho : Orderly c) (hc : c.closing = false)
    {b : Agent} (hb : action.agent? ≠ some b) : d.sending? b = c.sending? b := by
  have hends : ¬ EndsOthers action c := by
    rintro ⟨a, -, habort⟩
    rw [ho.begun a _ habort (by simp)] at hc
    cases hc
  cases b with
  | reader => rfl
  | heartbeat => simp only [sending?, (h.heartbeat hb).resolve_right fun hx => hends hx.1]
  | task number =>
    rcases ht : c.tasks[number]? with _ | t
    · rcases ht' : d.tasks[number]? with _ | t'
      · simp only [sending?, stage?, ht, ht']
      · obtain ⟨-, hspawned⟩ := h.new number t' ht ht'
        simp only [sending?, stage?, ht, ht', Option.map_some, Option.map_none, Option.bind_some,
          Option.bind_none]
        cases hspawned <;> rfl
    · obtain ⟨t', ht', hleft⟩ := h.task number t ht hb
      simp only [sending?, stage?, ht, ht', Option.map_some, Option.bind_some]
      cases hleft with
      | kept => rfl
      | woken => exact Stage.sending?_wake t.stage
      | ended hx => exact absurd hx hends

/-- A step of closing leaves the channel closing. -/
theorem Orderly.closing_of_closeStep (ho : Orderly c) {stage : CloseStage}
    {progress : Progress CloseStage Unit} (hs : c.closing? a = some stage)
    (h : c.closeStep a stage choice = some (d, events, progress)) : d.closing = true := by
  rcases closeStep_cases h with ⟨-, hc, rfl, -⟩ | ⟨-, -, rfl, -⟩ | hcontinues
  · exact hc
  · rfl
  · rw [hcontinues.closing, ho.begun a stage hs hcontinues.late]

/-- What the step of an agent does about sending, from what it does to the agent itself. -/
theorem sends_of_agent {e : Channel ω ρ} (hwriter : d.writer = e.writer)
    (hkept : ∀ b, b ≠ a → d.sending? b = c.sending? b)
    (hself : (∃ s p, c.sending? a = some s ∧ c.sendStep a s choice = some (e, events, p) ∧
        (d.sending? a = p.stage? ∨ p.stage? = none ∧ Begins (d.sending? a))) ∨
      (c.sending? a = none ∧ e.writer = c.writer ∧ Trace.written events = [] ∧
        Begins (d.sending? a))) : Sends (.agent a choice) c d events := by
  rcases hself with ⟨s, p, hs, hstep, hnext⟩ | ⟨hnone, hsame, hwritten, hbegins⟩
  · exact .went a choice s e p rfl hs hstep hwriter hnext hkept
  · refine .rest (hwriter.trans hsame) hwritten (fun b hb => ?_) fun b => ?_
    · cases hb
      exact hnone
    · by_cases hb : b = a
      · subst hb
        exact .inr ⟨hnone, hbegins⟩
      · exact .inl (hkept b hb)

/-- What happens without an agent has nothing to do with sending. -/
theorem sends_of_nobody (hnobody : action.agent? = none) (hwriter : d.writer = c.writer)
    (hkept : ∀ b, action.agent? ≠ some b → d.sending? b = c.sending? b) :
    Sends action c d [] := by
  refine .rest hwriter rfl (fun b hb => ?_) fun b => .inl (hkept b ?_)
  · rw [hnobody] at hb
    cases hb
  · rw [hnobody]
    exact (Option.some_ne_none b).symm

theorem open_of_step (h : c.step action = some (d, events)) (hd : d.closing = false) :
    c.closing = false := by
  by_contra hc
  rw [Bool.not_eq_false] at hc
  rw [closing_of_step h hc] at hd
  cases hd

/-- **Steps and sending.** A step that leaves the channel open writes nothing, or its agent goes on
with sending a frame. -/
theorem step_sends (h : c.step action = some (d, events)) (ho : Orderly c)
    (hd : d.closing = false) : Sends action c d events := by
  have hothers := step_others h
  have hkept : ∀ b, action.agent? ≠ some b → d.sending? b = c.sending? b :=
    fun b => hothers.sending?_eq ho (open_of_step h hd)
  have hkept' : ∀ {a}, action.agent? = some a → ∀ b, b ≠ a → d.sending? b = c.sending? b :=
    fun ha b hb => hkept b fun heq => hb (Option.some.inj (heq.symm.trans ha))
  cases step_iff.mp h with
  | @reader _ e _ _ hstep =>
    refine sends_of_agent (e := e) rfl (hkept' rfl) (.inr ?_)
    rcases readerStep_closes hstep with ⟨s, p, hclose, hcloseStep, -⟩ | ⟨hnone, -⟩
    · have hclosing : e.closing = true :=
        ho.closing_of_closeStep (a := .reader) hclose hcloseStep
      rw [hclosing] at hd
      cases hd
    · obtain ⟨hwriter, rfl⟩ := readerStep_sends hnone hstep
      exact ⟨rfl, hwriter, rfl, .inl rfl⟩
  | @heartbeat _ e _ _ hstep =>
    refine sends_of_agent (e := e) rfl (hkept' rfl) ?_
    rcases heartbeatStep_sends hstep with ⟨s, p, hsend, hsendStep, hnext⟩ | hrest
    · exact .inl ⟨s, p, hsend, hsendStep, .inl hnext⟩
    · exact .inr hrest
  | @task _ _ _ e _ _ ht hstep =>
    refine sends_of_agent (e := e) rfl (hkept' rfl) ?_
    rw [sending?_task ht, sending?_task (task_of_taskStep ht hstep)]
    rcases taskStep_closes hstep with ⟨s, p, hclose, hcloseStep, -⟩ | ⟨hnone, -⟩
    · have hclosing : e.closing = true :=
        ho.closing_of_closeStep ((closing?_task ht).trans hclose) hcloseStep
      exact absurd hclosing (by rw [show e.closing = false from hd]; simp)
    · exact taskStep_sends hnone hstep
  | deliver | endInput | start | elapse => exact sends_of_nobody rfl rfl hkept

/-- A step of sending that can be made is a step of the channel. -/
theorem step_of_sending {e : Channel ω ρ} {stage : SendStage}
    {progress : Progress SendStage (Except ChannelError Unit)} (hs : c.sending? a = some stage)
    (hstep : c.sendStep a stage choice = some (e, events, progress)) :
    ∃ d, c.step (.agent a choice) = some (d, events) ∧ d.closing = e.closing := by
  cases a with
  | reader => cases hs
  | heartbeat =>
    rcases hbeat : c.heartbeat with time | ⟨stage', time⟩ | _
    · rw [sending?, hbeat] at hs
      cases hs
    · rw [sending?, hbeat] at hs
      cases hs
      simp only [step, agentStep, hbeat, heartbeatStep, hstep, Option.map_some]
      exact ⟨_, rfl, rfl⟩
    · rw [sending?, hbeat] at hs
      cases hs
  | task number =>
    obtain ⟨stage', hstage, hsending⟩ := Option.bind_eq_some_iff.mp hs
    cases stage' with
    | call stage'' next =>
      cases stage'' with
      | send id s =>
        cases hsending
        simp only [step, agentStep, hstage, taskStep, callStep, hstep]
        rcases progress with s' | error | ⟨⟩
        · exact ⟨_, rfl, rfl⟩
        · exact ⟨_, rfl, rfl⟩
        · exact ⟨_, rfl, rfl⟩
      | _ => cases hsending
    | publish s next =>
      cases hsending
      simp only [step, agentStep, hstage, taskStep, hstep, Option.map_some]
      exact ⟨_, rfl, rfl⟩
    | respond id last s next =>
      cases hsending
      simp only [step, agentStep, hstage, taskStep, hstep, Option.map_some]
      exact ⟨_, rfl, rfl⟩
    | _ => cases hsending

/-- How far the agent of such a step comes with it. -/
theorem Sends.next (h : Sends (.agent a choice) c d events) {e : Channel ω ρ} {stage : SendStage}
    {events' : List (Event ρ)} {progress : Progress SendStage (Except ChannelError Unit)}
    (hs : c.sending? a = some stage)
    (hstep : c.sendStep a stage choice = some (e, events', progress)) :
    d.writer = e.writer ∧
      (d.sending? a = progress.stage? ∨ progress.stage? = none ∧ Begins (d.sending? a)) := by
  rcases h with ⟨-, -, hsilent, -⟩ |
    ⟨a', choice', stage', e', progress', hacts, hs', hstep', hw, hn, -⟩
  · rw [hsilent a rfl] at hs
    cases hs
  · cases hacts
    rw [hs, Option.some.injEq] at hs'
    subst hs'
    rw [hstep, Option.some.injEq, Prod.mk.injEq, Prod.mk.injEq] at hstep'
    obtain ⟨rfl, -, rfl⟩ := hstep'
    exact ⟨hw, hn⟩

end Channel

end CommandLink
