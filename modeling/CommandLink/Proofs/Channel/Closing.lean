import CommandLink.Proofs.Channel.Correlation
import CommandLink.Proofs.Channel.Others

/-!
# The closing of a channel

A channel closes for one of a few causes (`Cause`, `cause_of_closing`), once and for good
(`closing_after`). One agent closes it and the others that come to close it find it closing
(`Closes`, `step_closes`). While it goes through the calls that wait, every call that is registered
is still to be failed, or its agent has ended or is about to look whether the channel is closing
(`Orderly`). So when all are failed no call waits (`Orderly.not_pending`).
-/

namespace CommandLink

variable {ω ρ : Type}

/-! ## Causes -/

/-- Why a channel closes. -/
inductive Cause where
  /-- A routine closes it. -/
  | asked
  /-- The incoming stream has ended, at the end of a frame or within one. -/
  | ended
  /-- What arrives is no frame. -/
  | unreadable (error : FrameError)
  /-- The request of a call cannot be written. -/
  | unwritable (id : CallId) (error : IoError)
  deriving DecidableEq

/-- The cause to close that comes with an action. -/
def Channel.cause? (c : Channel ω ρ) : Action ω ρ → Option Cause
  | .agent .reader .go =>
    match c.reader with
    | .read incomplete =>
      if c.inbox = [] then if c.inboxEnded then some .ended else none
      else
        match takeFrame c.setup.frameLimit incomplete c.inbox with
        | .error e => some (.unreadable e)
        | .ok _ => none
    | _ => none
  | .agent (.task number) .go =>
    match c.stage? number with
    | some (.ready (.ask .close _)) => some .asked
    | _ => none
  | .agent (.task number) (.fail error) =>
    match c.stage? number with
    | some (.call (.send id _) _) => some (.unwritable id error)
    | _ => none
  | _ => none

/-- The cause to close that comes with a moment. -/
def Moment.cause? (m : Moment ω ρ) : Option Cause := m.before.cause? m.action

/-- Whether a task is closing the channel or is going to. -/
def Stage.turning : Stage ω ρ → Bool
  | .close _ _ => true
  | .call (.shut _ _) _ => true
  | .call (.giveUp _ (.transport _)) _ => true
  | _ => false

/-- Whether an agent is closing the channel or is going to. -/
def Channel.turning (c : Channel ω ρ) : Agent → Bool
  | .reader => c.reader.closing?.isSome
  | .heartbeat => false
  | .task number => (c.stage? number).any Stage.turning

theorem Stage.turning_wake (stage : Stage ω ρ) :
    (Channel.Stage.wake stage).turning = stage.turning := by
  cases stage <;> rfl

theorem Stage.turning_of_closing? {stage : Stage ω ρ} {s : CloseStage}
    (h : stage.closing? = some s) : stage.turning = true := by
  unfold Stage.closing? at h
  split at h
  · rfl
  · unfold CallStage.closing? at h
    split at h
    · rfl
    · cases h
  · cases h

/-- What a stage goes on with, if it goes on. -/
def Progress.stage? {σ α : Type} : Progress σ α → Option σ
  | .more stage => some stage
  | .finished _ => none

/-- Whether closing has yet to fail the call under an identifier. -/
def CloseStage.holds : CloseStage → CallId → Prop
  | .cancel, _ => True
  | .notify, _ => True
  | .snapshot, _ => True
  | .drain ids, id => id ∈ ids
  | _, _ => False

/-- Whether closing has begun and has not failed all the calls yet. -/
def CloseStage.drains : CloseStage → Bool
  | .cancel => true
  | .notify => true
  | .snapshot => true
  | .drain _ => true
  | _ => false

theorem CloseStage.drains_of_holds {stage : CloseStage} {id : CallId} (h : stage.holds id) :
    stage.drains = true := by
  cases stage
  case cancel => rfl
  case notify => rfl
  case snapshot => rfl
  case drain => rfl
  all_goals exact h.elim

theorem CloseStage.ne_enter_of_drains {stage : CloseStage} (h : stage.drains = true) :
    stage ≠ .enter := by
  rintro rfl
  cases h

namespace Channel

variable {c d : Channel ω ρ} {action : Action ω ρ} {events : List (Event ρ)}

/-! ## The steps of closing -/

theorem flags_endOthers (a : Agent) :
    (c.endOthers a).closing = c.closing ∧ (c.endOthers a).cancelled = c.cancelled := by
  unfold endOthers
  generalize c.backgroundAgents.filter (· ≠ a) = agents
  induction agents generalizing c with
  | nil => exact ⟨rfl, rfl⟩
  | cons b agents ih =>
    have hflags : (c.endAgent b).closing = c.closing ∧ (c.endAgent b).cancelled = c.cancelled := by
      cases b <;> exact ⟨rfl, rfl⟩
    exact ⟨ih.1.trans hflags.1, ih.2.trans hflags.2⟩

theorem flags_settle (id : CallId) (result : Except ChannelError Reply) :
    (c.settle id result).closing = c.closing ∧ (c.settle id result).cancelled = c.cancelled := by
  unfold settle
  split
  · exact ⟨rfl, rfl⟩
  · exact ⟨rfl, rfl⟩

/-- What a step of closing does that finds the channel closing by its own agent. -/
structure Continues (c d : Channel ω ρ) (stage : CloseStage) (progress : Progress CloseStage Unit) :
    Prop where
  late : stage ≠ .enter
  closing : d.closing = c.closing
  cancelled : stage ≠ .cancel → d.cancelled = c.cancelled
  told : stage = .cancel → d.cancelled = true
  next : ∀ s, progress.stage? = some s → s ≠ .enter ∧ s ≠ .cancel
  /-- The identifiers that are still pending and were held are held. -/
  held : ∀ id b, d.pending.get? id = some b → c.pending.get? id = some b ∧
    (stage.holds id → ∃ s, progress.stage? = some s ∧ s.holds id)

/-- From the failing of the calls on, no identifier is held. -/
theorem continues_of_not_holds {stage : CloseStage} {progress : Progress CloseStage Unit}
    (henter : stage ≠ .enter) (hcancel : stage ≠ .cancel) (hclosing : d.closing = c.closing)
    (hcancelled : d.cancelled = c.cancelled) (hpending : d.pending = c.pending)
    (hholds : ∀ id, ¬ stage.holds id)
    (hnext : ∀ s, progress.stage? = some s → s ≠ .enter ∧ s ≠ .cancel) :
    Continues c d stage progress where
  late := henter
  closing := hclosing
  cancelled _ := hcancelled
  told hs := absurd hs hcancel
  next := hnext
  held id _ hb := ⟨hpending ▸ hb, fun hs => absurd hs (hholds id)⟩

/-- A step of closing finds the channel closing, or is the first, or goes on. -/
theorem closeStep_cases {a : Agent} {stage : CloseStage} {choice : Choice}
    {progress : Progress CloseStage Unit}
    (h : c.closeStep a stage choice = some (d, events, progress)) :
    (stage = .enter ∧ c.closing = true ∧ d = c ∧ events = [] ∧ progress = .finished ()) ∨
    (stage = .enter ∧ c.closing = false ∧ d = { c with closing := true } ∧
      progress = .more .cancel) ∨ Continues c d stage progress := by
  cases closeStep_iff.mp h with
  | leave hclosing => exact .inl ⟨rfl, hclosing, rfl, rfl, rfl⟩
  | enter hclosing => exact .inr (.inl ⟨rfl, hclosing, rfl, rfl⟩)
  | cancel =>
    refine .inr (.inr ⟨by simp, rfl, by simp, fun _ => rfl, by simp [Progress.stage?],
      fun id b hb => ⟨hb, fun _ => ⟨.notify, rfl, trivial⟩⟩⟩)
  | notify =>
    refine .inr (.inr ⟨by simp, rfl, fun _ => rfl, by simp, by simp [Progress.stage?],
      fun id b hb => ⟨hb, fun _ => ⟨.snapshot, rfl, trivial⟩⟩⟩)
  | snapshot =>
    refine .inr (.inr ⟨by simp, rfl, fun _ => rfl, by simp, by simp [Progress.stage?],
      fun id b hb => ⟨hb, fun _ => ⟨_, rfl, ?_⟩⟩⟩)
    exact (Table.mem_keys_iff _ id).mpr (by rw [hb]; rfl)
  | @drain id' ids =>
    refine .inr (.inr ⟨by simp, (flags_settle _ _).1, fun _ => (flags_settle _ _).2, by simp,
      by simp [Progress.stage?], fun id b hb => ?_⟩)
    have hb' : (c.ledger.settle id' (.error .closed)).pending.get? id = some b := by
      rw [← ledger_settle]
      exact hb
    obtain ⟨hkept, hne⟩ := Ledger.get?_pending_of_settle hb'
    exact ⟨hkept, fun hs => ⟨_, rfl, (List.mem_cons.mp hs).resolve_left hne⟩⟩
  | drained | lock | pass | expire | shut | dropGuard =>
    exact .inr (.inr (continues_of_not_holds (by simp) (by simp) rfl rfl rfl
      (by simp [CloseStage.holds]) (by simp [Progress.stage?])))
  | abort =>
    exact .inr (.inr (continues_of_not_holds (by simp) (by simp) (flags_endOthers a).1
      (flags_endOthers a).2 (ended_endOthers a).pending (by simp [CloseStage.holds])
      (by simp [Progress.stage?])))

/-- Why a frame is not sent: the channel is closing, the link refuses it, or it is no frame that may
be sent. -/
theorem sendStep_failure {a : Agent} {stage : SendStage} {choice : Choice} {error : ChannelError}
    (h : c.sendStep a stage choice = some (d, events, .finished (.error error))) :
    error = .closed ∨ (∃ e, choice = .fail e ∧ error = .transport e) ∨
      ∃ frame e, stage = .encode frame ∧ frame.wire c.setup.frameLimit = .error e ∧
        error = .protocol e := by
  cases sendStep_iff.mp h with
  | refuse hwire => exact .inr (.inr ⟨_, _, rfl, hwire, rfl⟩)
  | fail => exact .inr (.inl ⟨_, rfl, rfl⟩)
  | late | abandon => exact .inl rfl

/-- Only a frame that may not be sent fails with a fault of the frame. -/
theorem sendStep_refused {a : Agent} {stage : SendStage} {choice : Choice} {e : FrameError}
    (h : c.sendStep a stage choice = some (d, events, .finished (.error (.protocol e)))) :
    ∃ frame, stage = .encode frame ∧ frame.wire c.setup.frameLimit = .error e := by
  cases sendStep_iff.mp h with
  | refuse hwire => exact ⟨_, rfl, hwire⟩

/-- A step of a call closes the channel, or has nothing to do with closing but that the call may
turn to it when the link has refused its request. -/
theorem callStep_closes {a : Agent} {stage : CallStage} {choice : Choice}
    {progress : Progress CallStage (Except ChannelError Reply)}
    (h : c.callStep a stage choice = some (d, events, progress)) :
    (∃ s p, stage.closing? = some s ∧ c.closeStep a s choice = some (d, events, p) ∧
      progress.stage?.bind CallStage.closing? = p.stage?) ∨
    (stage.closing? = none ∧ d.closing = c.closing ∧ d.cancelled = c.cancelled ∧
      (progress.stage?.bind CallStage.closing? = none ∨
        (progress.stage?.bind CallStage.closing? = some .enter ∧
          ∃ id e, stage = .giveUp id (.transport e)))) := by
  cases callStep_iff.mp h with
  | send hsend | sent hsend | unsent hsend =>
    obtain ⟨w, rfl⟩ := sendStep_writer hsend
    exact .inr ⟨rfl, rfl, rfl, .inl rfl⟩
  | breakOff => exact .inr ⟨rfl, rfl, rfl, .inr ⟨rfl, _, _, rfl⟩⟩
  | shut hclose | fail hclose => exact .inl ⟨_, _, rfl, hclose, rfl⟩
  | _ => exact .inr ⟨rfl, rfl, rfl, .inl rfl⟩

theorem flags_begin (op : Op ω ρ) (next : op.Answer → Routine ω ρ Unit) :
    (c.begin op next).1.closing = c.closing ∧ (c.begin op next).1.cancelled = c.cancelled := by
  cases op <;> exact ⟨rfl, rfl⟩

theorem begin_closing? (op : Op ω ρ) (next : op.Answer → Routine ω ρ Unit) :
    (c.begin op next).2.2.closing? = none ∨
      ((c.begin op next).2.2.closing? = some .enter ∧ op = .close) := by
  cases op
  case close => exact .inr ⟨rfl, rfl⟩
  all_goals exact .inl rfl

/-- A step of a task closes the channel, or has nothing to do with closing but that the task may
turn to it. -/
theorem taskStep_closes {a : Agent} {stage stage' : Stage ω ρ} {choice : Choice}
    (h : c.taskStep a stage choice = some (d, events, stage')) :
    (∃ s p, stage.closing? = some s ∧ c.closeStep a s choice = some (d, events, p) ∧
      stage'.closing? = p.stage?) ∨
    (stage.closing? = none ∧ d.closing = c.closing ∧ d.cancelled = c.cancelled ∧
      (stage'.closing? = none ∨ stage'.closing? = some .enter)) := by
  cases taskStep_iff.mp h with
  | @ask op next =>
    obtain ⟨hclosing, hcancelled⟩ := flags_begin (c := c) op next
    exact .inr ⟨rfl, hclosing, hcancelled, (begin_closing? op next).imp id And.left⟩
  | call hcall =>
    rcases callStep_closes hcall with hcloses | ⟨hs, hclosing, hcancelled, hp⟩
    · exact .inl hcloses
    · exact .inr ⟨hs, hclosing, hcancelled, hp.imp id And.left⟩
  | called hcall =>
    rcases callStep_closes hcall with hcloses | ⟨hs, hclosing, hcancelled, -⟩
    · exact .inl hcloses
    · exact .inr ⟨hs, hclosing, hcancelled, .inl rfl⟩
  | publish hsend | published hsend | respond hsend | replace hsend | responded hsend =>
    obtain ⟨w, rfl⟩ := sendStep_writer hsend
    exact .inr ⟨rfl, rfl, rfl, .inl rfl⟩
  | close hclose | closed hclose => exact .inl ⟨_, _, rfl, hclose, rfl⟩
  | stop | wait | waited | told | slept | resume => exact .inr ⟨rfl, rfl, rfl, .inl rfl⟩

/-- A call turns to closing only when the link has refused its request. -/
theorem callStep_turning {a : Agent} {stage stage' : CallStage} {choice : Choice}
    {next : Except ChannelError Reply → Routine ω ρ Unit}
    (h : c.callStep a stage choice = some (d, events, .more stage'))
    (ht : (Stage.call stage' next).turning = true) :
    (Stage.call stage next).turning = true ∨
      ∃ id s error, stage = .send id s ∧ choice = .fail error := by
  cases callStep_iff.mp h with
  | breakOff | shut => exact .inl rfl
  | @unsent id s _ _ _ error hsend =>
    cases error with
    | transport e =>
      rcases sendStep_failure hsend with hclosed | ⟨e', rfl, -⟩ | ⟨_, _, -, -, hprotocol⟩
      · cases hclosed
      · exact .inr ⟨id, s, e', rfl, rfl⟩
      · cases hprotocol
    | _ => cases ht
  | check | draw | register | recheck | send | sent => cases ht

/-- A task turns to closing only with a cause. -/
theorem taskStep_turning {number : ℕ} {stage stage' : Stage ω ρ} {choice : Choice}
    (hs : c.stage? number = some stage)
    (h : c.taskStep (.task number) stage choice = some (d, events, stage'))
    (ht : stage'.turning = true) :
    stage.turning = true ∨ (c.cause? (.agent (.task number) choice)).isSome := by
  cases taskStep_iff.mp h with
  | @ask op next =>
    right
    cases op
    case close =>
      simp only [cause?, hs]
      rfl
    all_goals cases ht
  | call hcall =>
    rcases callStep_turning hcall ht with hwas | ⟨id, s, error, rfl, rfl⟩
    · exact .inl hwas
    · right
      simp only [cause?, hs]
      rfl
  | close => exact .inl rfl
  | _ => cases ht

theorem flags_dispatch (frame : Frame) :
    (c.dispatch frame).closing = c.closing ∧ (c.dispatch frame).cancelled = c.cancelled := by
  cases frame with
  | request id call =>
    simp only [dispatch]
    split_ifs
    · exact ⟨rfl, rfl⟩
    · exact ⟨rfl, rfl⟩
  | response id result => exact flags_settle _ _
  | property | ping => exact ⟨rfl, rfl⟩

/-- A step of the reader closes the channel, or reads, and may turn to closing. -/
theorem readerStep_closes {choice : Choice} {stage : ReaderStage}
    (h : c.readerStep c.reader choice = some (d, events, stage)) :
    (∃ s p, c.reader.closing? = some s ∧ c.closeStep .reader s choice = some (d, events, p) ∧
      stage.closing? = p.stage?) ∨
    (c.reader.closing? = none ∧ d.closing = c.closing ∧ d.cancelled = c.cancelled ∧
      (stage.closing? = none ∨ (stage.closing? = some .enter ∧
        (c.cancelled = true ∨ (c.cause? (.agent .reader choice)).isSome)))) := by
  obtain ⟨reader, hreader⟩ : ∃ reader, c.reader = reader := ⟨_, rfl⟩
  rw [hreader] at h ⊢
  cases readerStep_iff.mp h with
  | ended hinbox hended =>
    refine .inr ⟨rfl, rfl, rfl, .inr ⟨rfl, .inr ?_⟩⟩
    simp only [cause?, hreader, hinbox, hended, if_true]
    rfl
  | stumble hinbox htake =>
    refine .inr ⟨rfl, rfl, rfl, .inr ⟨rfl, .inr ?_⟩⟩
    simp only [cause?, hreader, hinbox, if_false, htake]
    rfl
  | read => exact .inr ⟨rfl, rfl, rfl, .inl rfl⟩
  | @take _ _ frame rest =>
    obtain ⟨hclosing, hcancelled⟩ := flags_dispatch (c := { c with inbox := rest }) frame
    exact .inr ⟨rfl, hclosing, hcancelled, .inl rfl⟩
  | abandon hcancelled => exact .inr ⟨rfl, rfl, rfl, .inr ⟨rfl, .inl hcancelled⟩⟩
  | close hclose | closed hclose => exact .inl ⟨_, _, rfl, hclose, rfl⟩

theorem flags_heartbeatStep {stage stage' : HeartbeatStage} {choice : Choice}
    (h : c.heartbeatStep stage choice = some (d, events, stage')) :
    d.closing = c.closing ∧ d.cancelled = c.cancelled := by
  cases heartbeatStep_iff.mp h with
  | ping | abandon => exact ⟨rfl, rfl⟩
  | send hsend | sent hsend =>
    obtain ⟨w, rfl⟩ := sendStep_writer hsend
    exact ⟨rfl, rfl⟩

/-- Another agent is left as far as it has come with closing, or is ended. -/
theorem Others.closing?_eq {b : Agent} (h : Others action c d) (hb : action.agent? ≠ some b) :
    d.closing? b = c.closing? b ∨ (EndsOthers action c ∧ d.closing? b = none) := by
  cases b with
  | reader =>
    rcases h.reader hb with hr | ⟨hends, hr⟩
    · left
      simp only [closing?, hr]
    · right
      refine ⟨hends, ?_⟩
      simp only [closing?, hr]
      rfl
  | heartbeat => exact .inl rfl
  | task number =>
    rcases ht : c.tasks[number]? with _ | t
    · left
      rcases ht' : d.tasks[number]? with _ | t'
      · simp only [closing?, stage?, ht, ht']
      · obtain ⟨-, hspawned⟩ := h.new number t' ht ht'
        simp only [closing?, stage?, ht, ht', Option.map_some, Option.map_none, Option.bind_some,
          Option.bind_none]
        cases hspawned <;> rfl
    · obtain ⟨t', ht', hleft⟩ := h.task number t ht hb
      simp only [closing?, stage?, ht, ht', Option.map_some, Option.bind_some]
      cases hleft with
      | kept => exact .inl rfl
      | woken => exact .inl (Stage.closing?_wake t.stage)
      | ended hends => exact .inr ⟨hends, rfl⟩

/-- What an action does about closing. -/
inductive Closes (action : Action ω ρ) (c d : Channel ω ρ) : Prop
  /-- Nothing. -/
  | rest (closing : d.closing = c.closing) (cancelled : d.cancelled = c.cancelled)
    (stage : ∀ a, d.closing? a = c.closing? a)
  /-- An agent comes to close the channel. -/
  | turned (a : Agent) (acts : action.agent? = some a) (closing : d.closing = c.closing)
    (cancelled : d.cancelled = c.cancelled) (before : c.closing? a = none)
    (self : d.closing? a = some .enter)
    (others : ∀ b, b ≠ a → d.closing? b = c.closing? b)
  /-- An agent goes on with closing it. -/
  | went (a : Agent) (choice : Choice) (stage : CloseStage) (e : Channel ω ρ)
    (events : List (Event ρ)) (progress : Progress CloseStage Unit)
    (acts : action = .agent a choice) (self : c.closing? a = some stage)
    (step : c.closeStep a stage choice = some (e, events, progress))
    (closing : d.closing = e.closing) (cancelled : d.cancelled = e.cancelled)
    (pending : d.pending = e.pending) (next : d.closing? a = progress.stage?)
    (others : ∀ b, b ≠ a → d.closing? b = c.closing? b ∨ (stage = .abort ∧ d.closing? b = none))

/-- What the step of an agent does about closing, from what it does to the agent itself. -/
theorem closes_of_agent {a : Agent} {choice : Choice} {e : Channel ω ρ} (events : List (Event ρ))
    (ho : Others (.agent a choice) c d) (hclosing : d.closing = e.closing)
    (hcancelled : d.cancelled = e.cancelled) (hpending : d.pending = e.pending)
    (hself : (∃ s p, c.closing? a = some s ∧ c.closeStep a s choice = some (e, events, p) ∧
        d.closing? a = p.stage?) ∨
      (c.closing? a = none ∧ e.closing = c.closing ∧ e.cancelled = c.cancelled ∧
        (d.closing? a = none ∨ d.closing? a = some .enter))) : Closes (.agent a choice) c d := by
  have hagent : ∀ b, b ≠ a → (Action.agent a choice : Action ω ρ).agent? ≠ some b :=
    fun b hb heq => hb (Option.some.inj heq).symm
  rcases hself with ⟨s, p, hs, hstep, hnext⟩ | ⟨hnone, hc, hx, hnext⟩
  · refine .went a choice s e events p rfl hs hstep hclosing hcancelled hpending hnext
      fun b hb => ?_
    rcases ho.closing?_eq (hagent b hb) with hkept | ⟨⟨a', ha', habort⟩, hended⟩
    · exact .inl hkept
    · cases ha'
      rw [hs, Option.some.injEq] at habort
      exact .inr ⟨habort, hended⟩
  · have hothers : ∀ b, b ≠ a → d.closing? b = c.closing? b := by
      intro b hb
      rcases ho.closing?_eq (hagent b hb) with hkept | ⟨⟨a', ha', habort⟩, -⟩
      · exact hkept
      · cases ha'
        rw [hnone] at habort
        cases habort
    rcases hnext with hrest | henter
    · refine .rest (hclosing.trans hc) (hcancelled.trans hx) fun b => ?_
      by_cases hb : b = a
      · rw [hb, hrest, hnone]
      · exact hothers b hb
    · exact .turned a rfl (hclosing.trans hc) (hcancelled.trans hx) hnone henter hothers

/-- **Steps and closing.** A step has nothing to do with closing, or its agent comes to close the
channel, or goes on with it. -/
theorem step_closes (h : c.step action = some (d, events)) : Closes action c d := by
  have hothers := step_others h
  -- What is no step of an agent ends nobody.
  have hrest : action.agent? = none → d.closing = c.closing → d.cancelled = c.cancelled →
      Closes action c d := by
    intro hnone hclosing hcancelled
    refine .rest hclosing hcancelled fun b => ?_
    rcases hothers.closing?_eq (b := b) (by simp [hnone]) with hkept | ⟨⟨a, ha, -⟩, -⟩
    · exact hkept
    · rw [hnone] at ha
      cases ha
  cases step_iff.mp h with
  | @reader _ e _ _ hstep =>
    refine closes_of_agent (e := e) events hothers rfl rfl rfl ?_
    rcases readerStep_closes hstep with hclose | ⟨hnone, hclosing, hcancelled, hnext⟩
    · exact .inl hclose
    · exact .inr ⟨hnone, hclosing, hcancelled, hnext.imp id And.left⟩
  | @heartbeat _ e _ _ hstep =>
    obtain ⟨hclosing, hcancelled⟩ := flags_heartbeatStep hstep
    exact closes_of_agent (e := e) [] hothers rfl rfl rfl
      (.inr ⟨rfl, hclosing, hcancelled, .inl rfl⟩)
  | @task _ _ _ e _ _ ht hstep =>
    refine closes_of_agent (e := e) events hothers rfl rfl rfl ?_
    rw [closing?_task ht, closing?_task (task_of_taskStep ht hstep)]
    exact taskStep_closes hstep
  | deliver | endInput | start | elapse => exact hrest rfl rfl rfl

/-- **Closing comes to its end** by the steps of the task that closes, as time passes. What holds
before a step of closing if it holds after it, and before the last step, holds of every channel that
the task is closing; `wrap` makes the stage of the task from that of the closing. -/
theorem closing_induction {number : ℕ} (wrap : CloseStage → Stage ω ρ) (P : Channel ω ρ → Prop)
    (hmore : ∀ {c d : Channel ω ρ} {stage stage' choice events},
      c.stage? number = some (wrap stage) →
      c.closeStep (.task number) stage choice = some (d, events, .more stage') →
      (∀ e : Channel ω ρ, e.stage? number = some (wrap stage') → P e) → P c)
    (hfinished : ∀ {c d : Channel ω ρ} {stage choice events},
      c.stage? number = some (wrap stage) →
      c.closeStep (.task number) stage choice = some (d, events, .finished ()) → P c)
    (helapse : ∀ {c : Channel ω ρ} {stage} (millis : ℕ), c.stage? number = some (wrap stage) →
      P { c with clock := c.clock + millis } → P c)
    (stage : CloseStage) (hs : c.stage? number = some (wrap stage)) : P c := by
  have habort : ∀ e : Channel ω ρ, e.stage? number = some (wrap .abort) → P e :=
    fun e he => hfinished he (closeStep_iff.mpr .abort)
  have hguard : ∀ e : Channel ω ρ, e.stage? number = some (wrap .dropGuard) → P e :=
    fun e he => hmore he (closeStep_iff.mpr .dropGuard) habort
  -- The writer is waited for no longer than until the deadline.
  have hlock : ∀ deadline (e : Channel ω ρ), e.stage? number = some (wrap (.lock deadline)) → P e :=
    fun deadline e he => helapse deadline he
      (hmore he (closeStep_iff.mpr (.expire (Nat.le_add_left _ _))) hguard)
  have hdrain : ∀ ids (e : Channel ω ρ), e.stage? number = some (wrap (.drain ids)) → P e := by
    intro ids
    induction ids with
    | nil => exact fun e he => hmore he (closeStep_iff.mpr .drained) (hlock _)
    | cons id ids ih => exact fun e he => hmore he (closeStep_iff.mpr .drain) ih
  have hnotify : ∀ e : Channel ω ρ, e.stage? number = some (wrap .notify) → P e :=
    fun e he => hmore he (closeStep_iff.mpr .notify) fun f hf =>
      hmore hf (closeStep_iff.mpr .snapshot) (hdrain _)
  have hcancel : ∀ e : Channel ω ρ, e.stage? number = some (wrap .cancel) → P e :=
    fun e he => hmore he (closeStep_iff.mpr .cancel) hnotify
  cases stage with
  | enter =>
    rcases hc : c.closing with _ | _
    · exact hmore hs (closeStep_iff.mpr (.enter hc)) hcancel
    · exact hfinished hs (closeStep_iff.mpr (.leave hc))
  | cancel => exact hcancel c hs
  | notify => exact hnotify c hs
  | snapshot => exact hmore hs (closeStep_iff.mpr .snapshot) (hdrain _)
  | drain ids => exact hdrain ids c hs
  | lock deadline => exact hlock deadline c hs
  | shut => exact hmore hs (closeStep_iff.mpr .shut) hguard
  | dropGuard => exact hguard c hs
  | abort => exact habort c hs

/-! ## Who waits while the channel closes -/

/-- Closing has failed all the calls that waited. -/
def Drained (c : Channel ω ρ) : Prop :=
  c.closing = true ∧ ∀ a stage, c.closing? a = some stage → stage.drains = false

/-- An agent waits under an identifier no longer, or will find that the channel is closing. -/
def Withdraws (c : Channel ω ρ) (id : CallId) (a : Agent) : Prop :=
  ∃ number, a = .task number ∧
    ((∃ call next, c.stage? number = some (.call (.recheck id call) next)) ∨
      c.stage? number = some .done)

/-- What holds of closing at every moment. One agent at most is closing the channel, and the calls
that wait are still to be failed by it or will withdraw. -/
structure Orderly (c : Channel ω ρ) : Prop where
  one : ∀ a b s t, c.closing? a = some s → s ≠ .enter → c.closing? b = some t → t ≠ .enter → a = b
  begun : ∀ a s, c.closing? a = some s → s ≠ .enter → c.closing = true
  cancelled : c.cancelled = true → c.closing = true
  told : c.closing = true → c.cancelled = true ∨ ∃ a, c.closing? a = some .cancel
  pending : c.closing = true → ∀ id b, c.pending.get? id = some b →
    (∃ a s, c.closing? a = some s ∧ s.holds id) ∨ c.Withdraws id b

theorem Orderly.not_cancelled (ho : Orderly c) (hc : c.closing = false) : c.cancelled = false := by
  by_contra hx
  rw [ho.cancelled ((Bool.not_eq_false _).mp hx)] at hc
  cases hc

/-- A call that begins to wait looks next whether the channel is closing. -/
theorem withdraws_of_registered (h : c.step action = some (d, events)) {id : CallId} {a : Agent}
    (hnote : c.note? action = some (.registered a id)) : d.Withdraws id a := by
  cases noted_of_note? hnote with
  | @registered number _ call next hs =>
    obtain ⟨e, stage, hstep, rfl, hstage⟩ := step_of_stage? hs h
    cases hstep
    exact ⟨number, rfl, .inl ⟨call, next, hstage⟩⟩

/-- Only a call that looks whether the channel is closing begins to wait. -/
theorem pending_of_step (h : c.step action = some (d, events)) {id : CallId} {b : Agent}
    (hp : d.pending.get? id = some b) :
    c.pending.get? id = some b ∨ d.Withdraws id b := by
  obtain ⟨l, hturn, hends⟩ := step_turn h
  have hpl : l.pending.get? id = some b := by
    rw [← hends.pending]
    exact hp
  generalize hnote : c.note? action = note at hturn
  cases hturn with
  | closed | response => exact .inl (Ledger.get?_pending_of_settle hpl).1
  | registered a id' hs =>
    simp only [Ledger.stand_pending, Table.get?_insert] at hpl
    split_ifs at hpl with hid
    · right
      cases hpl
      exact hid ▸ withdraws_of_registered h hnote
    · exact .inl hpl
  | broke | withdrew => exact .inl (Ledger.get?_pending_of_forget hpl)
  | rest | began | drew | failed | refused | returned | lost | gaveUp => exact .inl hpl

/-- An agent that withdraws still does, or does not wait any more. -/
theorem withdraws_of_step (h : c.step action = some (d, events)) (hc : c.closing = true)
    {id : CallId} {b : Agent} (hw : c.Withdraws id b) :
    d.Withdraws id b ∨ d.pending.get? id = none := by
  obtain ⟨number, rfl, hw⟩ := hw
  by_cases ha : action.agent? = some (.task number)
  · obtain ⟨choice, rfl⟩ := exists_choice_of_agent? ha
    rcases hw with ⟨call, next, hstage⟩ | hstage
    · obtain ⟨e, stage, hs, rfl, -⟩ := step_of_stage? hstage h
      cases choice
      case go =>
        simp only [taskStep, callStep, hc, if_true, Option.map_some, Option.some.injEq,
          Prod.mk.injEq] at hs
        obtain ⟨rfl, -, -⟩ := hs
        right
        simp [setStage, forget]
      all_goals cases hs
    · obtain ⟨e, stage, hs, -⟩ := step_of_stage? hstage h
      cases hs
  · left
    have hothers := step_others h
    rcases hw with ⟨call, next, hstage⟩ | hstage
    · rcases hothers.stage hstage rfl ha with hkept | hended
      · exact ⟨number, rfl, .inl ⟨call, next, hkept⟩⟩
      · exact ⟨number, rfl, .inr hended⟩
    · exact ⟨number, rfl, .inr (or_self_iff.mp (hothers.stage hstage rfl ha))⟩

/-- Once a channel is closing it does not reopen. -/
theorem closing_of_step (h : c.step action = some (d, events)) (hc : c.closing = true) :
    d.closing = true := by
  cases step_closes h with
  | rest hclosing => rw [hclosing, hc]
  | turned _ _ hclosing => rw [hclosing, hc]
  | went _ _ _ _ _ _ _ _ hstep hclosing =>
    rw [hclosing]
    rcases closeStep_cases hstep with ⟨-, -, rfl, -⟩ | ⟨-, -, rfl, -⟩ | hcontinues
    · exact hc
    · rfl
    · rw [hcontinues.closing, hc]

/-- Everyone's calls that wait are still to be failed or will withdraw after a step, if they were
before and closing still holds what it held. -/
theorem Orderly.pending_step (ho : Orderly c) (h : c.step action = some (d, events))
    (hc : c.closing = true)
    (hheld : ∀ id b, d.pending.get? id = some b → (∃ a s, c.closing? a = some s ∧ s.holds id) →
      ∃ a s, d.closing? a = some s ∧ s.holds id) (id : CallId) (b : Agent)
    (hp : d.pending.get? id = some b) :
    (∃ a s, d.closing? a = some s ∧ s.holds id) ∨ d.Withdraws id b := by
  rcases pending_of_step h hp with hwas | hnew
  · rcases ho.pending hc id b hwas with hheld' | hw
    · exact .inl (hheld id b hp hheld')
    · rcases withdraws_of_step h hc hw with hw' | hnone
      · exact .inr hw'
      · rw [hp] at hnone
        cases hnone
  · exact .inr hnew

/-- A step in which no agent goes on with closing keeps what holds of it. -/
theorem Orderly.of_same (ho : Orderly c) (h : c.step action = some (d, events))
    (hclosing : d.closing = c.closing) (hcancelled : d.cancelled = c.cancelled)
    (hsame : ∀ b s, s ≠ .enter → (d.closing? b = some s ↔ c.closing? b = some s)) : Orderly d where
  one a b s t ha hs hb ht := ho.one a b s t ((hsame a s hs).mp ha) hs ((hsame b t ht).mp hb) ht
  begun a s ha hs := by
    rw [hclosing]
    exact ho.begun a s ((hsame a s hs).mp ha) hs
  cancelled hx := by
    rw [hclosing]
    exact ho.cancelled (hcancelled ▸ hx)
  told hc := by
    rw [hcancelled]
    rcases ho.told (hclosing ▸ hc) with htold | ⟨a, ha⟩
    · exact .inl htold
    · exact .inr ⟨a, (hsame a _ (by simp)).mpr ha⟩
  pending hc := by
    refine ho.pending_step h (hclosing ▸ hc) fun id b _ ⟨a, s, ha, hs⟩ => ?_
    have hne := CloseStage.ne_enter_of_drains (CloseStage.drains_of_holds hs)
    exact ⟨a, s, (hsame a s hne).mpr ha, hs⟩

/-- After a step of closing an agent has begun to close the channel only if it had before, or it is
the one that closes. -/
theorem closer_eq {a : Agent} {stage : CloseStage}
    (hothers : ∀ b, b ≠ a → d.closing? b = c.closing? b ∨ (stage = .abort ∧ d.closing? b = none))
    (honly : ∀ b s, c.closing? b = some s → s ≠ .enter → b = a) (b : Agent) (s : CloseStage)
    (hb : d.closing? b = some s) (hs : s ≠ .enter) : b = a := by
  by_contra hba
  rcases hothers b hba with hkept | ⟨-, hnone⟩
  · exact hba (honly b s (hkept ▸ hb) hs)
  · rw [hnone] at hb
    cases hb

/-- What holds of closing holds after the agent that closes has gone on with it. -/
theorem Orderly.of_continues (ho : Orderly c) (h : c.step action = some (d, events)) {a : Agent}
    {e : Channel ω ρ} {stage : CloseStage} {progress : Progress CloseStage Unit}
    (hself : c.closing? a = some stage) (hcontinues : Continues c e stage progress)
    (hclosing : d.closing = e.closing) (hcancelled : d.cancelled = e.cancelled)
    (hpending : d.pending = e.pending) (hnext : d.closing? a = progress.stage?)
    (hothers : ∀ b, b ≠ a → d.closing? b = c.closing? b ∨ (stage = .abort ∧ d.closing? b = none)) :
    Orderly d := by
  have hc : c.closing = true := ho.begun a stage hself hcontinues.late
  have hd : d.closing = true := by rw [hclosing, hcontinues.closing, hc]
  have honly := closer_eq hothers fun b s hb hs => ho.one b a s stage hb hs hself hcontinues.late
  refine ⟨fun b b' s t hb hs hb' ht => ?_, fun _ _ _ _ => hd, fun _ => hd, fun _ => .inl ?_,
    fun _ => ?_⟩
  · rw [honly b s hb hs, honly b' t hb' ht]
  · rw [hcancelled]
    by_cases hs : stage = .cancel
    · exact hcontinues.told hs
    · rw [hcontinues.cancelled hs]
      rcases ho.told hc with hx | ⟨a', ha'⟩
      · exact hx
      · rw [ho.one a' a _ stage ha' (by simp) hself hcontinues.late, hself,
          Option.some.injEq] at ha'
        exact absurd ha' hs
  · refine ho.pending_step h hc fun id b hp hholding => ?_
    obtain ⟨a', s, ha', hs⟩ := hholding
    have hne := CloseStage.ne_enter_of_drains (CloseStage.drains_of_holds hs)
    rw [ho.one a' a s stage ha' hne hself hcontinues.late, hself, Option.some.injEq] at ha'
    obtain ⟨s', hs', hholds⟩ := (hcontinues.held id b (hpending ▸ hp)).2 (ha' ▸ hs)
    exact ⟨a, s', hnext.trans hs', hholds⟩

/-- What holds of closing holds after every step. -/
theorem Orderly.step (ho : Orderly c) (h : c.step action = some (d, events)) : Orderly d := by
  cases step_closes h with
  | rest hclosing hcancelled hstage =>
    exact ho.of_same h hclosing hcancelled fun b s _ => by rw [hstage b]
  | turned a _ hclosing hcancelled hbefore hself hothers =>
    refine ho.of_same h hclosing hcancelled fun b s hs => ?_
    by_cases hba : b = a
    · rw [hba, hself, hbefore]
      simp [Ne.symm hs]
    · rw [hothers b hba]
  | went a _ stage e _ _ _ hself hstep hclosing hcancelled hpending hnext hothers =>
    rcases closeStep_cases hstep with ⟨rfl, hc, rfl, -, rfl⟩ | ⟨rfl, hc, rfl, rfl⟩ | hcontinues
    · refine ho.of_same h hclosing hcancelled fun b s hs => ?_
      by_cases hba : b = a
      · rw [hba, hself, hnext]
        simp [Progress.stage?, Ne.symm hs]
      · rcases hothers b hba with hb | ⟨habort, -⟩
        · rw [hb]
        · cases habort
    · -- Nobody has closed the channel before.
      have honly := closer_eq hothers fun b s hb hs => by
        rw [ho.begun b s hb hs] at hc
        cases hc
      refine ⟨fun b b' s t hb hs hb' ht => ?_, fun _ _ _ _ => hclosing, fun _ => hclosing,
        fun _ => .inr ⟨a, hnext⟩, fun _ _ _ _ => .inl ⟨a, .cancel, hnext, trivial⟩⟩
      rw [honly b s hb hs, honly b' t hb' ht]
    · exact ho.of_continues h hself hcontinues hclosing hcancelled hpending hnext hothers

/-! ## Runs -/

variable (setup : ChannelSetup ω ρ) (world : ω) (guarded : Bool)

theorem closing?_start (a : Agent) : (start setup world guarded).closing? a = none := by
  cases a with
  | reader | heartbeat | task => rfl

/-- What holds of closing holds after every run. -/
theorem orderly_after (actions : List (Action ω ρ)) :
    Orderly ((start setup world guarded).after actions) := by
  refine run_induction (P := fun _ c => Orderly c) _ ?_ (fun _ _ _ _ _ ho h => ho.step h) actions
  refine ⟨fun a b s t ha => ?_, fun a s ha => ?_, fun hx => ?_, fun hc => ?_, fun hc => ?_⟩
  · rw [closing?_start] at ha
    cases ha
  · rw [closing?_start] at ha
    cases ha
  · cases hx
  · cases hc
  · cases hc

/-- A channel does not reopen. -/
theorem closing_after (hc : c.closing = true) (actions : List (Action ω ρ)) :
    (c.after actions).closing = true :=
  run_induction (P := fun _ d => d.closing = true) c hc
    (fun _ _ _ _ _ hd h => closing_of_step h hd) actions

/-- **No call waits when all have been failed**, but for those that are about to withdraw. -/
theorem Orderly.not_pending (ho : Orderly c) (hd : c.Drained) {id : CallId} {b : Agent}
    (hp : c.pending.get? id = some b) : c.Withdraws id b := by
  rcases ho.pending hd.1 id b hp with ⟨a, s, ha, hs⟩ | hw
  · have hdrains := hd.2 a s ha
    rw [CloseStage.drains_of_holds hs] at hdrains
    cases hdrains
  · exact hw

/-- When all calls have been failed everyone has been told. -/
theorem Orderly.cancelled_of_drained (ho : Orderly c) (hd : c.Drained) : c.cancelled = true := by
  rcases ho.told hd.1 with hx | ⟨a, ha⟩
  · exact hx
  · cases hd.2 a _ ha

/-! ## Why channels close -/

/-- An agent that comes to close the channel has a cause, or the channel is closing. -/
theorem turning_of_step (h : c.step action = some (d, events)) {a : Agent}
    (ht : d.turning a = true) :
    c.turning a = true ∨ c.cancelled = true ∨ (c.cause? action).isSome := by
  have hothers := step_others h
  cases a with
  | reader =>
    by_cases ha : action.agent? = some .reader
    · obtain ⟨choice, rfl⟩ := exists_choice_of_agent? ha
      obtain ⟨⟨e, events', stage⟩, hs, heq⟩ := Option.map_eq_some_iff.mp h
      cases heq
      rcases readerStep_closes hs with ⟨s, p, hclose, -⟩ | ⟨-, -, -, hnext⟩
      · left
        simp only [turning, hclose, Option.isSome_some]
      · rcases hnext with hnone | ⟨-, hwhy⟩
        · simp only [turning, hnone] at ht
          cases ht
        · exact .inr hwhy
    · left
      simp only [turning] at ht ⊢
      rcases hothers.reader ha with hr | ⟨-, hr⟩
      · rwa [hr] at ht
      · rw [hr] at ht
        cases ht
  | heartbeat => cases ht
  | task number =>
    by_cases ha : action.agent? = some (.task number)
    · obtain ⟨choice, rfl⟩ := exists_choice_of_agent? ha
      obtain ⟨t, e, stage, htask, hs, rfl, ht'⟩ := step_own h
      have hstage := stage?_task htask
      simp only [turning, stage?, ht', Option.map_some, Option.any_some] at ht
      rcases taskStep_turning hstage hs ht with hwas | hcause
      · left
        simp only [turning, hstage, Option.any_some, hwas]
      · exact .inr (.inr hcause)
    · left
      rcases htask : c.tasks[number]? with _ | t
      · rcases htask' : d.tasks[number]? with _ | t'
        · simp only [turning, stage?, htask'] at ht
          cases ht
        · obtain ⟨-, hspawned⟩ := hothers.new number t' htask htask'
          simp only [turning, stage?, htask', Option.map_some, Option.any_some] at ht
          cases hspawned
          · cases ht
          · cases ht
      · obtain ⟨t', ht', hleft⟩ := hothers.task number t htask ha
        simp only [turning, stage?, htask, ht', Option.map_some, Option.any_some] at ht ⊢
        cases hleft with
        | kept => exact ht
        | woken => rwa [Stage.turning_wake] at ht
        | ended => cases ht

theorem turning_of_closing? {a : Agent} {s : CloseStage} (h : c.closing? a = some s) :
    c.turning a = true := by
  cases a with
  | reader =>
    simp only [closing?] at h
    simp only [turning, h, Option.isSome_some]
  | heartbeat => cases h
  | task number =>
    obtain ⟨stage, hstage, hs⟩ := Option.bind_eq_some_iff.mp h
    simp only [turning, hstage, Option.any_some, Stage.turning_of_closing? hs]

/-- **Why channels close.** A channel that is closing, or is about to, has had a cause. -/
theorem cause_of_closing (actions : List (Action ω ρ))
    (hc : ((start setup world guarded).after actions).closing = true) :
    ∃ m ∈ (start setup world guarded).moments actions, m.cause?.isSome := by
  suffices ((start setup world guarded).after actions).closing = true ∨
      (∃ a, ((start setup world guarded).after actions).turning a = true) →
      ∃ m ∈ (start setup world guarded).moments actions, m.cause?.isSome from this (.inl hc)
  clear hc
  refine (run_induction (P := fun past c => Orderly c ∧ (c.closing = true ∨
      (∃ a, c.turning a = true) → ∃ m ∈ past, m.cause?.isSome)) _ ⟨?_, ?_⟩ ?_ actions).2
  · exact orderly_after setup world guarded []
  · rintro (hc | ⟨a, ha⟩)
    · cases hc
    · cases a with
      | reader | heartbeat | task => cases ha
  · rintro past c action d events ⟨ho, hpast⟩ h
    refine ⟨ho.step h, fun hd => ?_⟩
    have hearlier : c.closing = true ∨ (∃ a, c.turning a = true) →
        ∃ m ∈ past ++ [⟨c, action, d, events⟩], m.cause?.isSome := by
      intro hc
      obtain ⟨m, hm, hcause⟩ := hpast hc
      exact ⟨m, List.mem_append_left _ hm, hcause⟩
    rcases hd with hd | ⟨a, ha⟩
    · refine hearlier ?_
      cases step_closes h with
      | rest hclosing => exact .inl (hclosing ▸ hd)
      | turned _ _ hclosing => exact .inl (hclosing ▸ hd)
      | went a _ _ _ _ _ _ hself => exact .inr ⟨a, turning_of_closing? hself⟩
    · rcases turning_of_step h ha with hwas | hx | hcause
      · exact hearlier (.inr ⟨a, hwas⟩)
      · exact hearlier (.inl (ho.cancelled hx))
      · exact ⟨_, List.mem_append_right _ (List.mem_singleton_self _), hcause⟩

end Channel

end CommandLink
