import CommandLink.Proofs.Channel.Moves

/-!
# What the parts of a step change

Each part of a step of a channel changes little of it. Sending changes only the writer
(`sendStep_writer`) and fails only for reasons of this end (`sendStep_error`). Ending an agent
changes, of the tasks, only the stage of that one, which is over afterwards (`Ended`). What has
arrived and the world are left as they are by everything but the reader and a routine that changes
the world (`Spares`).
-/

namespace CommandLink.Channel

variable {ω ρ : Type} {c d : Channel ω ρ}

/-! ## Sending -/

/-- Sending a frame changes only the writer. -/
theorem sendStep_writer {a : Agent} {stage : SendStage} {choice : Choice}
    {events : List (Event ρ)} {progress : Progress SendStage (Except ChannelError Unit)}
    (h : c.sendStep a stage choice = some (d, events, progress)) :
    ∃ w, d = { c with writer := w } := by
  cases sendStep_iff.mp h with
  | refuse | write | finish => exact ⟨c.writer, rfl⟩
  | join | take | late | flush | fail | abandon => exact ⟨_, rfl⟩

/-- Sending does not fail for a reason of the other end. -/
theorem sendStep_error {a : Agent} {stage : SendStage} {choice : Choice}
    {events : List (Event ρ)} {e : ChannelError}
    (h : c.sendStep a stage choice = some (d, events, .finished (.error e))) (message : String) :
    e ≠ .remote message := by
  cases sendStep_iff.mp h <;> simp

/-! ## Stages of tasks -/

theorem stage?_task {number : ℕ} {t : Task ω ρ} (ht : c.tasks[number]? = some t) :
    c.stage? number = some t.stage := by
  rw [stage?, ht, Option.map_some]

theorem stage?_setStage_self {number : Nat} (stage : Stage ω ρ) (h : number < c.tasks.length) :
    (c.setStage number stage).stage? number = some stage := by
  simp [stage?, setStage, h]

theorem stage?_setStage_of_ne {number other : Nat} (stage : Stage ω ρ) (h : other ≠ number) :
    (c.setStage number stage).stage? other = c.stage? other := by
  simp [stage?, setStage, h.symm]

theorem length_setStage (number : Nat) (stage : Stage ω ρ) :
    (c.setStage number stage).tasks.length = c.tasks.length :=
  List.length_modify _ _ _

theorem lt_of_stage? {number : Nat} {stage : Stage ω ρ} (h : c.stage? number = some stage) :
    number < c.tasks.length := by
  by_contra hn
  rw [stage?, List.getElem?_eq_none (Nat.le_of_not_lt hn)] at h
  exact absurd h (by simp)

theorem stage?_wakeAll (number : Nat) :
    c.wakeAll.stage? number = (c.stage? number).map Stage.wake := by
  simp [stage?, wakeAll, Function.comp_def]

theorem length_wakeAll : c.wakeAll.tasks.length = c.tasks.length := List.length_map _

theorem stage?_spawn_of_lt {number : Nat} {background : Bool} {routine : Routine ω ρ Unit}
    (h : number < c.tasks.length) : (c.spawn background routine).stage? number = c.stage? number := by
  simp [stage?, spawn, List.getElem?_append_left h]

/-! ## The end of agents -/

/-- Some agents have ended, others have not: nothing that calls depend on has changed but for the
stages of those that have ended. -/
structure Ended (c d : Channel ω ρ) : Prop where
  nextId : d.nextId = c.nextId
  pending : d.pending = c.pending
  arrived : d.arrived = c.arrived
  length : d.tasks.length = c.tasks.length
  stage : ∀ number, d.stage? number = c.stage? number ∨ d.stage? number = some .done

theorem Ended.refl (c : Channel ω ρ) : Ended c c := ⟨rfl, rfl, rfl, rfl, fun _ => .inl rfl⟩

theorem Ended.trans {e : Channel ω ρ} (h : Ended c d) (h' : Ended d e) : Ended c e where
  nextId := h'.nextId.trans h.nextId
  pending := h'.pending.trans h.pending
  arrived := h'.arrived.trans h.arrived
  length := h'.length.trans h.length
  stage number := by
    rcases h'.stage number with hs | hs
    · rw [hs]
      exact h.stage number
    · exact .inr hs

theorem ended_setStage_done (number : Nat) : Ended c (c.setStage number .done) := by
  refine ⟨rfl, rfl, rfl, length_setStage _ _, fun other => ?_⟩
  by_cases ho : other = number
  · subst ho
    by_cases hl : other < c.tasks.length
    · exact .inr (stage?_setStage_self _ hl)
    · left
      simp [stage?, setStage, hl]
  · left
    exact stage?_setStage_of_ne _ ho

theorem ended_endAgent (a : Agent) : Ended c (c.endAgent a) := by
  cases a with
  | reader | heartbeat => exact ⟨rfl, rfl, rfl, rfl, fun _ => .inl rfl⟩
  | task number =>
    have hleft : Ended c (c.leaveWriter (.task number)) := ⟨rfl, rfl, rfl, rfl, fun _ => .inl rfl⟩
    exact hleft.trans (ended_setStage_done number)

theorem ended_endOthers (a : Agent) : Ended c (c.endOthers a) := by
  unfold endOthers
  generalize c.backgroundAgents.filter (· ≠ a) = agents
  induction agents generalizing c with
  | nil => exact .refl c
  | cons b agents ih => exact (ended_endAgent b).trans ih

/-! ## What has arrived, and the world -/

/-- What has arrived and the world are as they were. -/
structure Spares (c d : Channel ω ρ) : Prop where
  inbox : d.inbox = c.inbox
  world : d.world = c.world

theorem Spares.refl (c : Channel ω ρ) : Spares c c := ⟨rfl, rfl⟩

theorem spares_endOthers (a : Agent) : Spares c (c.endOthers a) := by
  unfold endOthers
  generalize c.backgroundAgents.filter (· ≠ a) = agents
  induction agents generalizing c with
  | nil => exact .refl c
  | cons b agents ih =>
    rw [List.foldl_cons]
    have hrest := ih (c := c.endAgent b)
    cases b
    all_goals exact ⟨hrest.inbox, hrest.world⟩

section Steps

variable {a : Agent} {choice : Choice} {events : List (Event ρ)}

theorem spares_sendStep {stage : SendStage}
    {progress : Progress SendStage (Except ChannelError Unit)}
    (h : c.sendStep a stage choice = some (d, events, progress)) : Spares c d := by
  obtain ⟨w, rfl⟩ := sendStep_writer h
  exact ⟨rfl, rfl⟩

theorem spares_settle (id : CallId) (result : Except ChannelError Reply) :
    Spares c (c.settle id result) := by
  unfold settle
  split
  · exact ⟨rfl, rfl⟩
  · exact .refl c

theorem spares_closeStep {stage : CloseStage} {progress : Progress CloseStage Unit}
    (h : c.closeStep a stage choice = some (d, events, progress)) : Spares c d := by
  cases closeStep_iff.mp h with
  | drain => exact spares_settle _ _
  | abort => exact spares_endOthers a
  | _ => exact ⟨rfl, rfl⟩

theorem spares_callStep {stage : CallStage}
    {progress : Progress CallStage (Except ChannelError Reply)}
    (h : c.callStep a stage choice = some (d, events, progress)) : Spares c d := by
  cases callStep_iff.mp h with
  | send hsend | sent hsend | unsent hsend => exact spares_sendStep hsend
  | shut hclose | fail hclose => exact spares_closeStep hclose
  | _ => exact ⟨rfl, rfl⟩

theorem spares_begin (op : Op ω ρ) (next : op.Answer → Routine ω ρ Unit) (hn : ∀ f, op ≠ .change f) :
    Spares c (c.begin op next).1 := by
  cases op
  case change f => exact absurd rfl (hn f)
  all_goals exact .refl c

/-- A task changes the world only where its routine does. -/
theorem spares_taskStep {stage stage' : Stage ω ρ}
    (h : c.taskStep a stage choice = some (d, events, stage')) :
    Spares c d ∨
      ∃ f next, stage = .ready (.ask (.change f) next) ∧ d = { c with world := f c.world } := by
  cases taskStep_iff.mp h with
  | @ask op next =>
    by_cases hn : ∀ f, op ≠ .change f
    · exact .inl (spares_begin op next hn)
    · push Not at hn
      obtain ⟨f, rfl⟩ := hn
      exact .inr ⟨f, next, rfl, rfl⟩
  | call hcall | called hcall => exact .inl (spares_callStep hcall)
  | publish hsend | published hsend | respond hsend | replace hsend | responded hsend =>
    exact .inl (spares_sendStep hsend)
  | close hclose | closed hclose => exact .inl (spares_closeStep hclose)
  | stop | wait | waited | told | slept | resume => exact .inl (.refl c)

theorem spares_dispatch (frame : Frame) : Spares c (c.dispatch frame) := by
  unfold dispatch
  split
  · exact spares_settle _ _
  · split_ifs
    · exact .refl c
    · exact ⟨rfl, rfl⟩
  · exact ⟨rfl, rfl⟩
  · exact .refl c

theorem spares_heartbeatStep {stage stage' : HeartbeatStage}
    (h : c.heartbeatStep stage choice = some (d, events, stage')) : Spares c d := by
  cases heartbeatStep_iff.mp h with
  | ping | abandon => exact .refl c
  | send hsend | sent hsend => exact spares_sendStep hsend

/-- The reader leaves the world as it is. -/
theorem world_readerStep {stage stage' : ReaderStage}
    (h : c.readerStep stage choice = some (d, events, stage')) : d.world = c.world := by
  cases readerStep_iff.mp h with
  | ended | stumble | read | abandon => rfl
  | @take _ _ frame rest => exact (spares_dispatch (c := { c with inbox := rest }) frame).world
  | close hclose | closed hclose => exact (spares_closeStep hclose).world

end Steps

end CommandLink.Channel
