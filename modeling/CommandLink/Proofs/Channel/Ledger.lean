import CommandLink.Proofs.Channel.Effects

/-!
# The ledger of a channel

As far as calls are concerned a channel is its `Ledger`: the next identifier, the calls that wait,
the results that have arrived, and for every agent how far its call has come (`Standing`). A step of
the channel is one of a few turns of the ledger (`Turn`), after which some agents may have ended
(`step_turn`). `Channel.note?` is what a step does for the history of calls; every turn comes with
its note.
-/

namespace CommandLink

variable {ω ρ : Type}

/-! ## How far a call has come -/

/-- How far the call of an agent has come. -/
inductive Standing where
  /-- There is no call. -/
  | idle
  /-- It has no identifier. -/
  | opened
  /-- It has drawn an identifier. -/
  | drawn (id : CallId)
  /-- It waits under its identifier, or would but for an error of its request. -/
  | waiting (id : CallId) (failure : Option ChannelError)
  /-- It closes the channel before it fails. -/
  | closing (error : ChannelError)
  /-- The agent has ended. -/
  | ended

/-- How far a call in a stage has come. -/
def CallStage.standing : CallStage → Standing
  | .check _ => .opened
  | .draw _ => .opened
  | .register id _ => .drawn id
  | .recheck id _ => .waiting id none
  | .send id _ => .waiting id none
  | .giveUp id error => .waiting id (some error)
  | .shut error _ => .closing error
  | .await id => .waiting id none

/-- How far the call of a task in a stage has come. -/
def Stage.standing : Stage ω ρ → Standing
  | .call stage _ => stage.standing
  | .done => .ended
  | _ => .idle

/-- What a channel is as far as calls are concerned. -/
structure Ledger where
  /-- The identifier of the next call. -/
  nextId : CallId
  /-- The calls that wait for their response, and who made them. -/
  pending : Table CallId Agent
  /-- The results that have arrived and not been looked at. -/
  arrived : Table Agent (Except ChannelError Reply)
  standing : Agent → Standing

namespace Ledger

/-- The call that waits under an identifier gets its result. -/
def settle (l : Ledger) (id : CallId) (result : Except ChannelError Reply) : Ledger :=
  match l.pending.get? id with
  | some a => { l with pending := l.pending.erase id, arrived := l.arrived.insert a result }
  | none => l

theorem settle_standing (l : Ledger) (id : CallId) (result : Except ChannelError Reply) :
    (l.settle id result).standing = l.standing := by
  unfold settle
  split
  · rfl
  · rfl

theorem settle_nextId (l : Ledger) (id : CallId) (result : Except ChannelError Reply) :
    (l.settle id result).nextId = l.nextId := by
  unfold settle
  split
  · rfl
  · rfl

/-- No call waits under an identifier any longer. -/
def forget (l : Ledger) (id : CallId) : Ledger := { l with pending := l.pending.erase id }

/-- The call of an agent has come this far. -/
def stand (l : Ledger) (a : Agent) (standing : Standing) : Ledger :=
  { l with standing := fun b => if b = a then standing else l.standing b }

@[simp] theorem stand_nextId (l : Ledger) (a : Agent) (s : Standing) :
    (l.stand a s).nextId = l.nextId := rfl

@[simp] theorem stand_pending (l : Ledger) (a : Agent) (s : Standing) :
    (l.stand a s).pending = l.pending := rfl

@[simp] theorem stand_arrived (l : Ledger) (a : Agent) (s : Standing) :
    (l.stand a s).arrived = l.arrived := rfl

@[simp] theorem stand_standing_self (l : Ledger) (a : Agent) (s : Standing) :
    (l.stand a s).standing a = s := if_pos rfl

theorem stand_standing_of_ne {l : Ledger} {a b : Agent} (h : b ≠ a) (s : Standing) :
    (l.stand a s).standing b = l.standing b := if_neg h

theorem stand_self (l : Ledger) (a : Agent) : l.stand a (l.standing a) = l := by
  have hs : (l.stand a (l.standing a)).standing = l.standing := by
    funext b
    by_cases hb : b = a
    · subst hb
      exact stand_standing_self l b _
    · exact stand_standing_of_ne hb _
  exact congrArg (fun s => ({ l with standing := s } : Ledger)) hs

/-- Some agents have ended, and nothing else has changed. -/
structure Ends (l l' : Ledger) : Prop where
  nextId : l'.nextId = l.nextId
  pending : l'.pending = l.pending
  arrived : l'.arrived = l.arrived
  standing : ∀ a, l'.standing a = l.standing a ∨ l'.standing a = .ended

theorem Ends.refl (l : Ledger) : Ends l l := ⟨rfl, rfl, rfl, fun _ => .inl rfl⟩

end Ledger

/-! ## What happens to calls -/

/-- What happens to the calls of a channel. -/
inductive Note where
  /-- An agent makes a call. -/
  | began (caller : Agent) (call : Call)
  | drew (caller : Agent) (id : CallId)
  /-- From now on a call waits for the response with its identifier. -/
  | registered (caller : Agent) (id : CallId)
  /-- A response has been taken from the stream, and it was for the call of this agent. -/
  | response (id : CallId) (result : Except Failure Reply) (waiting : Option Agent)
  /-- A call returns to the agent that made it. -/
  | completed (caller : Agent) (result : Except ChannelError Reply)

namespace Note

/-- The agent whose call a note is about, where the agent itself does something. -/
def caller? : Note → Option Agent
  | .began a _ => some a
  | .drew a _ => some a
  | .registered a _ => some a
  | .response _ _ _ => none
  | .completed a _ => some a

end Note

/-- What a response means to the call that waits for it. -/
def received (result : Except Failure Reply) : Except ChannelError Reply :=
  result.mapError fun f => .remote f.message

namespace Channel

/-- The frame that the reader takes next from what has arrived. -/
def incoming? (c : Channel ω ρ) : Option Frame :=
  match c.reader with
  | .read incomplete =>
    match takeFrame c.setup.frameLimit incomplete c.inbox with
    | .ok (frame?, _, _) => frame?
    | .error _ => none
  | _ => none

/-- What a frame from the other end does for the history of calls. -/
def frameNote? (c : Channel ω ρ) : Frame → Option Note
  | .response id result => some (.response id result (c.pending.get? id))
  | _ => none

/-- What a step of a call does for the history of calls, from the stage before it. -/
def callNote? (a : Agent) (stage : CallStage) :
    Progress CallStage (Except ChannelError Reply) → Option Note
  | .finished result => some (.completed a result)
  | .more (.register id _) => some (.drew a id)
  | .more _ =>
    match stage with
    | .register id _ => some (.registered a id)
    | _ => none

/-- What an action does for the history of calls. -/
def note? (c : Channel ω ρ) : Action ω ρ → Option Note
  | .agent (.task number) choice =>
    match c.stage? number with
    | some (.ready (.ask (.call call) _)) => some (.began (.task number) call)
    | some (.call stage _) =>
      (c.callStep (.task number) stage choice).bind fun stepped =>
        callNote? (.task number) stage stepped.2.2
    | _ => none
  | .agent .reader .go => c.incoming?.bind c.frameNote?
  | _ => none

/-- What an action is that has a note for the history of calls. -/
inductive Noted (c : Channel ω ρ) : Action ω ρ → Note → Prop
  | began {number : ℕ} {choice : Choice} {call : Call}
      {next : Except ChannelError Reply → Routine ω ρ Unit}
      (hs : c.stage? number = some (.ready (.ask (.call call) next))) :
    Noted c (.agent (.task number) choice) (.began (.task number) call)
  | drew {number : ℕ} {call : Call} {next : Except ChannelError Reply → Routine ω ρ Unit}
      (hs : c.stage? number = some (.call (.draw call) next)) :
    Noted c (.agent (.task number) .go) (.drew (.task number) c.nextId)
  | registered {number : ℕ} {id : CallId} {call : Call}
      {next : Except ChannelError Reply → Routine ω ρ Unit}
      (hs : c.stage? number = some (.call (.register id call) next)) :
    Noted c (.agent (.task number) .go) (.registered (.task number) id)
  | response {id : CallId} {result : Except Failure Reply}
      (hincoming : c.incoming? = some (.response id result)) :
    Noted c (.agent .reader .go) (.response id result (c.pending.get? id))
  | completed {number : ℕ} {choice : Choice} {stage : CallStage}
      {next : Except ChannelError Reply → Routine ω ρ Unit} {d : Channel ω ρ}
      {events : List (Event ρ)} {result : Except ChannelError Reply}
      (hs : c.stage? number = some (.call stage next))
      (hcall : c.callStep (.task number) stage choice = some (d, events, .finished result)) :
    Noted c (.agent (.task number) choice) (.completed (.task number) result)

/-- The note of a step of a call that goes on says that it has drawn its identifier or begins to
wait under it. -/
theorem noted_of_callStep {c d : Channel ω ρ} {number : ℕ} {choice : Choice}
    {stage stage' : CallStage} {next : Except ChannelError Reply → Routine ω ρ Unit}
    {events : List (Event ρ)} {note : Note} (hs : c.stage? number = some (.call stage next))
    (hcall : c.callStep (.task number) stage choice = some (d, events, .more stage'))
    (hnote : callNote? (.task number) stage (.more stage') = some note) :
    Noted c (.agent (.task number) choice) note := by
  cases callStep_iff.mp hcall with
  | draw =>
    cases hnote
    exact .drew hs
  | register =>
    cases hnote
    exact .registered hs
  | _ => cases hnote

/-- What a note says of its action. -/
theorem noted_of_note? {c : Channel ω ρ} {action : Action ω ρ} {note : Note}
    (h : c.note? action = some note) : Noted c action note := by
  unfold note? at h
  split at h
  · split at h
    · rename_i hs
      cases h
      exact .began hs
    · rename_i hs
      obtain ⟨⟨d, events, stage' | result⟩, hcall, hnote⟩ := Option.bind_eq_some_iff.mp h
      · exact noted_of_callStep hs hcall hnote
      · cases hnote
        exact .completed hs hcall
    · cases h
  · obtain ⟨frame, hincoming, hnote⟩ := Option.bind_eq_some_iff.mp h
    cases frame
    case response id result =>
      cases hnote
      exact .response hincoming
    all_goals cases hnote
  · cases h

/-- How far the call of an agent has come. -/
def standing (c : Channel ω ρ) : Agent → Standing
  | .task number => (c.stage? number).elim .idle Stage.standing
  | _ => .idle

/-- The ledger of a channel. -/
def ledger (c : Channel ω ρ) : Ledger := ⟨c.nextId, c.pending, c.arrived, c.standing⟩

end Channel

/-! ## Turns -/

/-- One turn of a ledger, with its note. -/
inductive Turn (l : Ledger) : Option Note → Ledger → Prop
  | rest : Turn l none l
  /-- The channel closes, and the call under an identifier fails. -/
  | closed (id : CallId) : Turn l none (l.settle id (.error .closed))
  | response (id : CallId) (result : Except Failure Reply) :
    Turn l (some (.response id result (l.pending.get? id))) (l.settle id (received result))
  | began (a : Agent) (call : Call) (h : l.standing a = .idle) :
    Turn l (some (.began a call)) (l.stand a .opened)
  | drew (a : Agent) (h : l.standing a = .opened) :
    Turn l (some (.drew a l.nextId))
      ({ l with nextId := l.nextId + 1 }.stand a (.drawn l.nextId))
  | registered (a : Agent) (id : CallId) (h : l.standing a = .drawn id) :
    Turn l (some (.registered a id))
      ({ l with pending := l.pending.insert id a, arrived := l.arrived.erase a }.stand a
        (.waiting id none))
  /-- The request of a call cannot be sent. -/
  | failed (a : Agent) (id : CallId) (e : ChannelError) (h : l.standing a = .waiting id none)
    (he : ∀ message, e ≠ .remote message) : Turn l none (l.stand a (.waiting id (some e)))
  /-- The link cannot be written to, and the call closes the channel. -/
  | broke (a : Agent) (id : CallId) (e : ChannelError) (h : l.standing a = .waiting id (some e)) :
    Turn l none ((l.forget id).stand a (.closing e))
  /-- A call is not made, because the channel is closing. -/
  | refused (a : Agent) (h : l.standing a = .opened) :
    Turn l (some (.completed a (.error .closed))) (l.stand a .idle)
  /-- A call fails without waiting for its response. -/
  | withdrew (a : Agent) (id : CallId) (failure : Option ChannelError)
    (h : l.standing a = .waiting id failure) :
    Turn l (some (.completed a (.error (failure.getD .closed)))) ((l.forget id).stand a .idle)
  | returned (a : Agent) (id : CallId) (result : Except ChannelError Reply)
    (h : l.standing a = .waiting id none) (hr : l.arrived.get? a = some result) :
    Turn l (some (.completed a result))
      ({ l with arrived := l.arrived.erase a }.stand a .idle)
  /-- A call no longer waits, and there is no result. -/
  | lost (a : Agent) (id : CallId) (h : l.standing a = .waiting id none)
    (hp : l.pending.get? id ≠ some a) :
    Turn l (some (.completed a (.error .closed))) (l.stand a .idle)
  /-- A call that has closed the channel fails. -/
  | gaveUp (a : Agent) (e : ChannelError) (h : l.standing a = .closing e) :
    Turn l (some (.completed a (.error e))) (l.stand a .idle)

/-! ## Steps are turns -/

namespace Channel

variable {c d : Channel ω ρ}

theorem standing_task_of_stage? {number : Nat} {stage : Stage ω ρ}
    (h : c.stage? number = some stage) : c.standing (.task number) = stage.standing := by
  simp [standing, h]

theorem standing_wake (stage : Stage ω ρ) : (Stage.wake stage).standing = stage.standing := by
  cases stage <;> rfl

theorem ledger_settle (id : CallId) (result : Except ChannelError Reply) :
    (c.settle id result).ledger = c.ledger.settle id result := by
  rcases hp : c.pending.get? id with _ | a
  · simp only [settle, Ledger.settle, ledger, hp]
  · simp only [settle, Ledger.settle, ledger, hp]
    rfl

theorem ledger_wakeAll : c.wakeAll.ledger = c.ledger := by
  have hs : c.wakeAll.standing = c.standing := by
    funext a
    cases a with
    | reader | heartbeat => rfl
    | task number =>
      rw [standing, standing, stage?_wakeAll]
      rcases c.stage? number with _ | stage
      · rfl
      · exact standing_wake stage
  exact congrArg (Ledger.mk c.nextId c.pending c.arrived) hs

theorem ledger_spawn (background : Bool) (routine : Routine ω ρ Unit) :
    (c.spawn background routine).ledger = c.ledger := by
  have hs : (c.spawn background routine).standing = c.standing := by
    funext a
    cases a with
    | reader | heartbeat => rfl
    | task number =>
      by_cases hl : number < c.tasks.length
      · rw [standing, standing, stage?_spawn_of_lt hl]
      · have hn : c.stage? number = none := by
          rw [stage?, List.getElem?_eq_none (Nat.le_of_not_lt hl)]
          rfl
        by_cases he : number = c.tasks.length
        · subst he
          simp [standing, stage?, spawn, Stage.standing]
        · have hn' : (c.spawn background routine).stage? number = none := by
            rw [stage?, List.getElem?_eq_none]
            · rfl
            · simp only [spawn, List.length_append, List.length_singleton]
              omega
          rw [standing, standing, hn, hn']
  exact congrArg (Ledger.mk c.nextId c.pending c.arrived) hs

theorem Ended.ends (h : Ended c d) : Ledger.Ends c.ledger d.ledger where
  nextId := h.nextId
  pending := h.pending
  arrived := h.arrived
  standing a := by
    cases a with
    | reader | heartbeat => exact .inl rfl
    | task number =>
      rcases h.stage number with hs | hs
      · left
        simp only [ledger, standing, hs]
      · right
        exact standing_task_of_stage? hs

/-- A task goes into another stage, and nothing else happens to the ledger. -/
theorem Ends.setStage {l : Ledger} {number : Nat} (h : Ledger.Ends l c.ledger)
    (hl : number < c.tasks.length) (stage : Stage ω ρ) :
    Ledger.Ends (l.stand (.task number) stage.standing) (c.setStage number stage).ledger where
  nextId := h.nextId
  pending := h.pending
  arrived := h.arrived
  standing a := by
    by_cases ha : a = .task number
    · subst ha
      left
      rw [Ledger.stand_standing_self]
      exact standing_task_of_stage? (stage?_setStage_self stage hl)
    · rw [Ledger.stand_standing_of_ne ha]
      have hs : (c.setStage number stage).standing a = c.standing a := by
        cases a with
        | reader | heartbeat => rfl
        | task other =>
          have ho : other ≠ number := fun he => ha (congrArg Agent.task he)
          rw [standing, standing, stage?_setStage_of_ne stage ho]
      rw [show (c.setStage number stage).ledger.standing a = c.ledger.standing a from hs]
      exact h.standing a

/-- A task goes into a stage in which its call has come as far as before. -/
theorem Ends.setStage_of_standing {l : Ledger} {number : Nat} {stage : Stage ω ρ}
    (h : Ledger.Ends l c.ledger) (hl : number < c.tasks.length)
    (hs : l.standing (.task number) = stage.standing) :
    Ledger.Ends l (c.setStage number stage).ledger := by
  have hset := Ends.setStage h hl stage
  rwa [← hs, Ledger.stand_self] at hset

/-- Closing fails one call at most, and may end agents. -/
theorem closeStep_ledger {a : Agent} {stage : CloseStage} {choice : Choice}
    {events : List (Event ρ)} {progress : Progress CloseStage Unit}
    (h : c.closeStep a stage choice = some (d, events, progress)) :
    d.tasks.length = c.tasks.length ∧
      ∃ l, (l = c.ledger ∨
          (∃ id, l = c.ledger.settle id (.error .closed)) ∧ ∃ stage, progress = .more stage) ∧
        Ledger.Ends l d.ledger := by
  have hquiet : ∀ {e : Channel ω ρ}, e.tasks.length = c.tasks.length → e.ledger = c.ledger →
      e.tasks.length = c.tasks.length ∧
        ∃ l, (l = c.ledger ∨
            (∃ id, l = c.ledger.settle id (.error .closed)) ∧ ∃ stage, progress = .more stage) ∧
          Ledger.Ends l e.ledger :=
    fun hl he => ⟨hl, c.ledger, .inl rfl, by rw [he]; exact .refl _⟩
  cases closeStep_iff.mp h with
  | notify => exact hquiet length_wakeAll ledger_wakeAll
  | @drain id ids =>
    refine ⟨?_, _, .inr ⟨⟨id, rfl⟩, _, rfl⟩, ?_⟩
    · unfold settle
      split
      · rfl
      · rfl
    · rw [ledger_settle]
      exact .refl _
  | abort =>
    have hends := ended_endOthers (c := c) a
    exact ⟨hends.length, c.ledger, .inl rfl, hends.ends⟩
  | _ => exact hquiet rfl rfl

/-- What became of the call of an agent. -/
def callStanding : Progress CallStage (Except ChannelError Reply) → Standing
  | .more stage => stage.standing
  | .finished _ => .idle

/-- A step of a call is a turn of the ledger, when its standing is changed with it. -/
theorem callStep_turn {a : Agent} {stage : CallStage} {choice : Choice} {events : List (Event ρ)}
    {progress : Progress CallStage (Except ChannelError Reply)}
    (h : c.callStep a stage choice = some (d, events, progress))
    (hs : c.standing a = stage.standing) :
    d.tasks.length = c.tasks.length ∧
      ∃ l, Turn c.ledger (callNote? a stage progress) (l.stand a (callStanding progress)) ∧
        Ledger.Ends l d.ledger := by
  have hrest : Turn c.ledger none (c.ledger.stand a stage.standing) := by
    have hself : c.ledger.stand a stage.standing = c.ledger := by
      rw [← hs]
      exact Ledger.stand_self c.ledger a
    rw [hself]
    exact .rest
  cases callStep_iff.mp h with
  | refuse hc => exact ⟨rfl, c.ledger, .refused a hs, .refl _⟩
  | check hc => exact ⟨rfl, c.ledger, hrest, .refl _⟩
  | draw => exact ⟨rfl, _, .drew a hs, .refl _⟩
  | register => exact ⟨rfl, _, .registered a _ hs, .refl _⟩
  | withdraw hc => exact ⟨rfl, _, .withdrew a _ none hs, .refl _⟩
  | recheck hc => exact ⟨rfl, c.ledger, hrest, .refl _⟩
  | send hsend | sent hsend =>
    obtain ⟨w, rfl⟩ := sendStep_writer hsend
    exact ⟨rfl, c.ledger, hrest, .refl _⟩
  | unsent hsend =>
    have he := sendStep_error hsend
    obtain ⟨w, rfl⟩ := sendStep_writer hsend
    exact ⟨rfl, c.ledger, .failed a _ _ hs he, .refl _⟩
  | breakOff => exact ⟨rfl, _, .broke a _ _ hs, .refl _⟩
  | giveUp he => exact ⟨rfl, _, .withdrew a _ (some _) hs, .refl _⟩
  | @shut e _ _ _ _ _ hclose =>
    obtain ⟨hlength, l, hl, hends⟩ := closeStep_ledger hclose
    refine ⟨hlength, l, ?_, hends⟩
    rcases hl with rfl | ⟨⟨id, rfl⟩, -⟩
    · exact hrest
    · have hself : (c.ledger.settle id (.error .closed)).stand a (.closing e) =
          c.ledger.settle id (.error .closed) := by
        have hsettled : (c.ledger.settle id (.error .closed)).standing a = .closing e :=
          (congrFun (Ledger.settle_standing _ _ _) a).trans hs
        rw [← hsettled]
        exact Ledger.stand_self _ a
      rw [callStanding, CallStage.standing, hself]
      exact .closed id
  | fail hclose =>
    obtain ⟨hlength, l, hl, hends⟩ := closeStep_ledger hclose
    rcases hl with rfl | ⟨-, stage', hstage⟩
    · exact ⟨hlength, c.ledger, .gaveUp a _ hs, hends⟩
    · exact absurd hstage (by simp)
  | answer harrived => exact ⟨rfl, _, .returned a _ _ hs harrived, .refl _⟩
  | lose harrived hpending => exact ⟨rfl, c.ledger, .lost a _ hs hpending, .refl _⟩

theorem begin_ledger (op : Op ω ρ) (next : op.Answer → Routine ω ρ Unit) :
    (c.begin op next).1.ledger = c.ledger ∧
      (c.begin op next).1.tasks.length = c.tasks.length := by
  cases op <;> exact ⟨rfl, rfl⟩

theorem begin_standing (op : Op ω ρ) (next : op.Answer → Routine ω ρ Unit) :
    (∃ call, op = .call call) ∨ (c.begin op next).2.2.standing = .idle := by
  cases op
  case call call => exact .inl ⟨call, rfl⟩
  all_goals exact .inr rfl

/-- A question that a task asks makes its call, or is none of the ledger's business. -/
theorem begin_turn {number : Nat} {op : Op ω ρ} {next : op.Answer → Routine ω ρ Unit}
    (hs : c.stage? number = some (.ready (.ask op next))) (choice : Choice) :
    ∃ l, Turn c.ledger (c.note? (.agent (.task number) choice)) l ∧
      Ledger.Ends l ((c.begin op next).1.setStage number (c.begin op next).2.2).ledger := by
  have hstanding := standing_task_of_stage? hs
  obtain ⟨hledger, hlength⟩ := c.begin_ledger op next
  have hends : Ledger.Ends c.ledger (c.begin op next).1.ledger := hledger ▸ .refl _
  have hlt : number < (c.begin op next).1.tasks.length := hlength ▸ lt_of_stage? hs
  rcases c.begin_standing op next with ⟨call, rfl⟩ | hi
  · refine ⟨c.ledger.stand (.task number) .opened, ?_, ?_⟩
    · rw [note?, hs]
      exact .began _ call hstanding
    · exact Ends.setStage hends hlt (c.begin (.call call) next).2.2
  · refine ⟨c.ledger, ?_, Ends.setStage_of_standing hends hlt (hi ▸ hstanding)⟩
    have hnote : c.note? (.agent (.task number) choice) = none := by
      rw [note?, hs]
      cases op
      case call call => exact absurd hi (by simp [begin, Stage.standing, CallStage.standing])
      all_goals rfl
    rw [hnote]
    exact .rest

section Tasks

variable {number : ℕ} {stage stage' : Stage ω ρ} {choice : Choice} {events : List (Event ρ)}

/-- A step of a task that has nothing to do with calls leaves the ledger as it is. -/
theorem turn_of_rest (hs : c.stage? number = some stage)
    (hnote : c.note? (.agent (.task number) choice) = none) (hledger : d.ledger = c.ledger)
    (hlength : d.tasks.length = c.tasks.length) (hkept : stage.standing = stage'.standing) :
    ∃ l, Turn c.ledger (c.note? (.agent (.task number) choice)) l ∧
      Ledger.Ends l (d.setStage number stage').ledger := by
  refine ⟨c.ledger, hnote ▸ .rest, ?_⟩
  exact Ends.setStage_of_standing (hledger ▸ .refl _) (hlength ▸ lt_of_stage? hs)
    ((standing_task_of_stage? hs).trans hkept)

/-- So does a step of sending that is not about a call. -/
theorem turn_of_sendStep {s : SendStage} {p : Progress SendStage (Except ChannelError Unit)}
    (hs : c.stage? number = some stage) (hnote : c.note? (.agent (.task number) choice) = none)
    (hsend : c.sendStep (.task number) s choice = some (d, events, p))
    (hkept : stage.standing = stage'.standing) :
    ∃ l, Turn c.ledger (c.note? (.agent (.task number) choice)) l ∧
      Ledger.Ends l (d.setStage number stage').ledger := by
  obtain ⟨w, rfl⟩ := sendStep_writer hsend
  exact turn_of_rest hs hnote rfl rfl hkept

/-- A step of a task that closes the channel is a turn of the ledger. -/
theorem turn_of_closeStep {s : CloseStage} {p : Progress CloseStage Unit}
    (hs : c.stage? number = some stage) (hnote : c.note? (.agent (.task number) choice) = none)
    (hclose : c.closeStep (.task number) s choice = some (d, events, p))
    (hkept : stage.standing = stage'.standing) :
    ∃ l, Turn c.ledger (c.note? (.agent (.task number) choice)) l ∧
      Ledger.Ends l (d.setStage number stage').ledger := by
  obtain ⟨hlength, l, hl, hends⟩ := closeStep_ledger hclose
  have hturn : Turn c.ledger none l ∧ l.standing = c.ledger.standing := by
    rcases hl with rfl | ⟨⟨id, rfl⟩, -⟩
    · exact ⟨.rest, rfl⟩
    · exact ⟨.closed id, Ledger.settle_standing _ _ _⟩
  refine ⟨l, hnote ▸ hturn.1, Ends.setStage_of_standing hends (hlength ▸ lt_of_stage? hs) ?_⟩
  rw [hturn.2]
  exact (standing_task_of_stage? hs).trans hkept

/-- A step of a task that makes a call is a turn of the ledger. -/
theorem turn_of_callStep {s : CallStage} {p : Progress CallStage (Except ChannelError Reply)}
    {next : Except ChannelError Reply → Routine ω ρ Unit}
    (hs : c.stage? number = some (.call s next))
    (hcall : c.callStep (.task number) s choice = some (d, events, p))
    (hstage' : stage'.standing = callStanding p) :
    ∃ l, Turn c.ledger (c.note? (.agent (.task number) choice)) l ∧
      Ledger.Ends l (d.setStage number stage').ledger := by
  obtain ⟨hlength, l, hturn, hends⟩ := callStep_turn hcall (standing_task_of_stage? hs)
  refine ⟨l.stand (.task number) (callStanding p), ?_, ?_⟩
  · rw [note?, hs]
    simp only [hcall, Option.bind_some]
    exact hturn
  · rw [← hstage']
    exact Ends.setStage hends (hlength ▸ lt_of_stage? hs) stage'

/-- A step of a task is a turn of the ledger, after which agents may have ended. -/
theorem taskStep_turn (hs : c.stage? number = some stage)
    (h : c.taskStep (.task number) stage choice = some (d, events, stage')) :
    ∃ l, Turn c.ledger (c.note? (.agent (.task number) choice)) l ∧
      Ledger.Ends l (d.setStage number stage').ledger := by
  cases taskStep_iff.mp h with
  | stop => exact ⟨c.ledger, by rw [note?, hs]; exact .rest, (ended_setStage_done number).ends⟩
  | ask => exact begin_turn hs .go
  | call hcall | called hcall => exact turn_of_callStep hs hcall rfl
  | publish hsend | published hsend | respond hsend | replace hsend | responded hsend =>
    exact turn_of_sendStep hs (by rw [note?, hs]) hsend rfl
  | close hclose | closed hclose => exact turn_of_closeStep hs (by rw [note?, hs]) hclose rfl
  | wait | waited | told | slept | resume => exact turn_of_rest hs (by rw [note?, hs]) rfl rfl rfl

end Tasks

/-- A frame from the other end is a turn of the ledger, which rests unless it is a response. -/
theorem dispatch_turn (frame : Frame) :
    Turn c.ledger (c.frameNote? frame) (c.dispatch frame).ledger := by
  cases frame with
  | request id call =>
    have hl : (c.dispatch (.request id call)).ledger = c.ledger := by
      simp only [dispatch]
      split_ifs
      · rfl
      · exact ledger_spawn _ _
    rw [hl]
    exact .rest
  | response id result =>
    have hl : (c.dispatch (.response id result)).ledger = c.ledger.settle id (received result) :=
      ledger_settle _ _
    rw [hl]
    exact .response id result
  | property name value =>
    have hl : (c.dispatch (.property name value)).ledger = c.ledger := ledger_wakeAll
    rw [hl]
    exact .rest
  | ping => exact .rest

/-- The reader takes the frame that comes next. -/
theorem step_of_incoming {frame : Frame} {events : List (Event ρ)}
    (hf : c.incoming? = some frame) (h : c.step (.agent .reader .go) = some (d, events)) :
    events = [] ∧ ∃ rest incomplete,
      d = { { c with inbox := rest }.dispatch frame with reader := .read incomplete } := by
  unfold incoming? at hf
  split at hf
  · rename_i incomplete hreader
    split at hf
    · rename_i frame? incomplete' rest htake
      subst hf
      obtain ⟨⟨e, events', stage⟩, hs, heq⟩ := Option.map_eq_some_iff.mp h
      cases heq
      rw [hreader] at hs
      cases readerStep_iff.mp hs with
      | ended hinbox =>
        rw [hinbox] at htake
        cases htake
      | stumble _ htake' | read _ htake' =>
        rw [htake] at htake'
        cases htake'
      | take _ htake' =>
        rw [htake] at htake'
        cases htake'
        exact ⟨rfl, rest, incomplete', rfl⟩
    · cases hf
  · cases hf

/-- A step of the reader is a turn of the ledger, after which agents may have ended. -/
theorem readerStep_turn {choice : Choice} {events : List (Event ρ)} {stage : ReaderStage}
    (h : c.readerStep c.reader choice = some (d, events, stage)) :
    ∃ l, Turn c.ledger (c.note? (.agent .reader choice)) l ∧
      Ledger.Ends l { d with reader := stage }.ledger := by
  obtain ⟨reader, hreader⟩ : ∃ reader, c.reader = reader := ⟨_, rfl⟩
  rw [hreader] at h
  cases readerStep_iff.mp h with
  | ended hinbox hended =>
    refine ⟨c.ledger, ?_, .refl _⟩
    simp only [note?, incoming?, hreader, hinbox, takeFrame]
    exact .rest
  | stumble hinbox htake | read hinbox htake =>
    refine ⟨c.ledger, ?_, .refl _⟩
    simp only [note?, incoming?, hreader, htake]
    exact .rest
  | @take _ _ frame rest hinbox htake =>
    have hnote : c.note? (.agent .reader .go) = c.frameNote? frame := by
      simp only [note?, incoming?, hreader, htake, Option.bind_some]
    rw [hnote]
    exact ⟨_, dispatch_turn (c := { c with inbox := rest }) frame, .refl _⟩
  | abandon hc => exact ⟨c.ledger, .rest, .refl _⟩
  | close hclose | closed hclose =>
    have hnote : c.note? (.agent .reader choice) = none := by
      cases choice <;> simp [note?, incoming?, hreader]
    obtain ⟨-, l, hl, hends⟩ := closeStep_ledger hclose
    rw [hnote]
    rcases hl with rfl | ⟨⟨id, rfl⟩, -⟩
    · exact ⟨_, .rest, hends⟩
    · exact ⟨_, .closed id, hends⟩

/-- A step of the heartbeat has nothing to do with calls. -/
theorem heartbeatStep_ledger {stage stage' : HeartbeatStage} {choice : Choice}
    {events : List (Event ρ)} (h : c.heartbeatStep stage choice = some (d, events, stage')) :
    d.ledger = c.ledger := by
  cases heartbeatStep_iff.mp h with
  | ping | abandon => rfl
  | send hsend | sent hsend =>
    obtain ⟨w, rfl⟩ := sendStep_writer hsend
    rfl

/-- **Steps are turns.** A step of a channel is one turn of its ledger, with the note of the step,
after which agents may have ended. -/
theorem step_turn {action : Action ω ρ} {events : List (Event ρ)}
    (h : c.step action = some (d, events)) :
    ∃ l, Turn c.ledger (c.note? action) l ∧ Ledger.Ends l d.ledger := by
  cases step_iff.mp h with
  | reader hstep => exact readerStep_turn hstep
  | @heartbeat choice e events stage hstep =>
    have hl := heartbeatStep_ledger hstep
    exact ⟨c.ledger, .rest, hl ▸ .refl e.ledger⟩
  | task ht hstep => exact taskStep_turn (stage?_task ht) hstep
  | start =>
    refine ⟨c.ledger, .rest, ?_⟩
    rw [ledger_spawn]
    exact .refl _
  | deliver | endInput | elapse => exact ⟨c.ledger, .rest, .refl _⟩

end Channel

end CommandLink
