import CommandLink.Proofs.Channel.Run

/-!
# Moves

What a step of each part of a channel can do, move by move: of sending (`SendMove`), closing
(`CloseMove`), a call (`CallMove`), waiting for a property (`WaitMove`), a task (`TaskMove`), the
reader (`ReaderMove`) and the heartbeat (`HeartbeatMove`), and of the channel as a whole
(`StepMove`). The moves of a part are exactly what its step does (`sendStep_iff` and the like), so
what every step of a part does is proved for each of its moves, by name.
-/

namespace CommandLink.Channel

variable {ω ρ : Type}

/-! ## Sending -/

/-- A move of sending a frame. -/
inductive SendMove (c : Channel ω ρ) (a : Agent) : SendStage → Choice → Channel ω ρ →
    List (Event ρ) → Progress SendStage (Except ChannelError Unit) → Prop
  /-- It is no frame that may be sent. -/
  | refuse {frame : Frame} {e : FrameError} (hwire : frame.wire c.setup.frameLimit = .error e) :
    SendMove c a (.encode frame) .go c [] (.finished (.error (.protocol e)))
  /-- Its bytes join the line. -/
  | join {frame : Frame} {bytes : Bytes} (hwire : frame.wire c.setup.frameLimit = .ok bytes) :
    SendMove c a (.encode frame) .go { c with writer := c.writer.enqueue a } []
      (.more (.queued bytes))
  | take {bytes : Bytes} (hfree : c.writer.isFreeFor a = true) (hopen : c.writer.isOpen = true) :
    SendMove c a (.queued bytes) .go { c with writer := c.writer.take a } [] (.more (.write bytes))
  /-- The writer has been shut. -/
  | late {bytes : Bytes} (hfree : c.writer.isFreeFor a = true) (hshut : c.writer.isOpen = false) :
    SendMove c a (.queued bytes) .go (c.leaveWriter a) [] (.finished (.error .closed))
  | write {rest : Bytes} {count : ℕ} (hcount : count ≠ 0) (hleft : rest.drop count ≠ []) :
    SendMove c a (.write rest) (.write count) c [.wrote (rest.take count)]
      (.more (.write (rest.drop count)))
  /-- The last of its bytes are written. -/
  | finish {rest : Bytes} {count : ℕ} (hcount : count ≠ 0) (hall : rest.drop count = []) :
    SendMove c a (.write rest) (.write count) c [.wrote (rest.take count)] (.more .flush)
  | flush : SendMove c a .flush .go (c.leaveWriter a) [] (.finished (.ok ()))
  /-- The link refuses its bytes. -/
  | fail {stage : SendStage} {error : IoError} (hencode : ∀ frame, stage ≠ .encode frame)
      (hqueued : ∀ bytes, stage ≠ .queued bytes) :
    SendMove c a stage (.fail error) (c.leaveWriter a) [] (.finished (.error (.transport error)))
  /-- The channel is closing. -/
  | abandon {stage : SendStage} (hencode : ∀ frame, stage ≠ .encode frame)
      (hc : c.cancelled = true) :
    SendMove c a stage .abandon (c.leaveWriter a) [] (.finished (.error .closed))

variable {c d : Channel ω ρ} {a : Agent} {choice : Choice} {events : List (Event ρ)}

/-- The moves of sending are what a step of sending does. -/
theorem sendStep_iff {stage : SendStage} {progress : Progress SendStage (Except ChannelError Unit)} :
    c.sendStep a stage choice = some (d, events, progress) ↔
      SendMove c a stage choice d events progress := by
  constructor
  · intro h
    unfold sendStep at h
    split at h
    · split at h
      · rename_i hwire
        cases h
        exact .refuse hwire
      · rename_i hwire
        cases h
        exact .join hwire
    · split_ifs at h with hfree hopen
      · cases h
        exact .take hfree hopen
      · cases h
        exact .late hfree (Bool.eq_false_iff.mpr hopen)
    · split_ifs at h with hcount
      cases h
      split_ifs with hall
      · exact .finish hcount hall
      · exact .write hcount hall
    · cases h
      exact .flush
    · cases h
    · rename_i hencode
      split at h
      · cases h
      · rename_i hqueued
        cases h
        exact .fail hencode hqueued
    · rename_i hencode
      split_ifs at h with hc
      cases h
      exact .abandon hencode hc
    · cases h
  · intro h
    cases h with
    | refuse hwire | join hwire => simp only [sendStep, hwire]
    | take hfree hopen => simp only [sendStep, hfree, hopen, if_true]
    | late hfree hshut => simp [sendStep, hfree, hshut]
    | write hcount hleft => simp only [sendStep, if_neg hcount, if_neg hleft]
    | finish hcount hall => simp only [sendStep, if_neg hcount, if_pos hall]
    | flush => rfl
    | fail hencode hqueued =>
      cases stage with
      | encode frame => exact absurd rfl (hencode frame)
      | queued bytes => exact absurd rfl (hqueued bytes)
      | write => rfl
      | flush => rfl
    | abandon hencode hc =>
      cases stage with
      | encode frame => exact absurd rfl (hencode frame)
      | _ => simp only [sendStep, hc, if_true]

/-! ## Closing -/

/-- A move of closing. -/
inductive CloseMove (c : Channel ω ρ) (a : Agent) : CloseStage → Choice → Channel ω ρ →
    List (Event ρ) → Progress CloseStage Unit → Prop
  /-- Somebody else has begun. -/
  | leave (hc : c.closing = true) : CloseMove c a .enter .go c [] (.finished ())
  | enter (hc : c.closing = false) :
    CloseMove c a .enter .go { c with closing := true } [] (.more .cancel)
  | cancel : CloseMove c a .cancel .go { c with cancelled := true } [] (.more .notify)
  | notify : CloseMove c a .notify .go c.wakeAll [] (.more .snapshot)
  | snapshot : CloseMove c a .snapshot .go c [] (.more (.drain c.pending.keys))
  /-- A call that waits fails. -/
  | drain {id : CallId} {ids : List CallId} :
    CloseMove c a (.drain (id :: ids)) .go (c.settle id (.error .closed)) [] (.more (.drain ids))
  /-- All calls have failed. -/
  | drained : CloseMove c a (.drain []) .go { c with writer := c.writer.enqueue a } []
      (.more (.lock (c.clock + writerPatience)))
  | lock {deadline : ℕ} (hfree : c.writer.isFreeFor a = true) (hopen : c.writer.isOpen = true) :
    CloseMove c a (.lock deadline) .go
      { c with writer := { c.writer.take a with isOpen := false } } [] (.more .shut)
  /-- The writer is shut already. -/
  | pass {deadline : ℕ} (hfree : c.writer.isFreeFor a = true) (hshut : c.writer.isOpen = false) :
    CloseMove c a (.lock deadline) .go (c.leaveWriter a) [] (.more .dropGuard)
  /-- The writer has not become free in time. -/
  | expire {deadline : ℕ} (hd : deadline ≤ c.clock) :
    CloseMove c a (.lock deadline) .expire (c.leaveWriter a) [] (.more .dropGuard)
  | shut : CloseMove c a .shut .go (c.leaveWriter a) [.shutWriter] (.more .dropGuard)
  | dropGuard : CloseMove c a .dropGuard .go { c with guarded := false } [] (.more .abort)
  | abort : CloseMove c a .abort .go (c.endOthers a) [] (.finished ())

/-- The moves of closing are what a step of closing does. -/
theorem closeStep_iff {stage : CloseStage} {progress : Progress CloseStage Unit} :
    c.closeStep a stage choice = some (d, events, progress) ↔
      CloseMove c a stage choice d events progress := by
  constructor
  · intro h
    unfold closeStep at h
    split at h
    · split_ifs at h with hc
      · cases h
        exact .leave hc
      · cases h
        exact .enter (Bool.eq_false_iff.mpr hc)
    · cases h
      exact .cancel
    · cases h
      exact .notify
    · cases h
      exact .snapshot
    · cases h
      exact .drain
    · cases h
      exact .drained
    · split_ifs at h with hfree hopen
      · cases h
        exact .lock hfree hopen
      · cases h
        exact .pass hfree (Bool.eq_false_iff.mpr hopen)
    · split_ifs at h with hd
      cases h
      exact .expire hd
    · cases h
      exact .shut
    · cases h
      exact .dropGuard
    · cases h
      exact .abort
    · cases h
  · intro h
    cases h with
    | leave hc => simp only [closeStep, hc, if_true]
    | enter hc => simp [closeStep, hc]
    | lock hfree hopen => simp only [closeStep, hfree, hopen, if_true]
    | pass hfree hshut => simp [closeStep, hfree, hshut]
    | expire hd => simp only [closeStep, if_pos hd]
    | _ => rfl

/-! ## Calling -/

/-- A move of a call. -/
inductive CallMove (c : Channel ω ρ) (a : Agent) : CallStage → Choice → Channel ω ρ →
    List (Event ρ) → Progress CallStage (Except ChannelError Reply) → Prop
  /-- The channel is closing. -/
  | refuse {call : Call} (hc : c.closing = true) :
    CallMove c a (.check call) .go c [] (.finished (.error .closed))
  | check {call : Call} (hc : c.closing = false) :
    CallMove c a (.check call) .go c [] (.more (.draw call))
  | draw {call : Call} :
    CallMove c a (.draw call) .go { c with nextId := c.nextId + 1 } []
      (.more (.register c.nextId call))
  | register {id : CallId} {call : Call} :
    CallMove c a (.register id call) .go
      { c with pending := c.pending.insert id a, arrived := c.arrived.erase a } []
      (.more (.recheck id call))
  /-- The channel has begun closing. -/
  | withdraw {id : CallId} {call : Call} (hc : c.closing = true) :
    CallMove c a (.recheck id call) .go (c.forget id) [] (.finished (.error .closed))
  | recheck {id : CallId} {call : Call} (hc : c.closing = false) :
    CallMove c a (.recheck id call) .go c [] (.more (.send id (.encode (.request id call))))
  /-- The request is on its way out. -/
  | send {id : CallId} {stage stage' : SendStage} {choice : Choice} {d : Channel ω ρ}
      {events : List (Event ρ)} (hsend : c.sendStep a stage choice = some (d, events, .more stage')) :
    CallMove c a (.send id stage) choice d events (.more (.send id stage'))
  | sent {id : CallId} {stage : SendStage} {choice : Choice} {d : Channel ω ρ}
      {events : List (Event ρ)}
      (hsend : c.sendStep a stage choice = some (d, events, .finished (.ok ()))) :
    CallMove c a (.send id stage) choice d events (.more (.await id))
  /-- The request is not sent. -/
  | unsent {id : CallId} {stage : SendStage} {choice : Choice} {d : Channel ω ρ}
      {events : List (Event ρ)} {e : ChannelError}
      (hsend : c.sendStep a stage choice = some (d, events, .finished (.error e))) :
    CallMove c a (.send id stage) choice d events (.more (.giveUp id e))
  /-- The link has failed. -/
  | breakOff {id : CallId} {e : IoError} :
    CallMove c a (.giveUp id (.transport e)) .go (c.forget id) []
      (.more (.shut (.transport e) .enter))
  | giveUp {id : CallId} {e : ChannelError} (he : ∀ error, e ≠ .transport error) :
    CallMove c a (.giveUp id e) .go (c.forget id) [] (.finished (.error e))
  | shut {e : ChannelError} {stage stage' : CloseStage} {choice : Choice} {d : Channel ω ρ}
      {events : List (Event ρ)} (hclose : c.closeStep a stage choice = some (d, events, .more stage')) :
    CallMove c a (.shut e stage) choice d events (.more (.shut e stage'))
  /-- The channel is closed. -/
  | fail {e : ChannelError} {stage : CloseStage} {choice : Choice} {d : Channel ω ρ}
      {events : List (Event ρ)} (hclose : c.closeStep a stage choice = some (d, events, .finished ())) :
    CallMove c a (.shut e stage) choice d events (.finished (.error e))
  /-- The result has arrived. -/
  | answer {id : CallId} {result : Except ChannelError Reply}
      (harrived : c.arrived.get? a = some result) :
    CallMove c a (.await id) .go { c with arrived := c.arrived.erase a } [] (.finished result)
  /-- The call waits no longer, and no result has arrived. -/
  | lose {id : CallId} (harrived : c.arrived.get? a = none)
      (hpending : c.pending.get? id ≠ some a) :
    CallMove c a (.await id) .go c [] (.finished (.error .closed))

/-- The moves of a call are what a step of a call does. -/
theorem callStep_iff {stage : CallStage}
    {progress : Progress CallStage (Except ChannelError Reply)} :
    c.callStep a stage choice = some (d, events, progress) ↔
      CallMove c a stage choice d events progress := by
  constructor
  · intro h
    unfold callStep at h
    split at h
    · split_ifs at h with hc
      · cases h
        exact .refuse hc
      · cases h
        exact .check (Bool.eq_false_iff.mpr hc)
    · cases h
      exact .draw
    · cases h
      exact .register
    · split_ifs at h with hc
      · cases h
        exact .withdraw hc
      · cases h
        exact .recheck (Bool.eq_false_iff.mpr hc)
    · split at h
      · cases h
      · rename_i hsend
        cases h
        exact .send hsend
      · rename_i hsend
        cases h
        exact .sent hsend
      · rename_i hsend
        cases h
        exact .unsent hsend
    · cases h
      exact .breakOff
    · rename_i he
      cases h
      exact .giveUp he
    · split at h
      · cases h
      · rename_i hclose
        cases h
        exact .shut hclose
      · rename_i hclose
        cases h
        exact .fail hclose
    · split at h
      · rename_i harrived
        cases h
        exact .answer harrived
      · rename_i harrived
        split_ifs at h with hpending
        cases h
        exact .lose harrived hpending
    · cases h
  · intro h
    cases h with
    | refuse hc => simp only [callStep, hc, if_true]
    | check hc => simp [callStep, hc]
    | withdraw hc => simp only [callStep, hc, if_true]
    | recheck hc => simp [callStep, hc]
    | send hsend | sent hsend | unsent hsend => simp only [callStep, hsend]
    | @giveUp id e he =>
      cases e with
      | transport error => exact absurd rfl (he error)
      | _ => rfl
    | shut hclose | fail hclose => simp only [callStep, hclose]
    | answer harrived => simp only [callStep, harrived]
    | lose harrived hpending => simp only [callStep, harrived, if_neg hpending]
    | _ => rfl

/-! ## Waiting for a property -/

/-- A move of waiting for a property. -/
inductive WaitMove (c : Channel ω ρ) (name : String) (deadline : Option ℕ) :
    WaitStage → Choice → Progress WaitStage (Option (Except ChannelError Json)) → Prop
  | enter : WaitMove c name deadline .enter .go (.more (.look false))
  | find {notified : Bool} {value : Json} (hvalue : c.property? name = some value) :
    WaitMove c name deadline (.look notified) .go (.finished (some (.ok value)))
  | miss {notified : Bool} (hnone : c.property? name = none) :
    WaitMove c name deadline (.look notified) .go (.more (.check notified))
  /-- The channel is closing. -/
  | giveUp {notified : Bool} (hc : c.closing = true) :
    WaitMove c name deadline (.check notified) .go (.finished (some (.error .closed)))
  | doze {notified : Bool} (hc : c.closing = false) :
    WaitMove c name deadline (.check notified) .go (.more (.asleep notified))
  | wake : WaitMove c name deadline (.asleep true) .go (.more .enter)
  | expire {time : ℕ} (hd : deadline = some time) (ht : time ≤ c.clock) :
    WaitMove c name deadline (.asleep false) .expire (.finished none)

/-- The moves of waiting are what a step of waiting does. -/
theorem waitStep_iff {name : String} {deadline : Option ℕ} {stage : WaitStage}
    {progress : Progress WaitStage (Option (Except ChannelError Json))} :
    c.waitStep name deadline stage choice = some progress ↔
      WaitMove c name deadline stage choice progress := by
  constructor
  · intro h
    unfold waitStep at h
    split at h
    · cases h
      exact .enter
    · split at h
      · rename_i hvalue
        cases h
        exact .find hvalue
      · rename_i hnone
        cases h
        exact .miss hnone
    · split_ifs at h with hc
      · cases h
        exact .giveUp hc
      · cases h
        exact .doze (Bool.eq_false_iff.mpr hc)
    · cases h
      exact .wake
    · split at h
      · cases h
      · split_ifs at h with ht
        cases h
        exact .expire rfl ht
    · cases h
  · intro h
    cases h with
    | enter => rfl
    | find hvalue => simp only [waitStep, hvalue]
    | miss hnone => simp only [waitStep, hnone]
    | giveUp hc => simp only [waitStep, hc, if_true]
    | doze hc => simp [waitStep, hc]
    | wake => rfl
    | expire hd ht => simp only [waitStep, hd, if_pos ht]

/-! ## Tasks -/

/-- A move of a task. -/
inductive TaskMove (c : Channel ω ρ) (a : Agent) : Stage ω ρ → Choice → Channel ω ρ →
    List (Event ρ) → Stage ω ρ → Prop
  | stop : TaskMove c a (.ready (.done ())) .go c [] .done
  /-- The routine begins with its next operation. -/
  | ask {op : Op ω ρ} {next : op.Answer → Routine ω ρ Unit} :
    TaskMove c a (.ready (.ask op next)) .go (c.begin op next).1 (c.begin op next).2.1
      (c.begin op next).2.2
  | call {stage stage' : CallStage} {next : Except ChannelError Reply → Routine ω ρ Unit}
      {choice : Choice} {d : Channel ω ρ} {events : List (Event ρ)}
      (hcall : c.callStep a stage choice = some (d, events, .more stage')) :
    TaskMove c a (.call stage next) choice d events (.call stage' next)
  | called {stage : CallStage} {next : Except ChannelError Reply → Routine ω ρ Unit}
      {choice : Choice} {d : Channel ω ρ} {events : List (Event ρ)}
      {result : Except ChannelError Reply}
      (hcall : c.callStep a stage choice = some (d, events, .finished result)) :
    TaskMove c a (.call stage next) choice d events (.ready (next result))
  | publish {stage stage' : SendStage} {next : Except ChannelError Unit → Routine ω ρ Unit}
      {choice : Choice} {d : Channel ω ρ} {events : List (Event ρ)}
      (hsend : c.sendStep a stage choice = some (d, events, .more stage')) :
    TaskMove c a (.publish stage next) choice d events (.publish stage' next)
  | published {stage : SendStage} {next : Except ChannelError Unit → Routine ω ρ Unit}
      {choice : Choice} {d : Channel ω ρ} {events : List (Event ρ)}
      {result : Except ChannelError Unit}
      (hsend : c.sendStep a stage choice = some (d, events, .finished result)) :
    TaskMove c a (.publish stage next) choice d events (.ready (next result))
  | respond {id : CallId} {last : Bool} {stage stage' : SendStage}
      {next : Unit → Routine ω ρ Unit} {choice : Choice} {d : Channel ω ρ}
      {events : List (Event ρ)} (hsend : c.sendStep a stage choice = some (d, events, .more stage')) :
    TaskMove c a (.respond id last stage next) choice d events (.respond id last stage' next)
  /-- The answer cannot be sent, and its error is sent in its place. -/
  | replace {id : CallId} {stage : SendStage} {next : Unit → Routine ω ρ Unit}
      {choice : Choice} {d : Channel ω ρ} {events : List (Event ρ)} {e : FrameError}
      (hsend : c.sendStep a stage choice = some (d, events, .finished (.error (.protocol e)))) :
    TaskMove c a (.respond id false stage next) choice d events
      (.respond id true (.encode (.response id (.error ⟨e.message⟩))) next)
  | responded {id : CallId} {last : Bool} {stage : SendStage} {next : Unit → Routine ω ρ Unit}
      {choice : Choice} {d : Channel ω ρ} {events : List (Event ρ)}
      {result : Except ChannelError Unit}
      (hsend : c.sendStep a stage choice = some (d, events, .finished result))
      (hlast : ∀ e, result = .error (.protocol e) → last = true) :
    TaskMove c a (.respond id last stage next) choice d events (.ready (next ()))
  | wait {name : String} {deadline : Option ℕ} {stage stage' : WaitStage}
      {next : Option (Except ChannelError Json) → Routine ω ρ Unit} {choice : Choice}
      (hwait : c.waitStep name deadline stage choice = some (.more stage')) :
    TaskMove c a (.wait name deadline stage next) choice c [] (.wait name deadline stage' next)
  | waited {name : String} {deadline : Option ℕ} {stage : WaitStage}
      {next : Option (Except ChannelError Json) → Routine ω ρ Unit} {choice : Choice}
      {result : Option (Except ChannelError Json)}
      (hwait : c.waitStep name deadline stage choice = some (.finished result)) :
    TaskMove c a (.wait name deadline stage next) choice c [] (.ready (next result))
  | close {stage stage' : CloseStage} {next : Unit → Routine ω ρ Unit} {choice : Choice}
      {d : Channel ω ρ} {events : List (Event ρ)}
      (hclose : c.closeStep a stage choice = some (d, events, .more stage')) :
    TaskMove c a (.close stage next) choice d events (.close stage' next)
  | closed {stage : CloseStage} {next : Unit → Routine ω ρ Unit} {choice : Choice}
      {d : Channel ω ρ} {events : List (Event ρ)}
      (hclose : c.closeStep a stage choice = some (d, events, .finished ())) :
    TaskMove c a (.close stage next) choice d events (.ready (next ()))
  /-- The channel has told that it is closing. -/
  | told {next : Unit → Routine ω ρ Unit} (hc : c.cancelled = true) :
    TaskMove c a (.awaitClosed next) .go c [] (.ready (next ()))
  | slept {time : ℕ} {next : Unit → Routine ω ρ Unit} (ht : time ≤ c.clock) :
    TaskMove c a (.sleep time next) .go c [] (.ready (next ()))
  | resume {next : Unit → Routine ω ρ Unit} :
    TaskMove c a (.pause next) .go c [] (.ready (next ()))

/-- The moves of a task are what a step of a task does. -/
theorem taskStep_iff {stage stage' : Stage ω ρ} :
    c.taskStep a stage choice = some (d, events, stage') ↔
      TaskMove c a stage choice d events stage' := by
  constructor
  · intro h
    unfold taskStep at h
    split at h
    · split_ifs at h with hgo
      cases h
      subst hgo
      exact .stop
    · split_ifs at h with hgo
      subst hgo
      rename_i op next
      have hmove : TaskMove c a (.ready (.ask op next)) .go _ _ _ := .ask
      rwa [Option.some.inj h] at hmove
    · obtain ⟨⟨e, events', progress⟩, hcall, heq⟩ := Option.map_eq_some_iff.mp h
      cases heq
      rcases progress with stage'' | result
      · exact .call hcall
      · exact .called hcall
    · obtain ⟨⟨e, events', progress⟩, hsend, heq⟩ := Option.map_eq_some_iff.mp h
      cases heq
      rcases progress with stage'' | result
      · exact .publish hsend
      · exact .published hsend
    · obtain ⟨⟨e, events', progress⟩, hsend, heq⟩ := Option.map_eq_some_iff.mp h
      cases heq
      split
      · exact .respond hsend
      · exact .replace hsend
      · rename_i hother
        exact .responded hsend fun e he => Bool.of_not_eq_false fun hlast => hother e hlast he
    · obtain ⟨progress, hwait, heq⟩ := Option.map_eq_some_iff.mp h
      cases heq
      rcases progress with stage'' | result
      · exact .wait hwait
      · exact .waited hwait
    · obtain ⟨⟨e, events', progress⟩, hclose, heq⟩ := Option.map_eq_some_iff.mp h
      cases heq
      rcases progress with stage'' | result
      · exact .close hclose
      · exact .closed hclose
    · split_ifs at h with hgo
      cases h
      obtain ⟨hc, rfl⟩ := hgo
      exact .told hc
    · split_ifs at h with hgo
      cases h
      obtain ⟨ht, rfl⟩ := hgo
      exact .slept ht
    · split_ifs at h with hgo
      cases h
      subst hgo
      exact .resume
    · cases h
    · cases h
  · intro h
    cases h with
    | stop => rfl
    | ask => rfl
    | responded hsend hlast =>
      simp only [taskStep, hsend, Option.map_some]
      split
      · rename_i heq
        cases heq
      · rename_i heq
        cases heq
        exact absurd (hlast _ rfl) Bool.false_ne_true
      · rfl
    | told hc => simp [taskStep, hc]
    | slept ht => simp [taskStep, ht]
    | resume => rfl
    | call hcall | called hcall => simp only [taskStep, hcall, Option.map_some]
    | publish hsend | published hsend | respond hsend | replace hsend =>
      simp only [taskStep, hsend, Option.map_some]
    | wait hwait | waited hwait => simp only [taskStep, hwait, Option.map_some]
    | close hclose | closed hclose => simp only [taskStep, hclose, Option.map_some]

/-! ## The reader and the heartbeat -/

/-- A move of the reader. -/
inductive ReaderMove (c : Channel ω ρ) : ReaderStage → Choice → Channel ω ρ → List (Event ρ) →
    ReaderStage → Prop
  /-- The stream has ended. -/
  | ended {incomplete : Frame.Partial} (hinbox : c.inbox = []) (hended : c.inboxEnded = true) :
    ReaderMove c (.read incomplete) .go c [] (.close .enter)
  /-- What has arrived is no frame. -/
  | stumble {incomplete : Frame.Partial} {e : FrameError} (hinbox : c.inbox ≠ [])
      (htake : takeFrame c.setup.frameLimit incomplete c.inbox = .error e) :
    ReaderMove c (.read incomplete) .go { c with inbox := [] } [] (.close .enter)
  /-- The next frame has not arrived as a whole. -/
  | read {incomplete incomplete' : Frame.Partial} {rest : Bytes} (hinbox : c.inbox ≠ [])
      (htake : takeFrame c.setup.frameLimit incomplete c.inbox = .ok (none, incomplete', rest)) :
    ReaderMove c (.read incomplete) .go { c with inbox := rest } [] (.read incomplete')
  | take {incomplete incomplete' : Frame.Partial} {frame : Frame} {rest : Bytes}
      (hinbox : c.inbox ≠ [])
      (htake : takeFrame c.setup.frameLimit incomplete c.inbox =
        .ok (some frame, incomplete', rest)) :
    ReaderMove c (.read incomplete) .go ({ c with inbox := rest }.dispatch frame) []
      (.read incomplete')
  /-- The channel is closing. -/
  | abandon {incomplete : Frame.Partial} (hc : c.cancelled = true) :
    ReaderMove c (.read incomplete) .abandon c [] (.close .enter)
  | close {stage stage' : CloseStage} {choice : Choice} {d : Channel ω ρ} {events : List (Event ρ)}
      (hclose : c.closeStep .reader stage choice = some (d, events, .more stage')) :
    ReaderMove c (.close stage) choice d events (.close stage')
  | closed {stage : CloseStage} {choice : Choice} {d : Channel ω ρ} {events : List (Event ρ)}
      (hclose : c.closeStep .reader stage choice = some (d, events, .finished ())) :
    ReaderMove c (.close stage) choice d events .stopped

/-- The moves of the reader are what a step of the reader does. -/
theorem readerStep_iff {stage stage' : ReaderStage} :
    c.readerStep stage choice = some (d, events, stage') ↔
      ReaderMove c stage choice d events stage' := by
  constructor
  · intro h
    unfold readerStep at h
    split at h
    · split_ifs at h with hinbox hended
      · cases h
        exact .ended hinbox hended
      · split at h
        · rename_i htake
          cases h
          exact .stumble hinbox htake
        · rename_i htake
          cases h
          exact .read hinbox htake
        · rename_i htake
          cases h
          exact .take hinbox htake
    · split_ifs at h with hc
      cases h
      exact .abandon hc
    · obtain ⟨⟨e, events', progress⟩, hclose, heq⟩ := Option.map_eq_some_iff.mp h
      cases heq
      rcases progress with stage'' | result
      · exact .close hclose
      · exact .closed hclose
    · cases h
  · intro h
    cases h with
    | ended hinbox hended => simp only [readerStep, hinbox, hended, if_true]
    | stumble hinbox htake | read hinbox htake | take hinbox htake =>
      simp only [readerStep, if_neg hinbox, htake]
    | abandon hc => simp only [readerStep, hc, if_true]
    | close hclose | closed hclose => simp only [readerStep, hclose, Option.map_some]

/-- A move of the heartbeat. -/
inductive HeartbeatMove (c : Channel ω ρ) : HeartbeatStage → Choice → Channel ω ρ →
    List (Event ρ) → HeartbeatStage → Prop
  | ping {next : ℕ} (ht : next ≤ c.clock) :
    HeartbeatMove c (.wait next) .go c [] (.send (.encode .ping) next)
  /-- The channel is closing. -/
  | abandon {next : ℕ} (hc : c.cancelled = true) :
    HeartbeatMove c (.wait next) .abandon c [] .stopped
  | send {stage stage' : SendStage} {time : ℕ} {choice : Choice} {d : Channel ω ρ}
      {events : List (Event ρ)}
      (hsend : c.sendStep .heartbeat stage choice = some (d, events, .more stage')) :
    HeartbeatMove c (.send stage time) choice d events (.send stage' time)
  /-- The ping is sent, or left out. -/
  | sent {stage : SendStage} {time : ℕ} {choice : Choice} {d : Channel ω ρ}
      {events : List (Event ρ)} {result : Except ChannelError Unit}
      (hsend : c.sendStep .heartbeat stage choice = some (d, events, .finished result)) :
    HeartbeatMove c (.send stage time) choice d events (.wait (time + d.setup.heartbeat))

/-- The moves of the heartbeat are what a step of the heartbeat does. -/
theorem heartbeatStep_iff {stage stage' : HeartbeatStage} :
    c.heartbeatStep stage choice = some (d, events, stage') ↔
      HeartbeatMove c stage choice d events stage' := by
  constructor
  · intro h
    unfold heartbeatStep at h
    split at h
    · split_ifs at h with ht
      cases h
      exact .ping ht
    · split_ifs at h with hc
      cases h
      exact .abandon hc
    · obtain ⟨⟨e, events', progress⟩, hsend, heq⟩ := Option.map_eq_some_iff.mp h
      cases heq
      rcases progress with stage'' | result
      · exact .send hsend
      · exact .sent hsend
    · cases h
  · intro h
    cases h with
    | ping ht => simp only [heartbeatStep, if_pos ht]
    | abandon hc => simp only [heartbeatStep, hc, if_true]
    | send hsend | sent hsend => simp only [heartbeatStep, hsend, Option.map_some]

/-! ## The channel -/

/-- A move of the channel. -/
inductive StepMove (c : Channel ω ρ) : Action ω ρ → Channel ω ρ → List (Event ρ) → Prop
  | reader {choice : Choice} {e : Channel ω ρ} {events : List (Event ρ)} {stage : ReaderStage}
      (hstep : c.readerStep c.reader choice = some (e, events, stage)) :
    StepMove c (.agent .reader choice) { e with reader := stage } events
  | heartbeat {choice : Choice} {e : Channel ω ρ} {events : List (Event ρ)}
      {stage : HeartbeatStage}
      (hstep : c.heartbeatStep c.heartbeat choice = some (e, events, stage)) :
    StepMove c (.agent .heartbeat choice) { e with heartbeat := stage } events
  | task {number : ℕ} {choice : Choice} {t : Task ω ρ} {e : Channel ω ρ}
      {events : List (Event ρ)} {stage : Stage ω ρ} (ht : c.tasks[number]? = some t)
      (hstep : c.taskStep (.task number) t.stage choice = some (e, events, stage)) :
    StepMove c (.agent (.task number) choice) (e.setStage number stage) events
  | deliver {bytes : Bytes} (hopen : c.inboxEnded = false) :
    StepMove c (.deliver bytes) { c with inbox := c.inbox ++ bytes } []
  | endInput : StepMove c .endInput { c with inboxEnded := true } []
  | start {routine : Routine ω ρ Unit} : StepMove c (.start routine) (c.spawn false routine) []
  | elapse {millis : ℕ} : StepMove c (.elapse millis) { c with clock := c.clock + millis } []

/-- The moves of the channel are what its actions do. -/
theorem step_iff {action : Action ω ρ} :
    c.step action = some (d, events) ↔ StepMove c action d events := by
  constructor
  · intro h
    cases action with
    | agent a choice =>
      cases a with
      | reader =>
        obtain ⟨⟨e, events', stage⟩, hstep, heq⟩ := Option.map_eq_some_iff.mp h
        cases heq
        exact .reader hstep
      | heartbeat =>
        obtain ⟨⟨e, events', stage⟩, hstep, heq⟩ := Option.map_eq_some_iff.mp h
        cases heq
        exact .heartbeat hstep
      | task number =>
        simp only [step, agentStep, stage?] at h
        rcases ht : c.tasks[number]? with _ | t
        · rw [ht] at h
          cases h
        simp only [ht, Option.map_some] at h
        obtain ⟨⟨e, events', stage⟩, hstep, heq⟩ := Option.map_eq_some_iff.mp h
        cases heq
        exact .task ht hstep
    | deliver bytes =>
      simp only [step] at h
      split_ifs at h with hended
      cases h
      exact .deliver ((Bool.not_eq_true _).mp hended)
    | endInput =>
      cases h
      exact .endInput
    | start routine =>
      cases h
      exact .start
    | elapse millis =>
      cases h
      exact .elapse
  · intro h
    cases h with
    | reader hstep | heartbeat hstep => simp only [step, agentStep, hstep, Option.map_some]
    | task ht hstep => simp only [step, agentStep, stage?, ht, hstep, Option.map_some]
    | deliver hopen => simp only [step, hopen, Bool.false_eq_true, if_false]
    | endInput | start | elapse => rfl

end CommandLink.Channel
