import CommandLink.Proofs.Channel.Alongside
import CommandLink.Proofs.Channel.Following
import CommandLink.Proofs.Channel.Returns

/-!
# Frames that are refused for their size

A call whose request is over the limit has been registered when that is found out, and is taken
back. Left alone it returns with the error in seven steps (`quietly_call`), and a property that is
over the limit in two (`quietly_publish`); these show nothing, and the channel is as before but for
the next identifier.

Whatever the others do in between, each step of a task that is being refused goes unnoticed by them
(`Unnoticed`), and the task hears of nothing but the refusal, or that the channel has closed
(`refused_in_any_order`).
-/

namespace CommandLink

variable {ω ρ : Type}

theorem Table.erase_insert {κ α : Type} [DecidableEq κ] (t : Table κ α) (key : κ) (value : α) :
    (t.insert key value).erase key = t.erase key := by
  obtain ⟨entries, hnodup⟩ := t
  have hput : (Table.put key value entries).filter (fun e => e.1 ≠ key) =
      entries.filter fun e => e.1 ≠ key := by
    clear hnodup
    induction entries with
    | nil => simp [Table.put]
    | cons e entries ih =>
      rw [Table.put]
      split
      next heq => simp [heq]
      next hne => rw [List.filter_cons, List.filter_cons, ih]
  simp only [Table.erase, Table.insert, hput]

theorem Table.erase_of_none {κ α : Type} [DecidableEq κ] {t : Table κ α} {key : κ}
    (h : t.get? key = none) : t.erase key = t := by
  have hkept : ∀ e ∈ t.entries, e.1 ≠ key := by
    rintro e he rfl
    have hmem : e.1 ∈ t.keys := List.mem_map_of_mem he
    rw [Table.mem_keys_iff, h] at hmem
    cases hmem
  obtain ⟨entries, hnodup⟩ := t
  have hfilter : entries.filter (fun e => e.1 ≠ key) = entries :=
    List.filter_eq_self.mpr fun e he => decide_eq_true (hkept e he)
  simp only [Table.erase, hfilter]

namespace Channel

variable {c d e : Channel ω ρ} {action : Action ω ρ} {actions : List (Action ω ρ)} {number : ℕ}
  {stage stage' : Stage ω ρ} {notes : List Note}

/-! ## Steps that show nothing -/

/-- A run shows nothing, and this is what it does to the calls and to the channel. -/
structure Quietly (c : Channel ω ρ) (actions : List (Action ω ρ)) (notes : List Note)
    (d : Channel ω ρ) : Prop where
  history : c.history actions = notes
  shown : c.shownIn actions = []
  after : c.after actions = d

theorem Quietly.nil : Quietly c [] [] c := ⟨rfl, rfl, rfl⟩

theorem Quietly.cons (hstep : c.step action = some (d, [])) (h : Quietly d actions notes e) :
    Quietly c (action :: actions) ((c.note? action).toList ++ notes) e := by
  refine ⟨?_, ?_, ?_⟩
  · rw [Channel.history, moments_cons_of_step hstep, List.filterMap_cons, Moment.note?, ← h.history]
    rcases c.note? action with _ | note <;> rfl
  · rw [shownIn, moments_cons_of_step hstep, List.flatMap_cons]
    exact h.shown
  · rw [after_cons_of_step hstep, h.after]

theorem setStage_setStage : (c.setStage number stage).setStage number stage' =
    c.setStage number stage' := by
  simp only [setStage, List.modify_modify_eq]
  rfl

/-- A task goes on as often as a number says. -/
def goOn (number steps : ℕ) : List (Action ω ρ) := List.replicate steps (.agent (.task number) .go)

section Call

variable {call : Call} {next : Except ChannelError Reply → Routine ω ρ Unit}

/-- A call takes a step that shows nothing, and goes on. -/
theorem Quietly.cons_call {stage : CallStage}
    {progress : Progress CallStage (Except ChannelError Reply)} (hlt : number < c.tasks.length)
    (hcall : (c.setStage number (.call stage next)).callStep (.task number) stage .go =
      some (d.setStage number (.call stage next), [], progress))
    (h : Quietly (d.setStage number (callNext next progress)) actions notes e) :
    Quietly (c.setStage number (.call stage next)) (.agent (.task number) .go :: actions)
      ((callNote? (.task number) stage progress).toList ++ notes) e := by
  have hs := stage?_setStage_self (c := c) (.call stage next) hlt
  have hstep : (c.setStage number (.call stage next)).step (.agent (.task number) .go) =
      some (d.setStage number (callNext next progress), []) := by
    rw [step_of_callStep hs hcall, setStage_setStage]
  have hnote : (c.setStage number (.call stage next)).note? (.agent (.task number) .go) =
      callNote? (.task number) stage progress := by
    simp only [note?, hs, hcall, Option.bind_some]
  rw [← hnote]
  exact .cons hstep h

/-- What is told about a frame over the limit. -/
def refusal (limit : ℕ) (frame : Frame) : ChannelError :=
  .protocol (.tooLarge frame.body.length limit)

theorem wire_of_large {limit : ℕ} {frame : Frame} (h : limit < frame.body.length) :
    frame.wire limit = .error (.tooLarge frame.body.length limit) := by
  rw [Frame.wire, Frame.encode, if_neg (Nat.not_le_of_lt h)]
  rfl

/-- A frame over the limit is refused. -/
theorem sendStep_of_large {a : Agent} {frame : Frame}
    (h : c.setup.frameLimit < frame.body.length) :
    c.sendStep a (.encode frame) .go =
      some (c, [], .finished (.error (refusal c.setup.frameLimit frame))) := by
  rw [sendStep, wire_of_large h]
  rfl

/-- **A refused call.** A call whose request is over the limit returns with the error. The channel is
as before but for the next identifier, under which nobody waits. -/
theorem quietly_call (hs : c.stage? number = some (.ready (.ask (.call call) next)))
    (hopen : c.closing = false)
    (hbig : c.setup.frameLimit < (Frame.request c.nextId call).body.length) :
    let refused := refusal c.setup.frameLimit (.request c.nextId call)
    Quietly c (goOn number 7)
      [.began (.task number) call, .drew (.task number) c.nextId,
        .registered (.task number) c.nextId, .completed (.task number) (.error refused)]
      { c.setStage number (.ready (next (.error refused))) with
        nextId := c.nextId + 1
        pending := c.pending.erase c.nextId
        arrived := c.arrived.erase (.task number) } := by
  intro refused
  have hlt := lt_of_stage? hs
  -- the channel when the call has an identifier, when it waits under it, and when it has given up
  let drawn : Channel ω ρ := { c with nextId := c.nextId + 1 }
  let waiting : Channel ω ρ := { drawn with
    pending := c.pending.insert c.nextId (.task number)
    arrived := c.arrived.erase (.task number) }
  let left : Channel ω ρ := { waiting with pending := c.pending.erase c.nextId }
  let calling (c : Channel ω ρ) (stage : CallStage) := c.setStage number (.call stage next)
  have hbegin : c.step (.agent (.task number) .go) = some (calling c (.check call), []) := by
    simp only [step, agentStep, hs, taskStep, if_true, begin, Option.map_some]
    rfl
  have hbegan : c.note? (.agent (.task number) .go) = some (.began (.task number) call) := by
    simp only [note?, hs]
  have hcheck : (calling c (.check call)).callStep (.task number) (.check call) .go =
      some (calling c (.check call), [], .more (.draw call)) :=
    if_neg (by simp [calling, setStage, hopen])
  have hrecheck : (calling waiting (.recheck c.nextId call)).callStep (.task number)
      (.recheck c.nextId call) .go = some (calling waiting (.recheck c.nextId call), [],
        .more (.send c.nextId (.encode (.request c.nextId call)))) :=
    if_neg (by simp [calling, setStage, waiting, drawn, hopen])
  have hencode : (calling waiting (.send c.nextId (.encode (.request c.nextId call)))).callStep
      (.task number) (.send c.nextId (.encode (.request c.nextId call))) .go =
      some (calling waiting (.send c.nextId (.encode (.request c.nextId call))), [],
        .more (.giveUp c.nextId refused)) := by
    have hsend := sendStep_of_large (a := .task number)
      (c := calling waiting (.send c.nextId (.encode (.request c.nextId call)))) hbig
    rw [callStep, hsend]
    rfl
  have hgiveUp : (calling waiting (.giveUp c.nextId refused)).callStep (.task number)
      (.giveUp c.nextId refused) .go =
      some (calling left (.giveUp c.nextId refused), [], .finished (.error refused)) := by
    simp only [refused, refusal, callStep, forget, calling, setStage, waiting, Table.erase_insert]
    rfl
  have h := Quietly.cons hbegin <| .cons_call hlt hcheck <| .cons_call (d := drawn) hlt rfl <|
    .cons_call (c := drawn) (d := waiting) hlt rfl <| .cons_call hlt hrecheck <|
    .cons_call hlt hencode <| .cons_call hlt hgiveUp .nil
  rw [hbegan] at h
  exact h

end Call

/-- **A refused property.** A property that is over the limit is not published: its task is told the
error, and nothing else has changed. -/
theorem quietly_publish {name : String} {value : Json}
    {next : Except ChannelError Unit → Routine ω ρ Unit}
    (hs : c.stage? number = some (.ready (.ask (.publish name value) next)))
    (hbig : c.setup.frameLimit < (Frame.property name value).body.length) :
    Quietly c (goOn number 2) []
      (c.setStage number
        (.ready (next (.error (refusal c.setup.frameLimit (.property name value)))))) := by
  have hbegin : c.step (.agent (.task number) .go) =
      some (c.setStage number (.publish (.encode (.property name value)) next), []) := by
    simp only [step, agentStep, hs, taskStep, if_true, begin, Option.map_some]
  have hbegan : c.note? (.agent (.task number) .go) = none := by
    simp only [note?, hs]
  have hs' := stage?_setStage_self (c := c) (.publish (.encode (.property name value)) next)
    (lt_of_stage? hs)
  have hrefused := sendStep_of_large (a := .task number)
    (c := c.setStage number (.publish (.encode (.property name value)) next)) hbig
  have hencode : (c.setStage number (.publish (.encode (.property name value)) next)).step
      (.agent (.task number) .go) = some (c.setStage number
        (.ready (next (.error (refusal c.setup.frameLimit (.property name value))))), []) := by
    simp only [step, agentStep, hs', taskStep, hrefused, Option.map_some, setStage_setStage]
    rfl
  have hnone : (c.setStage number (.publish (.encode (.property name value)) next)).note?
      (.agent (.task number) .go) = none := by
    simp only [note?, hs']
  have h := Quietly.cons hbegin (.cons hencode .nil)
  rw [hbegan, hnone] at h
  exact h

/-! ## Refused in any order -/

end Channel

/-- What a routine begins with sends a frame that is over the limit. -/
inductive Routine.Oversized (limit : ℕ) : Routine ω ρ Unit → Prop
  | call (call : Call) (next : Except ChannelError Reply → Routine ω ρ Unit)
    (h : ∀ id, limit < (Frame.request id call).body.length) :
    Routine.Oversized limit (.ask (.call call) next)
  | publish (name : String) (value : Json) (next : Except ChannelError Unit → Routine ω ρ Unit)
    (h : limit < (Frame.property name value).body.length) :
    Routine.Oversized limit (.ask (.publish name value) next)

/-- A call is being refused, with the identifier that it has drawn and the steps that are left. -/
inductive CallStage.Refused (limit : ℕ) (call : Call) : Option CallId → ℕ → CallStage → Prop
  | check : CallStage.Refused limit call none 6 (.check call)
  | draw : CallStage.Refused limit call none 5 (.draw call)
  | register (id : CallId) : CallStage.Refused limit call (some id) 4 (.register id call)
  | recheck (id : CallId) : CallStage.Refused limit call (some id) 3 (.recheck id call)
  | encode (id : CallId) :
    CallStage.Refused limit call (some id) 2 (.send id (.encode (.request id call)))
  | giveUp (id : CallId) :
    CallStage.Refused limit call (some id) 1 (.giveUp id (Channel.refusal limit (.request id call)))

/-- A task is being refused what its routine begins with, with the identifier that it has drawn and
the steps that are left. -/
inductive Stage.Refused (limit : ℕ) : Routine ω ρ Unit → Option CallId → ℕ → Stage ω ρ → Prop
  | beginCall (call : Call) (next : Except ChannelError Reply → Routine ω ρ Unit) :
    Stage.Refused limit (.ask (.call call) next) none 7 (.ready (.ask (.call call) next))
  | call {call : Call} {id? : Option CallId} {left : ℕ} {stage : CallStage}
    (h : stage.Refused limit call id? left) (next : Except ChannelError Reply → Routine ω ρ Unit) :
    Stage.Refused limit (.ask (.call call) next) id? left (.call stage next)
  | beginPublish (name : String) (value : Json)
    (next : Except ChannelError Unit → Routine ω ρ Unit) :
    Stage.Refused limit (.ask (.publish name value) next) none 2
      (.ready (.ask (.publish name value) next))
  | publish (name : String) (value : Json) (next : Except ChannelError Unit → Routine ω ρ Unit) :
    Stage.Refused limit (.ask (.publish name value) next) none 1
      (.publish (.encode (.property name value)) next)

/-- A call returns with the refusal of its request, or because the channel is closing. -/
inductive Call.Refusal (limit : ℕ) (closing : Bool) (call : Call) :
    Option CallId → Except ChannelError Reply → Prop
  | refused (id : CallId) : Call.Refusal limit closing call (some id)
      (.error (Channel.refusal limit (.request id call)))
  | closed (id? : Option CallId) (h : closing = true) :
    Call.Refusal limit closing call id? (.error .closed)

/-- A task hears that what its routine begins with has been refused, or that the channel is
closing. -/
inductive Heard.Refuses (limit : ℕ) (closing : Bool) :
    Routine ω ρ Unit → Option CallId → Heard ω → Prop
  | call {call : Call} {id? : Option CallId} {result : Except ChannelError Reply}
    (h : call.Refusal limit closing id? result)
    (next : Except ChannelError Reply → Routine ω ρ Unit) :
    Heard.Refuses limit closing (.ask (.call call) next) id? (.reply result)
  | publish (name : String) (value : Json) (next : Except ChannelError Unit → Routine ω ρ Unit) :
    Heard.Refuses limit closing (.ask (.publish name value) next) none
      (.sent (.error (Channel.refusal limit (.property name value))))

/-- The identifier that an agent draws. -/
def Note.drawnBy? (a : Agent) : Note → Option CallId
  | .drew b id => if b = a then some id else none
  | _ => none

namespace Channel

variable {c d : Channel ω ρ} {action : Action ω ρ} {actions : List (Action ω ρ)} {number : ℕ}
  {a : Agent} {id? : Option CallId} {choice : Choice} {events : List (Event ρ)}
  {routine : Routine ω ρ Unit}

/-- A step of an agent changes nothing for others, but for the next identifier, which it draws if it
has drawn none. -/
structure Unnoticed (a : Agent) (id? : Option CallId) (c d : Channel ω ρ) : Prop where
  same : d = { c with
    nextId := d.nextId, pending := d.pending, arrived := d.arrived, tasks := d.tasks }
  nextId : d.nextId = c.nextId ∨ id? = none ∧ d.nextId = c.nextId + 1
  pending : ∀ id, id? ≠ some id → d.pending.get? id = c.pending.get? id
  arrived : ∀ b, b ≠ a → d.arrived.get? b = c.arrived.get? b
  tasks : ∀ number, a ≠ .task number → d.tasks[number]? = c.tasks[number]?

theorem Unnoticed.refl (a : Agent) (id? : Option CallId) (c : Channel ω ρ) : Unnoticed a id? c c :=
  ⟨rfl, .inl rfl, fun _ _ => rfl, fun _ _ => rfl, fun _ _ => rfl⟩

theorem Unnoticed.forget (a : Agent) (id : CallId) (c : Channel ω ρ) :
    Unnoticed a (some id) c (c.forget id) :=
  ⟨rfl, .inl rfl, fun other hne => by
    rw [Channel.forget, Table.get?_erase, if_neg]
    rintro rfl
    exact hne rfl, fun _ _ => rfl, fun _ _ => rfl⟩

theorem Unnoticed.setStage (h : Unnoticed (.task number) id? c d) (stage : Stage ω ρ) :
    Unnoticed (.task number) id? c (d.setStage number stage) where
  same := by
    rw [h.same]
    rfl
  nextId := h.nextId
  pending := h.pending
  arrived := h.arrived
  tasks other hne := by
    have hne' : number ≠ other := fun heq => hne (congrArg Agent.task heq)
    rw [← h.tasks other hne]
    simp [Channel.setStage, hne']

/-- A call that is being refused goes on unnoticed. -/
theorem callStep_refused {call : Call} {stage : CallStage} {left : ℕ}
    {progress : Progress CallStage (Except ChannelError Reply)}
    (hbig : ∀ id, c.setup.frameLimit < (Frame.request id call).body.length)
    (hr : stage.Refused c.setup.frameLimit call id? left)
    (h : c.callStep a stage choice = some (d, events, progress)) :
    events = [] ∧ Unnoticed a id? c d ∧
      ((∃ stage' id'? left', progress = .more stage' ∧ left = left' + 1 ∧
          stage'.Refused c.setup.frameLimit call id'? left' ∧
          id'?.toList = id?.toList ++ ((callNote? a stage progress).bind (Note.drawnBy? a)).toList) ∨
        ∃ result, progress = .finished result ∧
          call.Refusal c.setup.frameLimit c.closing id? result ∧
          ∀ id, id? = some id → d.pending.get? id = none) := by
  cases hr with
  | check =>
    cases callStep_iff.mp h with
    | refuse hclosing =>
      exact ⟨rfl, .refl a _ c, .inr ⟨_, rfl, .closed _ hclosing, fun id hid => by cases hid⟩⟩
    | check => exact ⟨rfl, .refl a _ c, .inl ⟨_, none, _, rfl, rfl, .draw, rfl⟩⟩
  | draw =>
    cases callStep_iff.mp h with
    | draw =>
      refine ⟨rfl, ⟨rfl, .inr ⟨rfl, rfl⟩, fun _ _ => rfl, fun _ _ => rfl, fun _ _ => rfl⟩,
        .inl ⟨_, some c.nextId, _, rfl, rfl, .register _, ?_⟩⟩
      simp [callNote?, Note.drawnBy?]
  | register id =>
    cases callStep_iff.mp h with
    | register =>
      refine ⟨rfl, ⟨rfl, .inl rfl, fun other hne => ?_, fun b hb => ?_, fun _ _ => rfl⟩,
        .inl ⟨_, some id, _, rfl, rfl, .recheck id, rfl⟩⟩
      · rw [Table.get?_insert, if_neg]
        rintro rfl
        exact hne rfl
      · rw [Table.get?_erase, if_neg hb]
  | recheck id =>
    cases callStep_iff.mp h with
    | withdraw hclosing =>
      refine ⟨rfl, .forget a id c, .inr ⟨_, rfl, .closed _ hclosing, ?_⟩⟩
      rintro _ ⟨⟩
      simp [Channel.forget]
    | recheck => exact ⟨rfl, .refl a _ c, .inl ⟨_, some id, _, rfl, rfl, .encode id, rfl⟩⟩
  | encode id =>
    have hwire := wire_of_large (hbig id)
    cases callStep_iff.mp h with
    | send hsend =>
      cases sendStep_iff.mp hsend with
      | join hsent =>
        rw [hwire] at hsent
        cases hsent
    | sent hsend => cases sendStep_iff.mp hsend
    | unsent hsend =>
      cases sendStep_iff.mp hsend with
      | refuse hrefused =>
        rw [hwire] at hrefused
        cases hrefused
        exact ⟨rfl, .refl a _ c, .inl ⟨_, some id, _, rfl, rfl, .giveUp id, rfl⟩⟩
      | fail hencode | abandon hencode => exact absurd rfl (hencode _)
  | giveUp id =>
    cases callStep_iff.mp h with
    | giveUp =>
      refine ⟨rfl, .forget a id c, .inr ⟨_, rfl, .refused id, ?_⟩⟩
      rintro _ ⟨⟩
      simp [Channel.forget]

/-- A call that is being refused can go on. -/
theorem isSome_callStep_of_refused {call : Call} {stage : CallStage} {left : ℕ}
    (hbig : ∀ id, c.setup.frameLimit < (Frame.request id call).body.length)
    (hr : stage.Refused c.setup.frameLimit call id? left) : (c.callStep a stage .go).isSome := by
  cases hr with
  | check =>
    rw [callStep]
    split <;> rfl
  | recheck =>
    rw [callStep]
    split <;> rfl
  | encode id =>
    rw [callStep, sendStep_of_large (hbig id)]
    rfl
  | _ => rfl

/-- What a step of a task does that is being refused: it shows nothing, nobody notices it, and the
task hears of nothing but the refusal, after which none of its calls waits. -/
structure Refusing (number : ℕ) (routine : Routine ω ρ Unit) (id? : Option CallId)
    (c : Channel ω ρ) (action : Action ω ρ) (d : Channel ω ρ) (events : List (Event ρ)) : Prop where
  silent : events = []
  unsent : c.letter? action = none
  unnoticed : Unnoticed (.task number) id? c d
  hears : ∀ x, c.heard? number action = some x →
    x.Refuses c.setup.frameLimit c.closing routine id? ∧
      ∀ id, id? = some id → d.pending.get? id = none

/-- A task is being refused what its routine begins with; it has drawn these identifiers and has
some steps left. -/
def IsRefused (limit number : ℕ) (routine : Routine ω ρ Unit) (drawn : List CallId) (left : ℕ)
    (c : Channel ω ρ) : Prop :=
  ∃ stage id?, c.stage? number = some stage ∧ stage.Refused limit routine id? left ∧
    id?.toList = drawn

/-- What a step of a task does that is being refused: the task hears of it, or is still being refused
with one step less to go. -/
structure RefusalStep (number : ℕ) (routine : Routine ω ρ Unit) (id? : Option CallId) (left : ℕ)
    (c : Channel ω ρ) (action : Action ω ρ) (d : Channel ω ρ) (events : List (Event ρ)) : Prop where
  refusing : Refusing number routine id? c action d events
  remains : c.heard? number action = none → ∃ left', left = left' + 1 ∧
    d.IsRefused c.setup.frameLimit number routine
      (id?.toList ++ ((c.note? action).bind (Note.drawnBy? (.task number))).toList) left'

section Steps

variable {stage stage' : Stage ω ρ} {left : ℕ}

/-- The frame of a task that is being refused does not join the line. -/
theorem letter?_of_refused (hbig : routine.Oversized c.setup.frameLimit)
    (hs : c.stage? number = some stage) (hr : stage.Refused c.setup.frameLimit routine id? left) :
    c.letter? (.agent (.task number) choice) = none := by
  cases choice with
  | go =>
    simp only [letter?, sending?, hs, Option.bind_some]
    cases hr with
    | call hr next =>
      cases hbig with
      | call _ _ hbig =>
        cases hr with
        | encode id => simp only [Stage.sending?, CallStage.sending?, wire_of_large (hbig id)]
        | _ => rfl
    | publish name value next =>
      cases hbig with
      | publish _ _ _ hbig => simp only [Stage.sending?, wire_of_large hbig]
    | _ => rfl
  | _ => rfl

/-- A task that begins with what it is refused. -/
theorem refusalStep_of_begin {op : Op ω ρ} {next : op.Answer → Routine ω ρ Unit}
    (hs : c.stage? number = some (.ready (.ask op next)))
    (hunsent : c.letter? (.agent (.task number) choice) = none)
    (hbegin : c.begin op next = (c, [], stage'))
    (hunheard : c.heard? number (.agent (.task number) choice) = none)
    (hundrawn : (c.note? (.agent (.task number) choice)).bind (Note.drawnBy? (.task number)) = none)
    (hr : stage'.Refused c.setup.frameLimit (.ask op next) none left)
    (h : c.step (.agent (.task number) choice) = some (d, events)) :
    RefusalStep number (.ask op next) none (left + 1) c (.agent (.task number) choice) d events := by
  obtain ⟨e, stage'', ht, rfl, hd⟩ := step_of_stage? hs h
  simp only [taskStep] at ht
  split_ifs at ht
  rw [hbegin] at ht
  cases ht
  refine ⟨⟨rfl, hunsent, (Unnoticed.refl _ _ c).setStage _, fun x hx => ?_⟩,
    fun _ => ⟨left, rfl, ?_⟩⟩
  · rw [hunheard] at hx
    cases hx
  · rw [hundrawn]
    exact ⟨_, none, hd, hr, rfl⟩

/-- A task whose call is being refused. -/
theorem refusalStep_of_call {call : Call} {next : Except ChannelError Reply → Routine ω ρ Unit}
    {stage : CallStage} (hbig : ∀ id, c.setup.frameLimit < (Frame.request id call).body.length)
    (hs : c.stage? number = some (.call stage next))
    (hunsent : c.letter? (.agent (.task number) choice) = none)
    (hr : stage.Refused c.setup.frameLimit call id? left)
    (h : c.step (.agent (.task number) choice) = some (d, events)) :
    RefusalStep number (.ask (.call call) next) id? left c (.agent (.task number) choice) d
      events := by
  obtain ⟨e, progress, hcall, rfl, hd, hnote⟩ := step_call hs h
  obtain ⟨rfl, hunnoticed, hgoes⟩ := callStep_refused hbig hr hcall
  have hheard : c.heard? number (.agent (.task number) choice) =
      progress.result?.map Heard.reply := by
    simp only [heard?, if_true, hs, Option.bind_some, stageHeard?, hcall]
  refine ⟨⟨rfl, hunsent, hunnoticed.setStage _, fun x hx => ?_⟩, fun hnone => ?_⟩
  · rw [hheard] at hx
    rcases hgoes with ⟨stage', id'?, left', rfl, -⟩ | ⟨result, rfl, hrefusal, hgone⟩
    · cases hx
    · cases hx
      exact ⟨.call hrefusal next, hgone⟩
  · rw [hheard] at hnone
    rcases hgoes with ⟨stage', id'?, left', rfl, rfl, hr', hdrawn⟩ | ⟨result, rfl, -⟩
    · exact ⟨left', rfl, _, id'?, hd, .call hr' next, hnote ▸ hdrawn⟩
    · cases hnone

/-- A task whose property is being refused. -/
theorem refusalStep_of_publish {name : String} {value : Json}
    {next : Except ChannelError Unit → Routine ω ρ Unit}
    (hbig : c.setup.frameLimit < (Frame.property name value).body.length)
    (hs : c.stage? number = some (.publish (.encode (.property name value)) next))
    (hunsent : c.letter? (.agent (.task number) choice) = none)
    (h : c.step (.agent (.task number) choice) = some (d, events)) :
    RefusalStep number (.ask (.publish name value) next) none 1 c (.agent (.task number) choice) d
      events := by
  obtain ⟨e, stage', ht, rfl, hd⟩ := step_of_stage? hs h
  obtain ⟨⟨e', events', progress⟩, hsend, heq⟩ := Option.map_eq_some_iff.mp ht
  cases heq
  cases choice with
  | go =>
    have hheard : c.heard? number (.agent (.task number) .go) =
        some (.sent (.error (refusal c.setup.frameLimit (.property name value)))) := by
      simp only [heard?, if_true, hs, Option.bind_some, stageHeard?, sendStep_of_large hbig]
      rfl
    rw [sendStep_of_large hbig] at hsend
    cases hsend
    refine ⟨⟨rfl, hunsent, (Unnoticed.refl _ _ c).setStage _, fun x hx => ?_⟩, fun hnone => ?_⟩
    · rw [hheard] at hx
      cases hx
      exact ⟨.publish name value next, fun id hid => by cases hid⟩
    · rw [hheard] at hnone
      cases hnone
  | _ => cases hsend

/-- A task that is being refused goes on with that. -/
theorem refusalStep_of_refused (hbig : routine.Oversized c.setup.frameLimit)
    (hs : c.stage? number = some stage) (hr : stage.Refused c.setup.frameLimit routine id? left)
    (h : c.step (.agent (.task number) choice) = some (d, events)) :
    RefusalStep number routine id? left c (.agent (.task number) choice) d events := by
  have hunsent : c.letter? (.agent (.task number) choice) = none := letter?_of_refused hbig hs hr
  cases hr with
  | beginCall call next =>
    exact refusalStep_of_begin hs hunsent rfl (by simp [heard?, hs, stageHeard?])
      (by simp [note?, hs, Note.drawnBy?]) (.call .check next) h
  | beginPublish name value next =>
    exact refusalStep_of_begin hs hunsent rfl (by simp [heard?, hs, stageHeard?])
      (by simp [note?, hs]) (.publish name value next) h
  | call hr next =>
    cases hbig with
    | call _ _ hbig => exact refusalStep_of_call hbig hs hunsent hr h
  | publish name value next =>
    cases hbig with
    | publish _ _ _ hbig => exact refusalStep_of_publish hbig hs hunsent h

end Steps

/-- A task that is being refused can go on. -/
theorem isSome_step_of_refused {drawn : List CallId} {left : ℕ}
    (hbig : routine.Oversized c.setup.frameLimit)
    (hr : c.IsRefused c.setup.frameLimit number routine drawn left) :
    (c.step (.agent (.task number) .go)).isSome := by
  obtain ⟨stage, id?, hs, hr, -⟩ := hr
  simp only [step, agentStep, hs, Option.isSome_map]
  cases hr with
  | beginCall call next => rfl
  | beginPublish name value next => rfl
  | call hr next =>
    cases hbig with
    | call _ _ hbig =>
      simpa only [taskStep, Option.isSome_map] using isSome_callStep_of_refused hbig hr
  | publish name value next =>
    cases hbig with
    | publish _ _ _ hbig =>
      rw [taskStep, sendStep_of_large hbig]
      rfl

/-- The identifiers that the calls of an agent have drawn in a run. -/
def drawnBy (a : Agent) (past : List (Moment ω ρ)) : List CallId :=
  (past.filterMap Moment.note?).filterMap (Note.drawnBy? a)

/-- How often an agent has acted in a run. -/
def turnsOf (a : Agent) (past : List (Moment ω ρ)) : ℕ := past.countP (·.action.agent? = some a)

/-- Those who do not act draw no identifier. -/
theorem drawnBy?_eq_none (ha : action.agent? ≠ some a) :
    (c.note? action).bind (Note.drawnBy? a) = none := by
  rw [Option.bind_eq_none_iff]
  intro note hnote
  unfold Note.drawnBy?
  split
  · split_ifs with hb
    · subst hb
      obtain ⟨choice, rfl, -⟩ := draws_of_note? hnote
      exact absurd rfl ha
    · rfl
  · rfl

theorem drawnBy_concat (past : List (Moment ω ρ)) (m : Moment ω ρ) :
    drawnBy a (past ++ [m]) = drawnBy a past ++ (m.note?.bind (Note.drawnBy? a)).toList := by
  rw [drawnBy, filterMap_concat, List.filterMap_append, drawnBy]
  rcases m.note? with _ | note
  · rfl
  · rw [Option.toList_some, Option.bind_some, List.filterMap_cons, List.filterMap_nil]
    cases Note.drawnBy? a note <;> rfl

/-- The steps that it takes to be refused what a routine begins with. -/
def refusalSteps : Routine ω ρ Unit → ℕ
  | .ask (.call _) _ => 7
  | .ask (.publish _ _) _ => 2
  | _ => 0

/-- A task that has not heard of its refusal yet is still being refused, or has been ended. -/
theorem isRefused_or_done (hs : c.stage? number = some (.ready routine))
    (hbig : routine.Oversized c.setup.frameLimit) (actions : List (Action ω ρ))
    (hunheard : c.heard actions number = []) :
    (c.after actions).stage? number = some .done ∨
      ∃ left, left + turnsOf (.task number) (c.moments actions) = refusalSteps routine ∧
        (c.after actions).IsRefused c.setup.frameLimit number routine
          (drawnBy (.task number) (c.moments actions)) left := by
  refine (run_induction (P := fun past d => d.setup = c.setup ∧
    (past.filterMap (Moment.heard? number) = [] → d.stage? number = some .done ∨
      ∃ left, left + turnsOf (.task number) past = refusalSteps routine ∧
        d.IsRefused c.setup.frameLimit number routine (drawnBy (.task number) past) left))
    c ⟨rfl, fun _ => .inr ?_⟩ ?_ actions).2 hunheard
  · cases hbig with
    | call call next => exact ⟨7, rfl, _, none, hs, .beginCall call next, rfl⟩
    | publish name value next => exact ⟨2, rfl, _, none, hs, .beginPublish name value next, rfl⟩
  rintro past d action e events ⟨hsetup, ih⟩ hstep
  have hothers := step_others hstep
  refine ⟨hothers.setup.trans hsetup, fun hheard => ?_⟩
  rw [filterMap_concat, List.append_eq_nil_iff] at hheard
  rw [drawnBy_concat, turnsOf, List.countP_append, List.countP_singleton]
  rcases ih hheard.1 with hdone | ⟨left, hleft, stage, id?, hstage, hr, hdrawn⟩
  · by_cases ha : action.agent? = some (.task number)
    · obtain ⟨choice, rfl⟩ := exists_choice_of_agent? ha
      obtain ⟨_, _, hnone, -⟩ := step_of_stage? hdone hstep
      cases hnone
    · exact .inl (or_self_iff.mp (hothers.stage hdone rfl ha))
  by_cases ha : action.agent? = some (.task number)
  · obtain ⟨choice, rfl⟩ := exists_choice_of_agent? ha
    rw [← hsetup] at hbig hr
    obtain ⟨left', rfl, hremains⟩ :=
      (refusalStep_of_refused hbig hstage hr hstep).remains (Option.toList_eq_nil_iff.mp hheard.2)
    rw [hsetup, hdrawn] at hremains
    refine .inr ⟨left', ?_, hremains⟩
    rw [← hleft, turnsOf, if_pos (decide_eq_true ha)]
    omega
  · rw [show Moment.note? _ = d.note? action from rfl, drawnBy?_eq_none ha, Option.toList_none,
      List.append_nil, if_neg (by simpa using ha)]
    have hwake : Channel.Stage.wake stage = stage := by cases hr <;> rfl
    rcases hothers.stage hstage hwake ha with hkept | hended
    · exact .inr ⟨left, hleft, stage, id?, hkept, hr, hdrawn⟩
    · exact .inl hended

/-- **Refused in any order.** A task is being refused what its routine begins with, and the others
do whatever they do. Then until it hears of it, it has taken fewer steps than a refusal takes and can
take the next one, if it has not been ended with the channel. None of its steps shows anything or is
noticed by the others, and it hears of nothing but the refusal. -/
theorem refused_in_any_order (hs : c.stage? number = some (.ready routine))
    (hbig : routine.Oversized c.setup.frameLimit) (actions : List (Action ω ρ)) :
    (c.heard actions number = [] → (c.after actions).stage? number = some .done ∨
      turnsOf (.task number) (c.moments actions) < refusalSteps routine ∧
        ((c.after actions).step (.agent (.task number) .go)).isSome) ∧
    ∀ before m later, c.moments actions = before ++ m :: later →
      before.filterMap (Moment.heard? number) = [] → m.action.agent? = some (.task number) →
      ∃ id?, id?.toList = drawnBy (.task number) before ∧
        Refusing number routine id? m.before m.action m.after m.events := by
  constructor
  · intro hunheard
    refine (isRefused_or_done hs hbig actions hunheard).imp_right ?_
    rintro ⟨left, hleft, hrefused⟩
    have hpos : 0 < left := by
      obtain ⟨stage, id?, -, hr, -⟩ := hrefused
      cases hr with
      | call h => cases h <;> simp
      | _ => simp
    have hsetup := setup_after c actions
    rw [← hsetup] at hbig hrefused
    exact ⟨by omega, isSome_step_of_refused hbig hrefused⟩
  · intro before m later hm hunheard hown
    have hmem : m ∈ c.moments actions := by
      rw [hm]
      simp
    have hstep := c.step_of_mem_moments hmem
    obtain ⟨first, rest, rfl, rfl, hfirst⟩ := c.split_of_moments hm
    have hsetup : m.before.setup = c.setup := hfirst ▸ setup_after c first
    obtain ⟨choice, haction⟩ := exists_choice_of_agent? hown
    rw [haction] at hstep ⊢
    rcases isRefused_or_done hs hbig first hunheard with
      hdone | ⟨_, -, stage, id?, hstage, hr, hdrawn⟩
    · rw [hfirst] at hdone
      obtain ⟨_, _, hnone, -⟩ := step_of_stage? hdone hstep
      cases hnone
    · rw [hfirst] at hstage
      rw [← hsetup] at hbig hr
      exact ⟨id?, hdrawn, (refusalStep_of_refused hbig hstage hr hstep).refusing⟩

end Channel

end CommandLink
