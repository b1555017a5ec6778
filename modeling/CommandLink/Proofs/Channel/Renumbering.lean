import CommandLink.Proofs.Channel.Mail
import Mathlib.Data.List.Forall2

/-!
# Channels that differ in the identifiers of their calls

Two channels are `Alike` if everything is the same in them but the identifiers of their own calls,
which correspond to each other. What belongs to the identifiers may differ as well: the bytes of
requests on their way out, the bytes of responses on their way in, and results that nobody waits for.

A step of one channel and the corresponding step of the other leave them alike (`Alike.step`): that
is shown for sending, closing, calling, waiting, for a task, the reader and the heartbeat, in this
order. Corresponding are two steps of one agent which encode frames of the same fate, come to the end
of their bytes together, take corresponding frames from the other end and draw corresponding
identifiers (`AgentsAlike`).
-/

namespace CommandLink

variable {ω ρ : Type}

/-! ## Other identifiers -/

/-- Other identifiers for calls, and how far the next identifier is ahead. -/
structure Renumbering where
  toFun : CallId → CallId
  injective : Function.Injective toFun
  ahead : CallId

instance : CoeFun Renumbering fun _ => CallId → CallId := ⟨Renumbering.toFun⟩

instance : Coe Renumbering (CallId → CallId) := ⟨Renumbering.toFun⟩

/-- A frame of this end under another identifier of its call. -/
def Frame.renameRequest (f : CallId → CallId) : Frame → Frame
  | .request id call => .request (f id) call
  | frame => frame

/-- A frame of the other end under another identifier of the call that it answers. -/
def Frame.renameResponse (f : CallId → CallId) : Frame → Frame
  | .response id result => .response (f id) result
  | frame => frame

section Corresponding

variable (f : CallId → CallId)

/-- Two frames on their way out have come equally far. -/
inductive SendStage.Alike : SendStage → SendStage → Prop
  | encode (frame : Frame) : SendStage.Alike (.encode (frame.renameRequest f)) (.encode frame)
  | queued (bytes₁ bytes₂ : Bytes) : SendStage.Alike (.queued bytes₁) (.queued bytes₂)
  | write (rest₁ rest₂ : Bytes) : SendStage.Alike (.write rest₁) (.write rest₂)
  | flush : SendStage.Alike .flush .flush

/-- Closing that fails calls under other identifiers. -/
def CloseStage.rename (f : CallId → CallId) : CloseStage → CloseStage
  | .drain ids => .drain (ids.map f)
  | stage => stage

/-- Two calls have come equally far. -/
inductive CallStage.Alike : CallStage → CallStage → Prop
  | check (call : Call) : CallStage.Alike (.check call) (.check call)
  | draw (call : Call) : CallStage.Alike (.draw call) (.draw call)
  | register (id : CallId) (call : Call) :
    CallStage.Alike (.register (f id) call) (.register id call)
  | recheck (id : CallId) (call : Call) : CallStage.Alike (.recheck (f id) call) (.recheck id call)
  | send (id : CallId) {stage₁ stage₂ : SendStage} (h : stage₁.Alike f stage₂) :
    CallStage.Alike (.send (f id) stage₁) (.send id stage₂)
  | giveUp (id : CallId) (e : ChannelError) : CallStage.Alike (.giveUp (f id) e) (.giveUp id e)
  | shut (e : ChannelError) (stage : CloseStage) :
    CallStage.Alike (.shut e (stage.rename f)) (.shut e stage)
  | await (id : CallId) : CallStage.Alike (.await (f id)) (.await id)

/-- Two tasks have come equally far with the same routine. -/
inductive Stage.Alike : Stage ω ρ → Stage ω ρ → Prop
  | ready (routine : Routine ω ρ Unit) : Stage.Alike (.ready routine) (.ready routine)
  | call {stage₁ stage₂ : CallStage} (h : stage₁.Alike f stage₂)
    (next : Except ChannelError Reply → Routine ω ρ Unit) :
    Stage.Alike (.call stage₁ next) (.call stage₂ next)
  | publish {stage₁ stage₂ : SendStage} (h : stage₁.Alike f stage₂)
    (next : Except ChannelError Unit → Routine ω ρ Unit) :
    Stage.Alike (.publish stage₁ next) (.publish stage₂ next)
  | respond (id : CallId) (last : Bool) {stage₁ stage₂ : SendStage} (h : stage₁.Alike f stage₂)
    (next : Unit → Routine ω ρ Unit) :
    Stage.Alike (.respond id last stage₁ next) (.respond id last stage₂ next)
  | wait (name : String) (deadline : Option ℕ) (stage : WaitStage)
    (next : Option (Except ChannelError Json) → Routine ω ρ Unit) :
    Stage.Alike (.wait name deadline stage next) (.wait name deadline stage next)
  | close (stage : CloseStage) (next : Unit → Routine ω ρ Unit) :
    Stage.Alike (.close (stage.rename f) next) (.close stage next)
  | awaitClosed (next : Unit → Routine ω ρ Unit) :
    Stage.Alike (.awaitClosed next) (.awaitClosed next)
  | sleep (time : ℕ) (next : Unit → Routine ω ρ Unit) :
    Stage.Alike (.sleep time next) (.sleep time next)
  | pause (next : Unit → Routine ω ρ Unit) : Stage.Alike (.pause next) (.pause next)
  | hang : Stage.Alike .hang .hang
  | done : Stage.Alike .done .done

/-- Two tasks are alike. -/
structure Task.Alike (t₁ t₂ : Task ω ρ) : Prop where
  background : t₁.background = t₂.background
  stage : Stage.Alike f t₁.stage t₂.stage

/-- Two readers have come equally far; what they have of the next frame may differ. -/
inductive ReaderStage.Alike : ReaderStage → ReaderStage → Prop
  | read (incomplete₁ incomplete₂ : Frame.Partial) :
    ReaderStage.Alike (.read incomplete₁) (.read incomplete₂)
  | close (stage : CloseStage) : ReaderStage.Alike (.close (stage.rename f)) (.close stage)
  | stopped : ReaderStage.Alike .stopped .stopped

/-- Two heartbeats have come equally far. -/
inductive HeartbeatStage.Alike : HeartbeatStage → HeartbeatStage → Prop
  | wait (next : ℕ) : HeartbeatStage.Alike (.wait next) (.wait next)
  | send {stage₁ stage₂ : SendStage} (h : stage₁.Alike f stage₂) (time : ℕ) :
    HeartbeatStage.Alike (.send stage₁ time) (.send stage₂ time)
  | stopped : HeartbeatStage.Alike .stopped .stopped

/-- Two choices are the same, but for how many bytes are written. -/
inductive Choice.Alike : Choice → Choice → Prop
  | same (choice : Choice) : Choice.Alike choice choice
  | write {count₁ count₂ : ℕ} (h : count₁ = 0 ↔ count₂ = 0) :
    Choice.Alike (.write count₁) (.write count₂)

/-- Two choices that are alike are both to go on, or neither is. -/
theorem Choice.Alike.go_or_ne {choice₁ choice₂ : Choice} (h : choice₁.Alike choice₂) :
    choice₁ = .go ∧ choice₂ = .go ∨ choice₁ ≠ .go ∧ choice₂ ≠ .go := by
  cases h with
  | write => exact .inr ⟨by simp, by simp⟩
  | same =>
    by_cases hgo : choice₁ = .go
    · exact .inl ⟨hgo, hgo⟩
    · exact .inr ⟨hgo, hgo⟩

/-- Two events show the same, but for the bytes that are written. -/
inductive Event.Alike : Event ρ → Event ρ → Prop
  | wrote (bytes₁ bytes₂ : Bytes) : Event.Alike (.wrote bytes₁) (.wrote bytes₂)
  | same (event : Event ρ) : Event.Alike event event

/-- Two tables hold the same entries under corresponding identifiers, in the same order. -/
def Table.Renamed {α : Type} (t₁ t₂ : Table CallId α) : Prop :=
  t₁.entries = t₂.entries.map fun e => (f e.1, e.2)

end Corresponding

variable (r : Renumbering)

/-- Two channels differ in the identifiers of their calls and what comes of that. -/
structure Channel.Alike (c₁ c₂ : Channel ω ρ) : Prop where
  setup : c₁.setup = c₂.setup
  world : c₁.world = c₂.world
  clock : c₁.clock = c₂.clock
  nextId : c₁.nextId = c₂.nextId + r.ahead
  pending : c₁.pending.Renamed r c₂.pending
  /-- Results that nobody waits for may differ. -/
  arrived : ∀ a id failure, c₂.standing a = .waiting id failure →
    c₁.arrived.get? a = c₂.arrived.get? a
  properties : c₁.properties = c₂.properties
  closing : c₁.closing = c₂.closing
  cancelled : c₁.cancelled = c₂.cancelled
  writer : c₁.writer = c₂.writer
  guarded : c₁.guarded = c₂.guarded
  inboxEnded : c₁.inboxEnded = c₂.inboxEnded
  reader : c₁.reader.Alike r c₂.reader
  heartbeat : c₁.heartbeat.Alike r c₂.heartbeat
  tasks : List.Forall₂ (Task.Alike r) c₁.tasks c₂.tasks

variable {r}

/-! ## Tables -/

namespace Table.Renamed

variable {α : Type} {t₁ t₂ : Table CallId α}

theorem get? (h : t₁.Renamed r t₂) (id : CallId) : t₁.get? (r id) = t₂.get? id := by
  have hkey : (fun e : CallId × α => decide ((r e.1, e.2).1 = r id)) =
      fun e => decide (e.1 = id) := by
    funext e
    simp only [r.injective.eq_iff]
  rw [Table.get?, Table.get?, Table.lookup, Table.lookup, h, List.find?_map, Option.map_map]
  exact congrArg (fun p => (t₂.entries.find? p).map Prod.snd) hkey

theorem keys (h : t₁.Renamed r t₂) : t₁.keys = t₂.keys.map r := by
  rw [Table.keys, Table.keys, h, List.map_map, List.map_map]
  rfl

theorem insert (h : t₁.Renamed r t₂) (id : CallId) (value : α) :
    (t₁.insert (r id) value).Renamed r (t₂.insert id value) := by
  have hput : ∀ entries : List (CallId × α),
      Table.put (r id) value (entries.map fun e => (r e.1, e.2)) =
        (Table.put id value entries).map fun e => (r e.1, e.2) := by
    intro entries
    induction entries with
    | nil => rfl
    | cons e entries ih =>
      simp only [List.map_cons, Table.put, r.injective.eq_iff, ih]
      split <;> rfl
  exact (congrArg (Table.put (r id) value) h).trans (hput _)

theorem erase (h : t₁.Renamed r t₂) (id : CallId) :
    (t₁.erase (r id)).Renamed r (t₂.erase id) := by
  have hkey : ((fun e : CallId × α => decide (e.1 ≠ r id)) ∘ fun e : CallId × α => (r e.1, e.2)) =
      fun e => decide (e.1 ≠ id) := by
    funext e
    simp only [Function.comp_apply, ne_eq, r.injective.eq_iff]
  change t₁.entries.filter _ = (t₂.entries.filter _).map _
  rw [h, List.filter_map, hkey]

end Table.Renamed

/-! ## Tasks -/

theorem Stage.Alike.wake {stage₁ stage₂ : Stage ω ρ} (h : Stage.Alike r stage₁ stage₂) :
    Stage.Alike r (Channel.Stage.wake stage₁) (Channel.Stage.wake stage₂) := by
  cases h with
  | wait name deadline stage next => exact .wait name deadline stage.wake next
  | ready routine => exact .ready routine
  | call h next => exact .call h next
  | publish h next => exact .publish h next
  | respond id last h next => exact .respond id last h next
  | close stage next => exact .close stage next
  | awaitClosed next => exact .awaitClosed next
  | sleep time next => exact .sleep time next
  | pause next => exact .pause next
  | hang => exact .hang
  | done => exact .done

namespace Channel

variable {c₁ c₂ d₁ d₂ : Channel ω ρ} {a : Agent} {number : ℕ}

theorem Alike.stage? (h : c₁.Alike r c₂) (number : ℕ) :
    Option.Rel (Stage.Alike r) (c₁.stage? number) (c₂.stage? number) := by
  obtain ⟨hlength, hget⟩ := List.forall₂_iff_get.mp h.tasks
  by_cases hlt : number < c₁.tasks.length
  · have hlt' := hlength ▸ hlt
    rw [Channel.stage?, Channel.stage?, List.getElem?_eq_getElem hlt, List.getElem?_eq_getElem hlt']
    exact .some (hget number hlt hlt').stage
  · have hlt' := hlength ▸ hlt
    rw [Channel.stage?, Channel.stage?, List.getElem?_eq_none (Nat.le_of_not_lt hlt),
      List.getElem?_eq_none (Nat.le_of_not_lt hlt')]
    exact .none

theorem forall₂_modify {α β : Type} {R : α → β → Prop} {f : α → α} {g : β → β}
    (hfg : ∀ a b, R a b → R (f a) (g b)) {as : List α} {bs : List β} (h : List.Forall₂ R as bs)
    (number : ℕ) : List.Forall₂ R (as.modify number f) (bs.modify number g) := by
  induction h generalizing number with
  | nil => simp
  | cons hab _ ih =>
    cases number with
    | zero => exact .cons (hfg _ _ hab) ‹_›
    | succ number => exact .cons hab (ih number)

/-- A task of both channels goes into corresponding stages. -/
theorem Alike.setStage (h : c₁.Alike r c₂) {stage₁ stage₂ : Stage ω ρ}
    (hs : Stage.Alike r stage₁ stage₂) (number : ℕ)
    (ha : ∀ id failure, stage₂.standing = .waiting id failure →
      c₁.arrived.get? (.task number) = c₂.arrived.get? (.task number)) :
    (c₁.setStage number stage₁).Alike r (c₂.setStage number stage₂) :=
  { h with
    arrived := fun a id failure hw => by
      by_cases hself : a = .task number
      · subst hself
        by_cases hlt : number < c₂.tasks.length
        · rw [standing_task_of_stage? (stage?_setStage_self stage₂ hlt)] at hw
          exact ha id failure hw
        · have hnone : (c₂.setStage number stage₂).stage? number = none := by
            rw [Channel.stage?, List.getElem?_eq_none]
            · rfl
            · rw [length_setStage]
              exact Nat.le_of_not_lt hlt
          rw [standing, hnone] at hw
          cases hw
      · refine h.arrived a id failure ?_
        cases a with
        | reader | heartbeat => exact hw
        | task other =>
          have hne : other ≠ number := fun heq => hself (congrArg Agent.task heq)
          rw [standing, stage?_setStage_of_ne stage₂ hne] at hw
          exact hw
    tasks := forall₂_modify (fun _ _ ht => ⟨ht.background, hs⟩) h.tasks number }

theorem standing_wakeAll : c₂.wakeAll.standing = c₂.standing :=
  congrArg Ledger.standing (ledger_wakeAll (c := c₂))

theorem Alike.wakeAll (h : c₁.Alike r c₂) : c₁.wakeAll.Alike r c₂.wakeAll :=
  { h with
    arrived := fun a id failure hw => h.arrived a id failure (by rwa [standing_wakeAll] at hw)
    tasks := by
      refine List.forall₂_map_left_iff.mpr (List.forall₂_map_right_iff.mpr ?_)
      exact h.tasks.imp fun _ _ ht => ⟨ht.background, ht.stage.wake⟩ }

theorem Alike.spawn (h : c₁.Alike r c₂) (background : Bool) (routine : Routine ω ρ Unit) :
    (c₁.spawn background routine).Alike r (c₂.spawn background routine) :=
  { h with
    arrived := fun a id failure hw => h.arrived a id failure (by
      rwa [show (c₂.spawn background routine).standing = c₂.standing from
        congrArg Ledger.standing (ledger_spawn background routine)] at hw)
    tasks := List.rel_append h.tasks (.cons ⟨rfl, .ready routine⟩ .nil) }

/-! ## Closing -/

/-- Two channels after a step, with what the step shows and what has come of the stage, or none where
no step can be made. -/
abbrev Both (r : Renumbering) {σ : Type}
    (R : Channel ω ρ → Channel ω ρ → σ → σ → Prop) :
    Option (Channel ω ρ × List (Event ρ) × σ) → Option (Channel ω ρ × List (Event ρ) × σ) → Prop :=
  Option.Rel fun x y => x.1.Alike r y.1 ∧ List.Forall₂ Event.Alike x.2.1 y.2.1 ∧
    R x.1 y.1 x.2.2 y.2.2

theorem Alike.settle (h : c₁.Alike r c₂) (id : CallId) (result : Except ChannelError Reply) :
    (c₁.settle (r id) result).Alike r (c₂.settle id result) := by
  unfold Channel.settle
  rw [h.pending.get? id]
  split
  next b hb =>
    exact { h with
      pending := h.pending.erase id
      arrived := fun a id failure hw => by
        simp only [Table.get?_insert]
        rw [h.arrived a id failure hw] }
  next => exact h

theorem Alike.endAgent (h : c₁.Alike r c₂) (a : Agent) :
    (c₁.endAgent a).Alike r (c₂.endAgent a) := by
  have hleft : (c₁.leaveWriter a).Alike r (c₂.leaveWriter a) :=
    { h with writer := congrArg (Writer.leave · a) h.writer }
  cases a with
  | reader => exact { hleft with reader := .stopped }
  | heartbeat => exact { hleft with heartbeat := .stopped }
  | task number =>
    exact hleft.setStage .done number fun id failure hw => by cases hw

theorem Alike.backgroundAgents (h : c₁.Alike r c₂) :
    c₁.backgroundAgents = c₂.backgroundAgents := by
  have hnumbers : ∀ (tasks₁ tasks₂ : List (Task ω ρ)) (first : ℕ),
      List.Forall₂ (Task.Alike r) tasks₁ tasks₂ →
      (((tasks₁.zipIdx first).filter fun t => t.1.background).map fun t => Agent.task t.2) =
        ((tasks₂.zipIdx first).filter fun t => t.1.background).map fun t => Agent.task t.2 := by
    intro tasks₁ tasks₂ first ht
    induction ht generalizing first with
    | nil => rfl
    | cons ht _ ih =>
      rw [List.zipIdx_cons, List.zipIdx_cons, List.filter_cons, List.filter_cons, ht.background]
      split
      · rw [List.map_cons, List.map_cons, ih]
      · exact ih _
  rw [Channel.backgroundAgents, Channel.backgroundAgents, hnumbers _ _ 0 h.tasks]

theorem Alike.endOthers (h : c₁.Alike r c₂) (a : Agent) :
    (c₁.endOthers a).Alike r (c₂.endOthers a) := by
  have hfold : ∀ (agents : List Agent) {c₁ c₂ : Channel ω ρ}, c₁.Alike r c₂ →
      (agents.foldl Channel.endAgent c₁).Alike r (agents.foldl Channel.endAgent c₂) := by
    intro agents
    induction agents with
    | nil => exact id
    | cons b agents ih => exact fun h => ih (h.endAgent b)
  rw [Channel.endOthers, Channel.endOthers, h.backgroundAgents]
  exact hfold _ h

/-- What has come of two stages is alike: they go on alike, or they have one result. -/
inductive Progress.Alike {σ α : Type} (R : σ → σ → Prop) : Progress σ α → Progress σ α → Prop
  | more {stage₁ stage₂ : σ} (h : R stage₁ stage₂) : Progress.Alike R (.more stage₁) (.more stage₂)
  | finished (result : α) : Progress.Alike R (.finished result) (.finished result)

/-- Two steps that show nothing. -/
theorem Both.silent {σ : Type} {R : Channel ω ρ → Channel ω ρ → σ → σ → Prop} {stage₁ stage₂ : σ}
    (h : d₁.Alike r d₂) (hr : R d₁ d₂ stage₁ stage₂) :
    Both r R (some (d₁, [], stage₁)) (some (d₂, [], stage₂)) :=
  .some ⟨h, .nil, hr⟩

/-- Either no step can be made, or one can be made in both channels. -/
theorem Both.cases {σ : Type} {R : Channel ω ρ → Channel ω ρ → σ → σ → Prop}
    {x y : Option (Channel ω ρ × List (Event ρ) × σ)} (h : Both r R x y) :
    x = none ∧ y = none ∨ ∃ d₁ events₁ stage₁ d₂ events₂ stage₂, x = some (d₁, events₁, stage₁) ∧
      y = some (d₂, events₂, stage₂) ∧ d₁.Alike r d₂ ∧ List.Forall₂ Event.Alike events₁ events₂ ∧
        R d₁ d₂ stage₁ stage₂ := by
  rcases x with _ | ⟨d₁, events₁, stage₁⟩
  · rcases y with _ | y
    · exact .inl ⟨rfl, rfl⟩
    · cases h
  · rcases y with _ | ⟨d₂, events₂, stage₂⟩
    · cases h
    · obtain ⟨hd, he, hr⟩ := Option.rel_some_some.mp h
      exact .inr ⟨d₁, events₁, stage₁, d₂, events₂, stage₂, rfl, rfl, hd, he, hr⟩

/-- What is made of the steps of two channels is alike if it is made of steps that are alike. -/
theorem Both.map {σ β : Type} {R : Channel ω ρ → Channel ω ρ → σ → σ → Prop} {S : β → β → Prop}
    {f₁ f₂ : Channel ω ρ × List (Event ρ) × σ → β}
    {x y : Option (Channel ω ρ × List (Event ρ) × σ)} (h : Both r R x y)
    (hf : ∀ d₁ events₁ stage₁ d₂ events₂ stage₂, d₁.Alike r d₂ →
      List.Forall₂ Event.Alike events₁ events₂ → R d₁ d₂ stage₁ stage₂ →
        S (f₁ (d₁, events₁, stage₁)) (f₂ (d₂, events₂, stage₂))) :
    Option.Rel S (x.map f₁) (y.map f₂) := by
  rcases h.cases with ⟨rfl, rfl⟩ | ⟨d₁, events₁, stage₁, d₂, events₂, stage₂, rfl, rfl, hd, he, hr⟩
  · exact .none
  · exact .some (hf d₁ events₁ stage₁ d₂ events₂ stage₂ hd he hr)

/-- Closing writes nothing, and nothing makes it fail or stop. -/
theorem closeStep_of_other {c : Channel ω ρ} {stage : CloseStage} {choice : Choice}
    (hgo : choice ≠ .go) (hexpire : choice ≠ .expire) : c.closeStep a stage choice = none := by
  unfold Channel.closeStep
  split <;> first | rfl | exact absurd rfl hgo | exact absurd rfl hexpire

/-- Closing goes on alike. -/
theorem Alike.closeStep (h : c₁.Alike r c₂) (a : Agent) (stage : CloseStage)
    {choice₁ choice₂ : Choice} (hc : choice₁.Alike choice₂) :
    Both r (fun _ _ => Progress.Alike fun s₁ s₂ => s₁ = s₂.rename r)
      (c₁.closeStep a (stage.rename r) choice₁) (c₂.closeStep a stage choice₂) := by
  cases hc with
  | write =>
    rw [closeStep_of_other (by simp) (by simp), closeStep_of_other (by simp) (by simp)]
    exact .none
  | same =>
    by_cases hgo : choice₁ = .go
    · subst hgo
      cases stage with
      | enter =>
        simp only [CloseStage.rename, Channel.closeStep, h.closing]
        split
        · exact .silent h (.finished ())
        · exact .silent { h with closing := rfl } (.more rfl)
      | cancel => exact .silent { h with cancelled := rfl } (.more rfl)
      | notify => exact .silent h.wakeAll (.more rfl)
      | snapshot => exact .silent h (.more (congrArg CloseStage.drain h.pending.keys))
      | drain ids =>
        cases ids with
        | nil =>
          refine .silent { h with writer := ?_ } (.more ?_)
          · exact congrArg (Writer.enqueue · a) h.writer
          · exact congrArg (fun clock => CloseStage.lock (clock + writerPatience)) h.clock
        | cons id ids => exact .silent (h.settle id _) (.more rfl)
      | lock deadline =>
        simp only [CloseStage.rename, Channel.closeStep, h.writer]
        split
        · split
          · exact .silent { h with writer := rfl } (.more rfl)
          · exact .silent { h with writer := congrArg (Writer.leave · a) h.writer } (.more rfl)
        · exact .none
      | shut =>
        exact .some ⟨{ h with writer := congrArg (Writer.leave · a) h.writer },
          .cons (.same _) .nil, .more rfl⟩
      | dropGuard => exact .silent { h with guarded := rfl } (.more rfl)
      | abort => exact .silent (h.endOthers a) (.finished ())
    by_cases hexpire : choice₁ = .expire
    · subst hexpire
      cases stage with
      | lock deadline =>
        simp only [CloseStage.rename, Channel.closeStep, h.clock]
        split
        · exact .silent { h with writer := congrArg (Writer.leave · a) h.writer } (.more rfl)
        · exact .none
      | drain ids => cases ids <;> exact .none
      | _ => exact .none
    rw [closeStep_of_other hgo hexpire, closeStep_of_other hgo hexpire]
    exact .none

/-! ## Sending -/

/-- Two agents go on in the same way with what they send. -/
structure InStep (r : Renumbering) (limit : ℕ) (sending₁ sending₂ : Option SendStage)
    (choice₁ choice₂ : Choice) : Prop where
  choice : choice₁.Alike choice₂
  /-- They come to the end of their bytes together. -/
  ends : ∀ rest₁ rest₂ count₁ count₂, sending₁ = some (.write rest₁) →
    sending₂ = some (.write rest₂) → choice₁ = .write count₁ → choice₂ = .write count₂ →
      (rest₁.drop count₁ = [] ↔ rest₂.drop count₂ = [])
  /-- The frames of both can be sent, or neither can, for one reason. -/
  fate : ∀ frame, sending₂ = some (.encode frame) → ∀ e,
    (frame.renameRequest r).wire limit = .error e ↔ frame.wire limit = .error e

variable {limit : ℕ} {choice₁ choice₂ : Choice}

/-- A writer is left alike. -/
theorem Alike.leaveWriter (h : c₁.Alike r c₂) (a : Agent) :
    (c₁.leaveWriter a).Alike r (c₂.leaveWriter a) :=
  { h with writer := congrArg (Writer.leave · a) h.writer }

/-- Sending is abandoned alike. -/
theorem Alike.abandonStep (h : c₁.Alike r c₂) (a : Agent) {stage₁ stage₂ : SendStage}
    (hs : stage₁.Alike r stage₂) :
    Both r (fun _ _ => Progress.Alike (SendStage.Alike r))
      (c₁.sendStep a stage₁ .abandon) (c₂.sendStep a stage₂ .abandon) := by
  cases hs with
  | encode => exact .none
  | queued | write | flush =>
    simp only [Channel.sendStep, h.cancelled]
    split
    · exact .silent (h.leaveWriter a) (.finished _)
    · exact .none

/-- Bytes are written alike. -/
theorem Alike.writeStep (h : c₁.Alike r c₂) (a : Agent) {rest₁ rest₂ : Bytes} {count₁ count₂ : ℕ}
    (hzero : count₁ = 0 ↔ count₂ = 0) (hend : rest₁.drop count₁ = [] ↔ rest₂.drop count₂ = []) :
    Both r (fun _ _ => Progress.Alike (SendStage.Alike r))
      (c₁.sendStep a (.write rest₁) (.write count₁))
      (c₂.sendStep a (.write rest₂) (.write count₂)) := by
  simp only [Channel.sendStep, hzero, hend]
  split
  · exact .none
  · refine .some ⟨h, .cons (.wrote _ _) .nil, ?_⟩
    split
    · exact .more .flush
    · exact .more (.write _ _)

/-- Sending goes on alike. -/
theorem Alike.sendStep (h : c₁.Alike r c₂) (a : Agent) {stage₁ stage₂ : SendStage}
    (hs : stage₁.Alike r stage₂)
    (hk : InStep r c₂.setup.frameLimit (some stage₁) (some stage₂) choice₁ choice₂) :
    Both r (fun _ _ => Progress.Alike (SendStage.Alike r))
      (c₁.sendStep a stage₁ choice₁) (c₂.sendStep a stage₂ choice₂) := by
  obtain ⟨hchoice, hends, hfate⟩ := hk
  cases hchoice with
  | write hzero =>
    cases hs with
    | write rest₁ rest₂ => exact h.writeStep a hzero (hends _ _ _ _ rfl rfl rfl rfl)
    | _ => exact .none
  | same =>
    cases hs with
    | encode frame =>
      cases choice₁ with
      | go =>
        have hwire := hfate frame rfl
        simp only [Channel.sendStep, h.setup]
        rcases hw : frame.wire c₂.setup.frameLimit with e | bytes₂
        · rw [(hwire e).mpr hw]
          exact .silent h (.finished _)
        · rcases hw' : (frame.renameRequest r).wire c₂.setup.frameLimit with e | bytes₁
          · rw [(hwire e).mp hw'] at hw
            cases hw
          · exact .silent { h with setup := rfl, writer := congrArg (Writer.enqueue · a) h.writer }
              (.more (.queued _ _))
      | _ => exact .none
    | queued bytes₁ bytes₂ =>
      cases choice₁ with
      | go =>
        simp only [Channel.sendStep, h.writer]
        split
        · split
          · exact .silent { h with writer := rfl } (.more (.write _ _))
          · exact .silent (h.leaveWriter a) (.finished _)
        · exact .none
      | abandon => exact h.abandonStep a (.queued _ _)
      | _ => exact .none
    | write rest₁ rest₂ =>
      cases choice₁ with
      | write count => exact h.writeStep a Iff.rfl (hends _ _ _ _ rfl rfl rfl rfl)
      | fail e => exact .silent (h.leaveWriter a) (.finished _)
      | abandon => exact h.abandonStep a (.write _ _)
      | _ => exact .none
    | flush =>
      cases choice₁ with
      | go => exact .silent (h.leaveWriter a) (.finished _)
      | fail e => exact .silent (h.leaveWriter a) (.finished _)
      | abandon => exact h.abandonStep a .flush
      | _ => exact .none

/-! ## Calling -/

/-- What has come of two calls is alike, and so are their results if they wait. -/
def CallsAlike (r : Renumbering) (a : Agent) (d₁ d₂ : Channel ω ρ)
    (p₁ p₂ : Progress CallStage (Except ChannelError Reply)) : Prop :=
  Progress.Alike (CallStage.Alike r) p₁ p₂ ∧
    ∀ stage id failure, p₂ = .more stage → stage.standing = .waiting id failure →
      d₁.arrived.get? a = d₂.arrived.get? a

theorem CallsAlike.finished (result : Except ChannelError Reply) :
    CallsAlike r a d₁ d₂ (.finished result) (.finished result) :=
  ⟨.finished result, fun _ _ _ h => by cases h⟩

theorem CallsAlike.more {stage₁ stage₂ : CallStage} (hs : stage₁.Alike r stage₂)
    (ha : ∀ id failure, stage₂.standing = .waiting id failure →
      d₁.arrived.get? a = d₂.arrived.get? a) :
    CallsAlike r a d₁ d₂ (.more stage₁) (.more stage₂) :=
  ⟨.more hs, fun _ id failure h hw => by
    cases h
    exact ha id failure hw⟩

theorem Alike.forget (h : c₁.Alike r c₂) (id : CallId) :
    (c₁.forget (r id)).Alike r (c₂.forget id) :=
  { h with pending := h.pending.erase id }

/-- The result of a call has been looked at. -/
theorem Alike.eraseArrived (h : c₁.Alike r c₂) (a : Agent) :
    ({ c₁ with arrived := c₁.arrived.erase a } : Channel ω ρ).Alike r
      { c₂ with arrived := c₂.arrived.erase a } :=
  { h with
    arrived := fun b id failure hw => by
      rw [Table.get?_erase, Table.get?_erase, h.arrived b id failure hw] }

/-- A call that sends its request goes on alike. -/
theorem Alike.callStep_send (h : c₁.Alike r c₂) (a : Agent) (id : CallId)
    {stage₁ stage₂ : SendStage} (hs : stage₁.Alike r stage₂)
    (hk : InStep r c₂.setup.frameLimit (some stage₁) (some stage₂) choice₁ choice₂)
    (ha : c₁.arrived.get? a = c₂.arrived.get? a) :
    Both r (CallsAlike r a) (c₁.callStep a (.send (r id) stage₁) choice₁)
      (c₂.callStep a (.send id stage₂) choice₂) := by
  simp only [Channel.callStep]
  rcases (h.sendStep a hs hk).cases with
    ⟨h₁, h₂⟩ | ⟨d₁, events₁, p₁, d₂, events₂, p₂, h₁, h₂, hd, he, hp⟩
  · rw [h₁, h₂]
    exact .none
  · obtain ⟨w₁, rfl⟩ := sendStep_writer h₁
    obtain ⟨w₂, rfl⟩ := sendStep_writer h₂
    rw [h₁, h₂]
    cases hp with
    | more hs => exact .some ⟨hd, he, .more (.send id hs) fun _ _ _ => ha⟩
    | finished result =>
      rcases result with e | _
      · exact .some ⟨hd, he, .more (.giveUp id e) fun _ _ _ => ha⟩
      · exact .some ⟨hd, he, .more (.await id) fun _ _ _ => ha⟩

/-- A call that closes the channel goes on alike. -/
theorem Alike.callStep_shut (h : c₁.Alike r c₂) (a : Agent) (e : ChannelError) (stage : CloseStage)
    (hc : choice₁.Alike choice₂) :
    Both r (CallsAlike r a) (c₁.callStep a (.shut e (stage.rename r)) choice₁)
      (c₂.callStep a (.shut e stage) choice₂) := by
  simp only [Channel.callStep]
  rcases (h.closeStep a stage hc).cases with
    ⟨h₁, h₂⟩ | ⟨d₁, events₁, p₁, d₂, events₂, p₂, h₁, h₂, hd, he, hp⟩
  · rw [h₁, h₂]
    exact .none
  · rw [h₁, h₂]
    cases hp with
    | more hs => exact .some ⟨hd, he, .more (hs ▸ .shut e _) fun _ _ hw => by cases hw⟩
    | finished => exact .some ⟨hd, he, .finished _⟩

/-- A call that neither sends nor closes can only go on. -/
theorem callStep_of_other {c : Channel ω ρ} {stage : CallStage} {choice : Choice}
    (hsending : stage.sending? = none) (hclosing : stage.closing? = none) (hgo : choice ≠ .go) :
    c.callStep a stage choice = none := by
  unfold Channel.callStep
  split
  case h_5 => cases hsending
  case h_8 => cases hclosing
  all_goals first | rfl | exact absurd rfl hgo

/-- A call goes on alike. -/
theorem Alike.callStep (h : c₁.Alike r c₂) (a : Agent) {stage₁ stage₂ : CallStage}
    (hs : stage₁.Alike r stage₂)
    (hk : InStep r c₂.setup.frameLimit stage₁.sending? stage₂.sending? choice₁ choice₂)
    (ha : ∀ id failure, stage₂.standing = .waiting id failure →
      c₁.arrived.get? a = c₂.arrived.get? a)
    (hd : ∀ call, stage₂ = .draw call → c₁.nextId = r c₂.nextId) :
    Both r (CallsAlike r a) (c₁.callStep a stage₁ choice₁) (c₂.callStep a stage₂ choice₂) := by
  rcases hk.choice.go_or_ne with ⟨rfl, rfl⟩ | ⟨hgo₁, hgo₂⟩
  · cases hs with
    | send id hsend => exact h.callStep_send a id hsend hk (ha id none rfl)
    | shut e stage => exact h.callStep_shut a e stage hk.choice
    | check call =>
      simp only [Channel.callStep, h.closing]
      split
      · exact .silent h (.finished _)
      · exact .silent h (.more (.draw call) fun _ _ hw => by cases hw)
    | draw call =>
      simp only [Channel.callStep, hd call rfl]
      refine .silent { h with nextId := ?_ } (.more (.register _ call) fun _ _ hw => by cases hw)
      dsimp only
      rw [← hd call rfl, h.nextId, UInt64.add_assoc, UInt64.add_comm r.ahead, ← UInt64.add_assoc]
    | register id call =>
      refine .silent { h.eraseArrived a with pending := h.pending.insert id a }
        (.more (.recheck id call) fun _ _ _ => ?_)
      rw [Table.get?_erase, Table.get?_erase, if_pos rfl, if_pos rfl]
    | recheck id call =>
      simp only [Channel.callStep, h.closing]
      split
      · exact .silent (h.forget id) (.finished _)
      · exact .silent h (.more (.send id (.encode (.request id call))) fun _ _ _ => ha id none rfl)
    | giveUp id e =>
      cases e with
      | transport e => exact .silent (h.forget id) (.more (.shut _ .enter) fun _ _ hw => by cases hw)
      | _ => exact .silent (h.forget id) (.finished _)
    | await id =>
      simp only [Channel.callStep, ha id none rfl, h.pending.get? id]
      split
      · exact .silent (h.eraseArrived a) (.finished _)
      · split
        · exact .none
        · exact .silent h (.finished _)
  · cases hs with
    | send id hsend => exact h.callStep_send a id hsend hk (ha id none rfl)
    | shut e stage => exact h.callStep_shut a e stage hk.choice
    | _ =>
      rw [callStep_of_other rfl rfl hgo₁, callStep_of_other rfl rfl hgo₂]
      exact .none

/-! ## Tasks -/

/-- What has come of two tasks is alike, and so are the results of their calls if they wait. -/
def TasksAlike (r : Renumbering) (a : Agent) (d₁ d₂ : Channel ω ρ) (stage₁ stage₂ : Stage ω ρ) :
    Prop :=
  Stage.Alike r stage₁ stage₂ ∧
    ∀ id failure, stage₂.standing = .waiting id failure → d₁.arrived.get? a = d₂.arrived.get? a

/-- Whether a call waits for its result. -/
def Standing.waits : Standing → Bool
  | .waiting _ _ => true
  | _ => false

/-- What has come of two tasks whose calls do not wait is alike. -/
theorem TasksAlike.of_idle {stage₁ stage₂ : Stage ω ρ} (hs : Stage.Alike r stage₁ stage₂)
    (hidle : Standing.waits stage₂.standing = false) : TasksAlike r a d₁ d₂ stage₁ stage₂ :=
  ⟨hs, fun id failure hw => by
    rw [hw] at hidle
    cases hidle⟩

theorem TasksAlike.ready (routine : Routine ω ρ Unit) :
    TasksAlike r a d₁ d₂ (.ready routine) (.ready routine) := .of_idle (.ready routine) rfl

/-- Waiting for a property goes on in the same way. -/
theorem Alike.waitStep (h : c₁.Alike r c₂) (name : String) (deadline : Option ℕ)
    (stage : WaitStage) (hc : choice₁.Alike choice₂) :
    c₁.waitStep name deadline stage choice₁ = c₂.waitStep name deadline stage choice₂ := by
  cases hc with
  | same => simp only [Channel.waitStep, property?, h.properties, h.closing, h.clock]
  | write =>
    cases stage with
    | asleep notified => cases notified <;> rfl
    | _ => rfl

/-- Two routines begin with an operation alike. -/
theorem Alike.begin (h : c₁.Alike r c₂) (op : Op ω ρ) (next : op.Answer → Routine ω ρ Unit) :
    Both r (TasksAlike r a) (some (c₁.begin op next)) (some (c₂.begin op next)) := by
  cases op with
  | call call => exact .silent h (.of_idle (.call (.check call) next) rfl)
  | publish name value =>
    exact .silent h (.of_idle (.publish (.encode (.property name value)) next) rfl)
  | respond id result =>
    exact .silent h (.of_idle (.respond id false (.encode (.response id result)) next) rfl)
  | property name limit =>
    simp only [Channel.begin, h.clock]
    exact .silent h (.of_idle (.wait name _ .enter next) rfl)
  | closed => exact .silent h (.of_idle (.awaitClosed next) rfl)
  | close => exact .silent h (.of_idle (.close .enter next) rfl)
  | change f =>
    simp only [Channel.begin, h.world]
    exact .silent { h with world := rfl } (.ready _)
  | log entry =>
    exact .some ⟨h, .cons (.same _) .nil, .ready (next ())⟩
  | sleep millis =>
    simp only [Channel.begin, h.clock]
    exact .silent h (.of_idle (.sleep _ next) rfl)
  | pause => exact .silent h (.of_idle (.pause next) rfl)
  | hang => exact .silent h (.of_idle .hang rfl)
  | report value =>
    exact .some ⟨h, .cons (.same _) .nil, .ready (next ())⟩

/-- A task goes on alike. -/
theorem Alike.taskStep (h : c₁.Alike r c₂) (a : Agent) {stage₁ stage₂ : Stage ω ρ}
    (hs : Stage.Alike r stage₁ stage₂)
    (hk : InStep r c₂.setup.frameLimit stage₁.sending? stage₂.sending? choice₁ choice₂)
    (ha : ∀ id failure, stage₂.standing = .waiting id failure →
      c₁.arrived.get? a = c₂.arrived.get? a)
    (hdraw : ∀ call next, stage₂ = .call (.draw call) next → c₁.nextId = r c₂.nextId) :
    Both r (TasksAlike r a) (c₁.taskStep a stage₁ choice₁) (c₂.taskStep a stage₂ choice₂) := by
  have hgo : (choice₁ = .go) ↔ (choice₂ = .go) := by
    rcases hk.choice.go_or_ne with ⟨h₁, h₂⟩ | ⟨h₁, h₂⟩
    · exact iff_of_true h₁ h₂
    · exact iff_of_false h₁ h₂
  cases hs with
  | ready routine =>
    rcases routine with ⟨⟨⟩⟩ | ⟨op, next⟩
    · simp only [Channel.taskStep, hgo]
      split
      · exact .silent h (.of_idle .done rfl)
      · exact .none
    · simp only [Channel.taskStep, hgo]
      split
      · exact h.begin op next
      · exact .none
  | call hs next =>
    refine (h.callStep a hs hk ha fun call heq => hdraw call next (heq ▸ rfl)).map ?_
    rintro _ _ _ _ _ _ hd he ⟨hp, hw⟩
    cases hp with
    | more hs => exact ⟨hd, he, .call hs next, fun id failure => hw _ id failure rfl⟩
    | finished result => exact ⟨hd, he, .ready _⟩
  | publish hs next =>
    refine (h.sendStep a hs hk).map fun _ _ _ _ _ _ hd he hp => ?_
    cases hp with
    | more hs => exact ⟨hd, he, .of_idle (.publish hs next) rfl⟩
    | finished result => exact ⟨hd, he, .ready _⟩
  | respond id last hs next =>
    refine (h.sendStep a hs hk).map fun _ _ _ _ _ _ hd he hp => ?_
    cases hp with
    | more hs => exact ⟨hd, he, .of_idle (.respond id last hs next) rfl⟩
    | finished result =>
      refine ⟨hd, he, ?_⟩
      dsimp only
      split
      · rename_i heq
        cases heq
      · rename_i e _
        have hs : SendStage.Alike r (.encode (.response id (.error ⟨e.message⟩)))
            (.encode (.response id (.error ⟨e.message⟩))) :=
          .encode (.response id (.error ⟨e.message⟩))
        exact .of_idle (.respond id true hs next) rfl
      · exact .ready _
  | wait name deadline stage next =>
    simp only [Channel.taskStep, h.waitStep name deadline stage hk.choice]
    rcases c₂.waitStep name deadline stage choice₂ with _ | p
    · exact .none
    · cases p with
      | more stage => exact .silent h (.of_idle (.wait name deadline stage next) rfl)
      | finished result => exact .silent h (.ready _)
  | close stage next =>
    refine (h.closeStep a stage hk.choice).map fun _ _ _ _ _ _ hd he hp => ?_
    cases hp with
    | more hs => exact ⟨hd, he, .of_idle (hs ▸ .close _ next) rfl⟩
    | finished => exact ⟨hd, he, .ready _⟩
  | awaitClosed next =>
    simp only [Channel.taskStep, hgo, h.cancelled]
    split
    · exact .silent h (.ready _)
    · exact .none
  | sleep time next =>
    simp only [Channel.taskStep, hgo, h.clock]
    split
    · exact .silent h (.ready _)
    · exact .none
  | pause next =>
    simp only [Channel.taskStep, hgo]
    split
    · exact .silent h (.ready _)
    · exact .none
  | hang => exact .none
  | done => exact .none

/-! ## The heartbeat and the reader -/

/-- A heartbeat goes on alike. -/
theorem Alike.heartbeatStep (h : c₁.Alike r c₂)
    (hk : InStep r c₂.setup.frameLimit (c₁.sending? .heartbeat) (c₂.sending? .heartbeat)
      choice₁ choice₂) :
    Both r (fun _ _ => HeartbeatStage.Alike r) (c₁.heartbeatStep c₁.heartbeat choice₁)
      (c₂.heartbeatStep c₂.heartbeat choice₂) := by
  have hbeat := h.heartbeat
  rw [sending?, sending?] at hk
  generalize c₁.heartbeat = stage₁ at hbeat hk ⊢
  generalize c₂.heartbeat = stage₂ at hbeat hk ⊢
  cases hbeat with
  | stopped => exact .none
  | wait next =>
    cases hk.choice with
    | write => exact .none
    | same =>
      cases choice₁ with
      | go =>
        simp only [Channel.heartbeatStep, h.clock]
        split
        · exact .silent h (.send (.encode .ping) next)
        · exact .none
      | abandon =>
        simp only [Channel.heartbeatStep, h.cancelled]
        split
        · exact .silent h .stopped
        · exact .none
      | _ => exact .none
  | send hs time =>
    refine (h.sendStep .heartbeat hs hk).map fun _ _ _ _ _ _ hd he hp => ?_
    cases hp with
    | more hs => exact ⟨hd, he, .send hs time⟩
    | finished result =>
      refine ⟨hd, he, ?_⟩
      dsimp only
      rw [hd.setup]
      exact .wait _

/-- What the reader comes upon. -/
inductive Intake where
  | nothing
  /-- There is not all of the next frame yet. -/
  | part
  | frame (frame : Frame)
  | fault

/-- What the reader comes upon when it goes on. -/
def intake (c : Channel ω ρ) : Intake :=
  match c.reader with
  | .read incomplete =>
    if c.inbox = [] then .nothing
    else
      match takeFrame c.setup.frameLimit incomplete c.inbox with
      | .error _ => .fault
      | .ok (none, _, _) => .part
      | .ok (some frame, _, _) => .frame frame
  | _ => .nothing

/-- The reader goes on with what it comes upon. -/
theorem readerStep_of_read {c : Channel ω ρ} {incomplete : Frame.Partial}
    (h : c.reader = .read incomplete) :
    ∃ rest incomplete', c.readerStep (.read incomplete) .go =
      match c.intake with
      | .nothing => if c.inboxEnded then some (c, [], .close .enter) else none
      | .part => some ({ c with inbox := rest }, [], .read incomplete')
      | .frame frame => some ({ c with inbox := rest }.dispatch frame, [], .read incomplete')
      | .fault => some ({ c with inbox := [] }, [], .close .enter) := by
  simp only [intake, h, readerStep]
  by_cases hinbox : c.inbox = []
  · exact ⟨[], incomplete, by simp only [hinbox, if_true]⟩
  · simp only [hinbox, if_false]
    rcases takeFrame c.setup.frameLimit incomplete c.inbox with e | ⟨_ | frame, incomplete', rest⟩
    · exact ⟨[], incomplete, rfl⟩
    · exact ⟨rest, incomplete', rfl⟩
    · exact ⟨rest, incomplete', rfl⟩

/-- Two frames have come from the other end that differ in the identifier of the call that they
answer, or that answer no call. -/
inductive FramesAlike (r : Renumbering) (c₁ c₂ : Channel ω ρ) : Frame → Frame → Prop
  | same (frame : Frame) : FramesAlike r c₁ c₂ (frame.renameResponse r) frame
  | unknown {id₁ id₂ : CallId} {result₁ result₂ : Except Failure Reply}
    (h₁ : c₁.pending.get? id₁ = none) (h₂ : c₂.pending.get? id₂ = none) :
    FramesAlike r c₁ c₂ (.response id₁ result₁) (.response id₂ result₂)

/-- Two readers come upon the same, but for identifiers of calls. -/
inductive IntakesAlike (r : Renumbering) (c₁ c₂ : Channel ω ρ) : Intake → Intake → Prop
  | nothing : IntakesAlike r c₁ c₂ .nothing .nothing
  | part : IntakesAlike r c₁ c₂ .part .part
  | frame {frame₁ frame₂ : Frame} (h : FramesAlike r c₁ c₂ frame₁ frame₂) :
    IntakesAlike r c₁ c₂ (.frame frame₁) (.frame frame₂)
  | fault : IntakesAlike r c₁ c₂ .fault .fault

theorem settle_of_unknown {c : Channel ω ρ} {id : CallId} {result : Except ChannelError Reply}
    (h : c.pending.get? id = none) : c.settle id result = c := by
  rw [settle, h]

/-- Frames from the other end do the same. -/
theorem Alike.dispatch (h : c₁.Alike r c₂) {frame₁ frame₂ : Frame}
    (hf : FramesAlike r c₁ c₂ frame₁ frame₂) :
    (c₁.dispatch frame₁).Alike r (c₂.dispatch frame₂) := by
  cases hf with
  | unknown h₁ h₂ =>
    rw [Channel.dispatch, Channel.dispatch, settle_of_unknown h₁, settle_of_unknown h₂]
    exact h
  | same =>
    cases frame₂ with
    | response id result => exact h.settle id _
    | request id call =>
      simp only [Frame.renameResponse, Channel.dispatch, h.closing, h.setup]
      split
      · exact h
      · exact h.spawn true _
    | property name value =>
      simp only [Frame.renameResponse, Channel.dispatch, h.properties]
      have hset : ({ c₁ with properties := c₂.properties.insert name value } : Channel ω ρ).Alike r
          { c₂ with properties := c₂.properties.insert name value } :=
        { h with properties := rfl }
      exact hset.wakeAll
    | ping => exact h

/-- What has arrived and not been read may differ. -/
theorem Alike.inbox (h : c₁.Alike r c₂) (inbox₁ inbox₂ : Bytes) :
    ({ c₁ with inbox := inbox₁ } : Channel ω ρ).Alike r { c₂ with inbox := inbox₂ } := { h with }

theorem FramesAlike.inbox {frame₁ frame₂ : Frame} (h : FramesAlike r c₁ c₂ frame₁ frame₂)
    (inbox₁ inbox₂ : Bytes) :
    FramesAlike r { c₁ with inbox := inbox₁ } { c₂ with inbox := inbox₂ } frame₁ frame₂ := by
  cases h with
  | same => exact .same frame₂
  | unknown h₁ h₂ => exact .unknown h₁ h₂

/-- A reader goes on alike. -/
theorem Alike.readerStep (h : c₁.Alike r c₂) (hc : choice₁.Alike choice₂)
    (hi : choice₂ = .go → IntakesAlike r c₁ c₂ c₁.intake c₂.intake) :
    Both r (fun _ _ => ReaderStage.Alike r) (c₁.readerStep c₁.reader choice₁)
      (c₂.readerStep c₂.reader choice₂) := by
  have hreader := h.reader
  generalize h₁ : c₁.reader = stage₁ at hreader ⊢
  generalize h₂ : c₂.reader = stage₂ at hreader ⊢
  cases hreader with
  | stopped => exact .none
  | close stage =>
    refine (h.closeStep .reader stage hc).map fun _ _ _ _ _ _ hd he hp => ?_
    cases hp with
    | more hs => exact ⟨hd, he, hs ▸ .close _⟩
    | finished => exact ⟨hd, he, .stopped⟩
  | read incomplete₁ incomplete₂ =>
    cases hc with
    | write => exact .none
    | same =>
      cases choice₁ with
      | go =>
        have hintake := hi rfl
        obtain ⟨rest₁, incomplete₁', hr₁⟩ := readerStep_of_read h₁
        obtain ⟨rest₂, incomplete₂', hr₂⟩ := readerStep_of_read h₂
        rw [hr₁, hr₂]
        generalize c₁.intake = intake₁ at hintake
        generalize c₂.intake = intake₂ at hintake
        cases hintake with
        | nothing =>
          simp only [h.inboxEnded]
          split
          · exact .silent h (.close .enter)
          · exact .none
        | part => exact .silent (h.inbox _ _) (.read _ _)
        | fault => exact .silent (h.inbox _ _) (.close .enter)
        | frame hf => exact .silent ((h.inbox _ _).dispatch (hf.inbox _ _)) (.read _ _)
      | abandon =>
        simp only [Channel.readerStep, h.cancelled]
        split
        · exact .silent h (.close .enter)
        · exact .none
      | _ => exact .none

/-! ## Steps -/

/-- An agent is about to draw an identifier for its call. -/
def Draws (c : Channel ω ρ) (a : Agent) : Prop :=
  ∃ number call next, a = .task number ∧ c.stage? number = some (.call (.draw call) next)

/-- Two steps of an agent correspond to each other. -/
structure AgentsAlike (r : Renumbering) (c₁ c₂ : Channel ω ρ) (a : Agent)
    (choice₁ choice₂ : Choice) : Prop where
  sends : InStep r c₂.setup.frameLimit (c₁.sending? a) (c₂.sending? a) choice₁ choice₂
  intake : a = .reader → choice₂ = .go → IntakesAlike r c₁ c₂ c₁.intake c₂.intake
  draws : c₂.Draws a → c₁.nextId = r c₂.nextId

/-- Two actions are the same but for bytes and for how an agent goes on, of which `agents` says when
it corresponds. -/
inductive ActionsAlike (agents : Agent → Choice → Choice → Prop) :
    Action ω ρ → Action ω ρ → Prop
  | agent {a : Agent} {choice₁ choice₂ : Choice} (h : agents a choice₁ choice₂) :
    ActionsAlike agents (.agent a choice₁) (.agent a choice₂)
  | deliver (bytes₁ bytes₂ : Bytes) : ActionsAlike agents (.deliver bytes₁) (.deliver bytes₂)
  | endInput : ActionsAlike agents .endInput .endInput
  | start (routine : Routine ω ρ Unit) : ActionsAlike agents (.start routine) (.start routine)
  | elapse (millis : ℕ) : ActionsAlike agents (.elapse millis) (.elapse millis)

/-- What two steps have come to is alike. -/
def StepsAlike (r : Renumbering) (x y : Channel ω ρ × List (Event ρ)) : Prop :=
  x.1.Alike r y.1 ∧ List.Forall₂ Event.Alike x.2 y.2

/-- A step of an agent leaves channels alike. -/
theorem Alike.agentStep (h : c₁.Alike r c₂) (hk : AgentsAlike r c₁ c₂ a choice₁ choice₂) :
    Option.Rel (StepsAlike r) (c₁.agentStep a choice₁) (c₂.agentStep a choice₂) := by
  cases a with
  | reader =>
    exact (h.readerStep hk.sends.choice (hk.intake rfl)).map
      fun _ _ _ _ _ _ hd he hp => ⟨{ hd with reader := hp }, he⟩
  | heartbeat =>
    exact (h.heartbeatStep hk.sends).map
      fun _ _ _ _ _ _ hd he hp => ⟨{ hd with heartbeat := hp }, he⟩
  | task number =>
    have hsends := hk.sends
    have hstage := h.stage? number
    simp only [Channel.agentStep]
    rcases h₁ : c₁.stage? number with _ | stage₁
    · rcases h₂ : c₂.stage? number with _ | stage₂
      · exact .none
      · rw [h₁, h₂] at hstage
        cases hstage
    · rcases h₂ : c₂.stage? number with _ | stage₂
      · rw [h₁, h₂] at hstage
        cases hstage
      rw [h₁, h₂] at hstage
      have hs := Option.rel_some_some.mp hstage
      simp only [sending?, h₁, h₂, Option.bind_some] at hsends
      have ha : ∀ id failure, stage₂.standing = .waiting id failure →
          c₁.arrived.get? (.task number) = c₂.arrived.get? (.task number) := fun id failure hw =>
        h.arrived (.task number) id failure ((standing_task_of_stage? h₂).trans hw)
      have hdraw : ∀ call next, stage₂ = .call (.draw call) next → c₁.nextId = r c₂.nextId :=
        fun call next heq => hk.draws ⟨number, call, next, rfl, heq ▸ h₂⟩
      exact (h.taskStep (.task number) hs hsends ha hdraw).map
        fun _ _ _ _ _ _ hd he hp => ⟨hd.setStage hp.1 number hp.2, he⟩

/-- **Corresponding steps.** An action can be done in a channel if the corresponding one can be done
in a channel that is alike, and it leaves them alike and shows the same but for bytes. -/
theorem Alike.step (h : c₁.Alike r c₂) {action₁ action₂ : Action ω ρ}
    (ha : ActionsAlike (AgentsAlike r c₁ c₂) action₁ action₂) :
    Option.Rel (StepsAlike r) (c₁.step action₁) (c₂.step action₂) := by
  cases ha with
  | agent hk => exact h.agentStep hk
  | deliver bytes₁ bytes₂ =>
    simp only [Channel.step, h.inboxEnded]
    split
    · exact .none
    · exact .some ⟨{ h with inboxEnded := rfl }, .nil⟩
  | endInput => exact .some ⟨{ h with inboxEnded := rfl }, .nil⟩
  | start routine => exact .some ⟨h.spawn false routine, .nil⟩
  | elapse millis => exact .some ⟨{ h with clock := congrArg (· + millis) h.clock }, .nil⟩

end Channel

end CommandLink
