import CommandLink.Proofs.Channel.Calls
import CommandLink.Proofs.Channel.Responses
import CommandLink.Proofs.Channel.Taking

/-!
# The requests that calls send

While a channel is open and no identifier is drawn twice, every request that it sends is that of a
call which has drawn its identifier, and no call sends more than one (`posted_after`).
-/

namespace CommandLink

variable {ω ρ : Type}

/-- The requests among some letters. -/
def requestsOf (letters : List Letter) : List (CallId × Call) :=
  letters.filterMap fun l => l.frame.request?

/-- The identifier of a call that has one and has not sent its request. -/
def CallStage.unposted? : CallStage → Option CallId
  | .register id _ => some id
  | .recheck id _ => some id
  | .send id (.encode _) => some id
  | _ => none

theorem requestsOf_concat (letters : List Letter) (l? : Option Letter) :
    requestsOf (letters ++ l?.toList) =
      requestsOf letters ++ (l?.bind fun l => l.frame.request?).toList := by
  rw [requestsOf, List.filterMap_append, requestsOf]
  rcases l? with _ | l
  · rfl
  · simp only [Option.toList_some, List.filterMap_cons, List.filterMap_nil, Option.bind_some]
    cases l.frame.request? <;> rfl

theorem nodup_drawnIds_of_append {h later : List Note} (hn : (drawnIds (h ++ later)).Nodup) :
    (drawnIds h).Nodup := by
  rw [drawnIds, List.filterMap_append] at hn
  exact hn.of_append_left

namespace Channel

variable {c d : Channel ω ρ} {action : Action ω ρ} {events : List (Event ρ)} {number : ℕ}
  {past : List (Moment ω ρ)} {setup : ChannelSetup ω ρ} {world : ω} {guarded : Bool}
  {actions : List (Action ω ρ)} {id : CallId} {call : Call}

/-- The heartbeat begins to send nothing but pings. -/
theorem ping_after (setup : ChannelSetup ω ρ) (world : ω) (guarded : Bool)
    (actions : List (Action ω ρ)) (frame : Frame) (time : ℕ)
    (h : ((start setup world guarded).after actions).heartbeat = .send (.encode frame) time) :
    frame = .ping := by
  refine run_induction (P := fun _ c => ∀ frame time, c.heartbeat = .send (.encode frame) time →
    frame = .ping) _ (fun frame time hbeat => ?_) (fun _ _ _ _ _ hp h => ping_of_step h hp) actions
    frame time h
  simp only [start] at hbeat
  split at hbeat
  · split_ifs at hbeat
  · cases hbeat

/-- A task whose call has come to a stage has its request encoded, if it sends one. -/
theorem stage_of_request {stage : Stage ω ρ} {limit : ℕ} {left : Routine ω ρ Unit} {frame : Frame}
    (hp : Stage.Performs limit left stage) (hs : stage.sending? = some (.encode frame))
    (hr : frame.request? = some (id, call)) :
    ∃ id' next, stage = .call (.send id' (.encode frame)) next := by
  cases hp with
  | call call stage next hcarries =>
    cases stage with
    | send id' s =>
      cases hs
      exact ⟨id', next, rfl⟩
    | _ => cases hs
  | publish name value stage next hcarries =>
    cases hs
    cases hcarries
    cases hr
  | respond id result stage next hcarries =>
    cases hs
    cases hcarries
    cases hr
  | refuse id result e stage next hrefused hcarries =>
    cases hs
    cases hcarries
    cases hr
  | _ => cases hs

/-- Every request that is sent is that of the call that its sender is in the middle of. -/
theorem Running.underway_of_letter (hr : Running past c)
    (hs : c.Recorded (past.filterMap Moment.note?))
    (hbeat : ∀ frame time, c.heartbeat = .send (.encode frame) time → frame = .ping) {l : Letter}
    (hl : c.letter? action = some l) (hreq : l.frame.request? = some (id, call)) :
    ∃ number next, action.agent? = some (.task number) ∧
      c.stage? number = some (.call (.send id (.encode l.frame)) next) ∧
      underway (.task number) (past.filterMap Moment.note?) = some ⟨call, some id⟩ := by
  obtain ⟨frame, bytes, heq, haction, hsending, -⟩ := letter?_eq_some hl
  obtain rfl : l.frame = frame := by rw [heq]
  rcases hsender : l.sender with _ | _ | number
  · rw [hsender] at hsending
    cases hsending
  · rw [hsender, sending?] at hsending
    unfold HeartbeatStage.sending? at hsending
    split at hsending
    · rename_i hheartbeat
      cases hsending
      rw [hbeat _ _ hheartbeat] at hreq
      cases hreq
    · cases hsending
  · rw [hsender] at hsending
    obtain ⟨stage, hstage, hsends⟩ := Option.bind_eq_some_iff.mp hsending
    obtain ⟨origin, horigin⟩ := hr.begun.origin_of_stage hstage
    obtain ⟨left, stage', -, hstage', hp⟩ := hr.begun.follows number origin horigin
    rw [hstage, Option.some.injEq] at hstage'
    subst hstage'
    rcases hp with hp | ⟨-, hc⟩
    · obtain ⟨id', next, rfl⟩ := stage_of_request hp hsends hreq
      obtain ⟨call', hu, hcarries⟩ := hs number _ next hstage
      obtain hcarries : l.frame = .request id' call' := hcarries
      rw [hcarries] at hreq
      cases hreq
      exact ⟨number, next, by rw [haction, hsender]; rfl, hstage, hu⟩
    · rw [hr.closing] at hc
      cases hc

/-- A call that has not sent its request has drawn its identifier, or draws it now. -/
theorem unposted_of_callStep {a : Agent} {choice : Choice} {stage stage' : CallStage}
    (h : c.callStep a stage choice = some (d, events, .more stage'))
    (hu : stage'.unposted? = some id) :
    stage.sending? = none ∧
      (stage.unposted? = some id ∨ callNote? a stage (.more stage') = some (.drew a id)) := by
  cases callStep_iff.mp h with
  | draw =>
    cases hu
    exact ⟨rfl, .inr rfl⟩
  | register | recheck => exact ⟨rfl, .inl hu⟩
  | @send _ _ stage'' _ _ _ hsend =>
    cases stage'' with
    | encode frame => exact absurd rfl (sendStep_encoded hsend frame)
    | _ => cases hu
  | check | sent | unsent | breakOff | shut => cases hu

theorem underway_of_unposted {limit : ℕ} {stage : CallStage} {u : Option Underway}
    (hs : stage.Recorded limit u) (hu : stage.unposted? = some id) :
    ∃ call, u = some ⟨call, some id⟩ := by
  unfold CallStage.unposted? at hu
  split at hu
  · cases hu
    exact ⟨_, hs⟩
  · cases hu
    exact ⟨_, hs⟩
  · cases hu
    obtain ⟨call, hcall, -⟩ := hs
    exact ⟨call, hcall⟩
  · cases hu

/-- The requests of a run belong to the calls that have drawn their identifiers, one to each at
most. -/
structure Posted (past : List (Moment ω ρ)) (c : Channel ω ρ) : Prop where
  drawn : ∀ id call, (id, call) ∈ requestsOf (past.filterMap Moment.letter?) →
    ∃ a, DrawnFor a id call (past.filterMap Moment.note?)
  once : ((requestsOf (past.filterMap Moment.letter?)).map Prod.fst).Nodup
  unposted : ∀ number stage next id, c.stage? number = some (.call stage next) →
    stage.unposted? = some id →
      id ∉ (requestsOf (past.filterMap Moment.letter?)).map Prod.fst

/-- A request that is sent at a step is that of a call that has not sent it yet. -/
theorem Running.unposted_of_request (hr : Running past c)
    (hs : c.Recorded (past.filterMap Moment.note?))
    (hbeat : ∀ frame time, c.heartbeat = .send (.encode frame) time → frame = .ping)
    (h : (c.letter? action).bind (fun l => l.frame.request?) = some (id, call)) :
    ∃ number next stage, action.agent? = some (.task number) ∧
      c.stage? number = some (.call stage next) ∧ stage.unposted? = some id ∧
      underway (.task number) (past.filterMap Moment.note?) = some ⟨call, some id⟩ := by
  obtain ⟨l, hl, hreq⟩ := Option.bind_eq_some_iff.mp h
  obtain ⟨number, next, hagent, hstage, hu⟩ := hr.underway_of_letter hs hbeat hl hreq
  exact ⟨number, next, _, hagent, hstage, rfl, hu⟩

/-- A call that goes on and has not sent its request has an identifier that is in no request. -/
theorem Posted.unposted_of_callStep (hp : Posted past c) {stage stage' : CallStage}
    {next : Except ChannelError Reply → Routine ω ρ Unit} {choice : Choice} {e : Channel ω ρ}
    (hstage : c.stage? number = some (.call stage next))
    (hcall : c.callStep (.task number) stage choice = some (e, events, .more stage'))
    (hn : (drawnIds (past.filterMap Moment.note? ++
      (c.note? (.agent (.task number) choice)).toList)).Nodup)
    (hu : stage'.unposted? = some id) :
    c.letter? (.agent (.task number) choice) = none ∧
      id ∉ (requestsOf (past.filterMap Moment.letter?)).map Prod.fst := by
  obtain ⟨hsilent, hcase⟩ := Channel.unposted_of_callStep hcall hu
  refine ⟨letter?_of_silent fun b hb => ?_, fun hmem => ?_⟩
  · cases hb
    simp only [sending?, hstage, Option.bind_some, Stage.sending?, hsilent]
  rcases hcase with hu' | hdrew
  · exact hp.unposted number stage next id hstage hu' hmem
  · -- The identifier is new, and those of the requests are not.
    obtain ⟨⟨id, call⟩, hsent, rfl⟩ := List.mem_map.mp hmem
    obtain ⟨a, ha⟩ := hp.drawn id call hsent
    have hnote : c.note? (.agent (.task number) choice) = some (.drew (.task number) id) := by
      rw [note?, hstage]
      simp only [hcall, Option.bind_some, hdrew]
    rw [hnote, drawnIds, List.filterMap_append, List.nodup_append] at hn
    exact hn.2.2 id ha.mem_drawnIds id (by simp [Note.drawn?]) rfl

theorem Posted.step (hr : Running past c) (hs : c.Recorded (past.filterMap Moment.note?))
    (hbeat : ∀ frame time, c.heartbeat = .send (.encode frame) time → frame = .ping)
    (hp : Posted past c) (h : c.step action = some (d, events))
    (hn : (drawnIds (past.filterMap Moment.note? ++ (c.note? action).toList)).Nodup) :
    Posted (past ++ [⟨c, action, d, events⟩]) d := by
  have hnew : ∀ {id call}, (c.letter? action).bind (fun l => l.frame.request?) = some (id, call) →
      ∃ number next stage, action.agent? = some (.task number) ∧
        c.stage? number = some (.call stage next) ∧ stage.unposted? = some id ∧
        underway (.task number) (past.filterMap Moment.note?) = some ⟨call, some id⟩ :=
    fun hreq => hr.unposted_of_request hs hbeat hreq
  refine ⟨fun id call hmem => ?_, ?_, fun number stage' next id hstage' hu hmem => ?_⟩
  · rw [filterMap_concat, requestsOf_concat, List.mem_append, Option.mem_toList] at hmem
    rw [filterMap_concat]
    rcases hmem with hmem | hmem
    · obtain ⟨a, ha⟩ := hp.drawn id call hmem
      exact ⟨a, ha.append⟩
    · obtain ⟨number, -, -, -, -, -, hu⟩ := hnew hmem
      exact ⟨_, (hr.told.drawnFor hu).append⟩
  · rw [filterMap_concat, requestsOf_concat, List.map_append, List.nodup_append]
    refine ⟨hp.once, ?_, ?_⟩
    · rcases (Moment.letter? _).bind _ with _ | request
      · exact List.nodup_nil
      · exact List.nodup_singleton _
    · rintro id hid id' hid' rfl
      obtain ⟨⟨id, call⟩, hnow, rfl⟩ := List.mem_map.mp hid'
      obtain ⟨number, next, stage, -, hstage, hu, -⟩ := hnew (Option.mem_toList.mp hnow)
      exact hp.unposted number stage next id hstage hu hid
  · rw [filterMap_concat, requestsOf_concat, List.map_append, List.mem_append] at hmem
    rcases call_of_step h hstage' with ⟨hother, hstage⟩ | ⟨choice, rfl, hown⟩
    · rcases hmem with hmem | hmem
      · exact hp.unposted number stage' next id hstage hu hmem
      · -- Another call would have the same identifier.
        obtain ⟨⟨id, call⟩, hnow, rfl⟩ := List.mem_map.mp hmem
        obtain ⟨number', -, -, hagent, -, -, hu'⟩ := hnew (Option.mem_toList.mp hnow)
        obtain ⟨call', hcall'⟩ := underway_of_unposted (hs number _ next hstage) hu
        obtain ⟨heq, -⟩ := (hr.told.drawnFor hu').unique (nodup_drawnIds_of_append hn)
          (hr.told.drawnFor hcall')
        exact hother (heq ▸ hagent)
    · rcases hown with ⟨call, rfl, -⟩ | ⟨stage, e, hstage, hcall⟩
      · cases hu
      obtain ⟨hletter, hnot⟩ := hp.unposted_of_callStep hstage hcall hn hu
      rw [Moment.letter?, hletter] at hmem
      rcases hmem with hmem | hmem
      · exact hnot hmem
      · cases hmem

/-- **The requests of a run** belong to the calls that have drawn their identifiers, one to each at
most, as long as no identifier is drawn twice. -/
theorem posted_after (hd : ((start setup world guarded).after actions).closing = false)
    (hl : (start setup world guarded).Unbroken actions)
    (hn : (drawnIds ((start setup world guarded).history actions)).Nodup) :
    Posted ((start setup world guarded).moments actions)
      ((start setup world guarded).after actions) := by
  refine open_induction (P := fun past c => (drawnIds (past.filterMap Moment.note?)).Nodup →
    Posted past c) (fun _ => ⟨by simp [requestsOf], by simp [requestsOf], by simp [requestsOf]⟩) ?_
    hd hl hn
  intro first action d events hc hfirst hp h _ _ hn
  rw [filterMap_concat] at hn
  exact (hp (nodup_drawnIds_of_append hn)).step (running_after hc hfirst)
    (recorded_after hc hfirst) (ping_after setup world guarded first) h hn

end Channel

end CommandLink
