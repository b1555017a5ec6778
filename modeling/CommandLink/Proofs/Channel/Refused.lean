import CommandLink.Proofs.Channel.Refusal

/-!
# A refused frame leaves no trace

After a call that has been refused for the size of its request, the channel is alike to one on which
the call has not been made and its task has been told the error at once: a channel is alike to itself
under every renumbering that keeps what has been drawn (`alike_self`), and the next identifier has
not been. So all that comes later is the same but for identifiers. The main result is
`refused_frame_leaves_no_trace`.
-/

namespace CommandLink

namespace Channel

variable {ω ρ : Type} {c d : Channel ω ρ} {number : ℕ}

/-! ## A channel and itself -/

variable {r : Renumbering} {events : List (Event ρ)} {a : Agent} {choice : Choice}

theorem alike_start (hahead : r.ahead = 0) (setup : ChannelSetup ω ρ) (world : ω) (guarded : Bool) :
    (start setup world guarded).Alike r (start setup world guarded) where
  setup := rfl
  world := rfl
  clock := rfl
  nextId := by rw [hahead, UInt64.add_zero]
  pending := rfl
  arrived _ _ _ _ := rfl
  properties := rfl
  closing := rfl
  cancelled := rfl
  writer := rfl
  guarded := rfl
  inboxEnded := rfl
  reader := .read _ _
  heartbeat := by
    unfold start
    dsimp only
    split
    · split
      · exact .stopped
      · exact .wait _
    · exact .stopped
  tasks := .nil

/-- A renumbering that does not change a channel keeps the identifiers that are waited for. -/
theorem Alike.pending_self (h : c.Alike r c) {id : CallId} (hp : c.pending.get? id = some a) :
    r id = id := by
  have hkeys : c.pending.keys.map r = c.pending.keys.map fun id => id := by
    rw [List.map_id', ← h.pending.keys]
  refine List.map_inj_left.mp hkeys id ((Table.mem_keys_iff _ _).mpr ?_)
  rw [hp]
  rfl

theorem encode_alike {frame₁ frame₂ : Frame}
    (h : SendStage.Alike r (.encode frame₁) (.encode frame₂)) :
    frame₁ = frame₂.renameRequest r := by
  cases h
  rfl

/-- An agent goes on as it does, under identifiers that are kept. -/
theorem Alike.agentsAlike_self (h : c.Alike r c)
    (hstep : c.step (.agent a choice) = some (d, events))
    (hdrawn : ∀ b id, c.note? (.agent a choice) = some (.drew b id) → r id = id) :
    AgentsAlike r c c a choice choice where
  sends := by
    refine ⟨.same choice, ?_, fun frame hframe e => ?_⟩
    · rintro rest₁ rest₂ count₁ count₂ hrest₁ hrest₂ rfl hcount
      rw [hrest₁] at hrest₂
      cases hrest₂
      cases hcount
      exact Iff.rfl
    · have hsending := h.sending? a
      rw [hframe] at hsending
      rw [← encode_alike (Option.rel_some_some.mp hsending)]
  intake _ _ := by
    cases hi : c.intake with
    | nothing => exact .nothing
    | part => exact .part
    | fault => exact .fault
    | frame frame =>
      refine .frame ?_
      cases frame with
      | response id result =>
        rcases hp : c.pending.get? id with _ | b
        · exact .unknown hp hp
        · have hsame : FramesAlike r c c ((Frame.response id result).renameResponse r)
            (.response id result) := .same _
          rwa [Frame.renameResponse, h.pending_self hp] at hsame
      | request id call => exact .same (.request id call)
      | property name value => exact .same (.property name value)
      | ping => exact .same .ping
  draws hd := by
    obtain ⟨number, call, next, rfl, hs⟩ := hd
    cases choice with
    | go =>
      refine (hdrawn (.task number) c.nextId ?_).symm
      simp only [note?, hs]
      rfl
    | _ =>
      obtain ⟨e, stage, hdraw, -⟩ := step_of_stage? hs hstep
      cases hdraw

/-- A renumbering that keeps every identifier that has been drawn changes nothing in a channel. -/
theorem alike_self (r : Renumbering) (hahead : r.ahead = 0) (setup : ChannelSetup ω ρ) (world : ω)
    (guarded : Bool) (actions : List (Action ω ρ))
    (hr : ∀ id ∈ drawnIds ((start setup world guarded).history actions), r id = id) :
    ((start setup world guarded).after actions).Alike r
      ((start setup world guarded).after actions) := by
  refine run_induction (P := fun past d => (∀ id ∈ drawnIds (past.filterMap Moment.note?),
    r id = id) → d.Alike r d) _ (fun _ => alike_start hahead setup world guarded) ?_ actions hr
  intro past d action e events ih hstep hkept
  rw [filterMap_concat, drawnIds, List.filterMap_append] at hkept
  have hd := ih fun id hid => hkept id (List.mem_append_left _ hid)
  have haction : ActionsAlike (AgentsAlike r d d) action action := by
    cases action with
    | agent a choice =>
      refine .agent (hd.agentsAlike_self hstep fun b id hnote => hkept id ?_)
      refine List.mem_append_right _ ?_
      simp [Moment.note?, hnote, Note.drawn?]
    | deliver bytes => exact .deliver bytes bytes
    | endInput => exact .endInput
    | start routine => exact .start routine
    | elapse millis => exact .elapse millis
  have hnext := hd.step haction
  rw [hstep] at hnext
  exact (Option.rel_some_some.mp hnext).1

/-! ## The next identifier -/

/-- Calls wait under identifiers that have been registered. -/
theorem registered_of_pending (setup : ChannelSetup ω ρ) (world : ω) (guarded : Bool)
    (actions : List (Action ω ρ)) {id : CallId}
    (hp : ((start setup world guarded).after actions).pending.get? id = some a) :
    id ∈ registeredIds ((start setup world guarded).history actions) := by
  refine ledger_induction (P := fun l h => ∀ id a, l.pending.get? id = some a →
    id ∈ registeredIds h) setup world guarded ?_ ?_ ?_ actions id a hp
  · intro id a hp
    cases hp
  · intro l l' h note? ih hturn id a hp
    have hkept : l.pending.get? id = some a → id ∈ registeredIds (h ++ note?.toList) := fun hp => by
      rw [registeredIds, List.filterMap_append]
      exact List.mem_append_left _ (ih id a hp)
    cases hturn with
    | closed | response => exact hkept (Ledger.get?_pending_of_settle hp).1
    | broke | withdrew => exact hkept (Ledger.get?_pending_of_forget hp)
    | registered b id' hs =>
      simp only [Ledger.stand_pending, Table.get?_insert] at hp
      split_ifs at hp with hid
      · subst hid
        simp [registeredIds, Note.registered?]
      · exact hkept hp
    | _ => exact hkept hp
  · intro l l' h ih hends id a hp
    rw [hends.pending] at hp
    exact ih id a hp

/-- An identifier that has been drawn is not the next one, as long as there are identifiers. -/
theorem nextId_not_drawn {l : Ledger} {h : List Note} (hn : Numbered l h)
    (hlen : (drawnIds h).length < UInt64.size) : l.nextId ∉ drawnIds h := by
  have hdrew := hn.drew .reader
  have happend : drawnIds (h ++ [.drew .reader l.nextId]) = drawnIds h ++ [l.nextId] := by
    simp [drawnIds, Note.drawn?]
  have hnodup := hdrew.nodup (by rwa [happend, List.length_append])
  rw [happend, List.nodup_append] at hnodup
  exact fun hmem => hnodup.2.2 _ hmem _ (List.mem_singleton_self _) rfl

/-- To skip the next identifier keeps those that have been drawn, as long as there are
identifiers. -/
theorem skipping_of_drawn {l : Ledger} {h : List Note} (hn : Numbered l h)
    (hlen : (drawnIds h).length < UInt64.size) {id : CallId} (hid : id ∈ drawnIds h) :
    Renumbering.skipping l.nextId id = id := by
  change (if id = 0 then l.nextId else if id < l.nextId ∨ l.nextId = 0 then id else id + 1) = id
  rw [hn.drawn, List.mem_map] at hid
  obtain ⟨i, hi, rfl⟩ := hid
  rw [List.mem_range] at hi
  rw [UInt64.size] at hlen
  have hnat : (UInt64.ofNat (i + 1)).toNat = i + 1 := by
    rw [UInt64.toNat_ofNat']
    omega
  have hnext : l.nextId.toNat = ((drawnIds h).length + 1) % 18446744073709551616 := by
    rw [hn.next, UInt64.toNat_ofNat']
  rw [if_neg, if_pos]
  · rw [UInt64.lt_iff_toNat_lt, ← UInt64.toNat_inj, hnat, hnext]
    simp only [UInt64.reduceToNat]
    omega
  · rw [← UInt64.toNat_inj, hnat]
    simp

/-! ## A refused call and none -/

section Reachable

variable (setup : ChannelSetup ω ρ) (world : ω) (guarded : Bool) {past : List (Action ω ρ)}

/-- No call waits under the next identifier, as long as there are identifiers. -/
theorem not_pending_nextId
    (hids : (drawnIds ((start setup world guarded).history past)).length < UInt64.size) :
    let c := (start setup world guarded).after past
    c.pending.get? c.nextId = none := by
  intro c
  have hnumbered := (sound_history setup world guarded past).numbered
  rw [Option.eq_none_iff_forall_ne_some]
  intro b hb
  have hregistered := registered_of_pending setup world guarded past hb
  exact nextId_not_drawn hnumbered hids
    ((hnumbered.registered (hnumbered.nodup (Nat.le_of_lt hids))).2.1 hregistered)

/-- A channel after a refused call is alike to one on which the call has not been made. -/
theorem alike_of_refused
    (hids : (drawnIds ((start setup world guarded).history past)).length < UInt64.size)
    (hlt : number < ((start setup world guarded).after past).tasks.length)
    (routine : Routine ω ρ Unit) :
    let c := (start setup world guarded).after past
    ({ c.setStage number (.ready routine) with
        nextId := c.nextId + 1
        arrived := c.arrived.erase (.task number) } : Channel ω ρ).Alike
      (.skipping c.nextId) (c.setStage number (.ready routine)) := by
  intro c
  have hnumbered := (sound_history setup world guarded past).numbered
  have hself := alike_self
    { Renumbering.skipping ((start setup world guarded).after past).nextId with ahead := 0 }
    rfl setup world guarded past fun id hid => skipping_of_drawn hnumbered hids hid
  have htold := hself.setStage (.ready routine) number fun id failure hw => by cases hw
  exact { htold with
    nextId := rfl
    arrived := fun a id failure hw => by
      rw [Table.get?_erase, if_neg]
      · rfl
      · rintro rfl
        rw [standing_task_of_stage? (stage?_setStage_self _ hlt)] at hw
        cases hw }

/-- **A refused frame leaves no trace.** At any time in a run, let a task be about to make a call
whose request is over the limit, or to publish a property that is.

* Left alone on an open channel, the call returns with the length of its request and the limit, and
  has shown nothing. The channel is as before, but for the next identifier, under which nobody waits,
  and a result that nobody waits for.
* As long as there are identifiers, nobody has waited under this one before. Whatever comes then, it
  makes the same run as on a channel on which the call has not been made and the task has been told
  the error at once, but for identifiers.
* Left alone, the publisher is told the length and the limit, and nothing else has changed.
* If others act in between, the steps until the task hears of its refusal go unnoticed by them, and
  nobody can keep it from hearing of it. -/
theorem refused_frame_leaves_no_trace (past : List (Action ω ρ)) (number : ℕ) :
    let c := (start setup world guarded).after past
    (∀ call next, c.stage? number = some (.ready (.ask (.call call) next)) → c.closing = false →
      setup.frameLimit < (Frame.request c.nextId call).body.length →
      let refused := refusal setup.frameLimit (.request c.nextId call)
      let told := c.setStage number (.ready (next (.error refused)))
      Quietly c (goOn number 7)
        [.began (.task number) call, .drew (.task number) c.nextId,
          .registered (.task number) c.nextId, .completed (.task number) (.error refused)]
        { told with
          nextId := c.nextId + 1
          pending := c.pending.erase c.nextId
          arrived := c.arrived.erase (.task number) } ∧
      ((drawnIds ((start setup world guarded).history past)).length < UInt64.size →
        c.pending.erase c.nextId = c.pending ∧
        ∀ pairs, Alongside c.nextId (c.after (goOn number 7)) told pairs →
          SameRun (.skipping c.nextId) (c.after (goOn number 7)) told
            (pairs.map Prod.fst) (pairs.map Prod.snd))) ∧
    (∀ name value next, c.stage? number = some (.ready (.ask (.publish name value) next)) →
      setup.frameLimit < (Frame.property name value).body.length →
      Quietly c (goOn number 2) [] (c.setStage number
        (.ready (next (.error (refusal setup.frameLimit (.property name value))))))) ∧
    ∀ routine, c.stage? number = some (.ready routine) → routine.Oversized setup.frameLimit →
      ∀ actions,
        (c.heard actions number = [] → (c.after actions).stage? number = some .done ∨
          turnsOf (.task number) (c.moments actions) < refusalSteps routine ∧
            ((c.after actions).step (.agent (.task number) .go)).isSome) ∧
        ∀ before m later, c.moments actions = before ++ m :: later →
          before.filterMap (Moment.heard? number) = [] → m.action.agent? = some (.task number) →
          ∃ id?, id?.toList = drawnBy (.task number) before ∧
            Refusing number routine id? m.before m.action m.after m.events := by
  intro c
  have hlimit : c.setup.frameLimit = setup.frameLimit :=
    congrArg ChannelSetup.frameLimit (setup_after _ past)
  rw [← hlimit]
  refine ⟨fun call next hs hopen hbig => ?_, fun name value next hs hbig => quietly_publish hs hbig,
    fun routine hs hbig => refused_in_any_order hs hbig⟩
  have hquiet := quietly_call hs hopen hbig
  refine ⟨hquiet, fun hids => ?_⟩
  have hfresh := Table.erase_of_none (not_pending_nextId setup world guarded hids)
  refine ⟨hfresh, fun pairs hp => ?_⟩
  have halike := alike_of_refused setup world guarded hids (lt_of_stage? hs)
    (next (.error (refusal c.setup.frameLimit (.request c.nextId call))))
  rw [hquiet.after, hfresh] at hp ⊢
  exact halike.sameRun (or_iff_not_imp_left.mpr fun hne => ⟨hne, UInt64.le_refl _⟩) hp

end Reachable

/-- A link that takes small frames only. -/
def narrowLink : ChannelSetup Unit Unit := ⟨"link", .direct, 64, 0, Handler.refuseAll⟩

/-- A call that asks for more than fits into a small frame. -/
def largeCall : Call := .hasCommand (String.ofList (List.replicate 64 'x'))

/-- A routine makes a call that is too large, and then another. -/
def asksAgain : Routine Unit Unit Unit := .ask (.call largeCall) fun _ => do
  let _ ← Routine.call .readBuildToken
  return ()

/-- The other call of a routine is sent. -/
def sendsOther : List (Action Unit Unit × Action Unit Unit) :=
  let one (choice : Choice) : Action Unit Unit := .agent (.task 0) choice
  (List.replicate 7 (one .go) ++ [one (.write 100), one .go]).map fun action => (action, action)

/-- A routine whose first call is too large is told so, and its other call is sent as it would be
without the first. -/
theorem refused_frame_leaves_no_trace_asksAgain :
    let opened := start narrowLink () false
    let c := opened.after [.start asksAgain]
    let told := c.setStage 0 (.ready (do
      let _ ← Routine.call .readBuildToken
      return ()))
    (drawnIds (opened.history [.start asksAgain])).length < UInt64.size ∧ c.closing = false ∧
    c.stage? 0 = some (.ready asksAgain) ∧ 64 < (Frame.request c.nextId largeCall).body.length ∧
    Alongside c.nextId (c.after (goOn 0 7)) told sendsOther ∧
    c.shownIn (goOn 0 7) = [] ∧
    SameRun (.skipping c.nextId) (c.after (goOn 0 7)) told (sendsOther.map Prod.fst)
      (sendsOther.map Prod.snd) ∧
    ((c.after (goOn 0 7)).sent (sendsOther.map Prod.fst)).length = 1 := by
  intro opened c told
  have hids : (drawnIds (opened.history [.start asksAgain])).length < UInt64.size := by
    decide +kernel
  have hbig : 64 < (Frame.request c.nextId largeCall).body.length := by decide +kernel
  have halong : Alongside c.nextId (c.after (goOn 0 7)) told sendsOther := by
    refine ⟨?_, ?_, ?_, ?_, ?_, ?_, ?_, ?_, ?_, trivial⟩
    case refine_8 =>
      exact .agent (.write nofun (by decide +kernel) (by decide +kernel) (by decide +kernel))
    all_goals exact .agent (.go nofun (by decide +kernel) (by decide +kernel))
  have h := (refused_frame_leaves_no_trace narrowLink () false [.start asksAgain] 0).1 largeCall _
    rfl rfl hbig
  exact ⟨hids, rfl, rfl, hbig, halong, h.1.shown, (h.2 hids).2 _ halong, by decide +kernel⟩

end Channel

end CommandLink
