import CommandLink.Proofs.Channel.Delivery
import CommandLink.Proofs.Channel.Returns

/-!
# What a channel promises to its calls

A channel that closes fails the calls that wait, and no call is left waiting after that
(`Orderly.canReturn`), whenever it was made. What comes too late has no effect. With what calls are
bound to return this is `closing_complete`.
-/

namespace CommandLink

variable {ω ρ : Type}

/-- The error that a call returns with whose request has not been sent. -/
def CallStage.error? : CallStage → Option ChannelError
  | .giveUp _ error => some error
  | .shut error _ => some error
  | _ => none

namespace Channel

variable {c d : Channel ω ρ} {action : Action ω ρ} {events : List (Event ρ)} {number : ℕ}
  {result : Except ChannelError Reply}

/-! ## No call is left waiting -/

/-- A call that waits for its response does not wait any more when all have been failed. -/
theorem Orderly.not_waiting (ho : Orderly c) (hd : c.Drained) {id : CallId}
    {next : Except ChannelError Reply → Routine ω ρ Unit}
    (hs : c.stage? number = some (.call (.await id) next)) (id' : CallId) :
    c.pending.get? id' ≠ some (.task number) := by
  intro hp
  obtain ⟨number', heq, ⟨call, next', hs'⟩ | hdone⟩ := ho.not_pending hd hp
  · cases heq
    rw [hs] at hs'
    cases hs'
  · cases heq
    rw [hs] at hdone
    cases hdone

/-- A call that was being sent when everyone was told gives up. -/
theorem canReturn_sent {id : CallId} {stage : SendStage}
    {next : Except ChannelError Reply → Routine ω ρ Unit} (hx : c.cancelled = true)
    (he : ∀ frame, stage ≠ .encode frame)
    (hs : c.stage? number = some (.call (.send id stage) next)) :
    c.CanReturn number (.error .closed) := by
  have hcall : c.callStep (.task number) (.send id stage) .abandon =
      some (c.leaveWriter (.task number), [], .more (.giveUp id .closed)) :=
    callStep_iff.mpr (.unsent (sendStep_iff.mpr (.abandon he hx)))
  exact canReturn_of_more .abandon hs hcall fun _ _ hs => canReturn_failed hs

/-- **No call is left waiting** when closing has failed the calls that waited. -/
theorem Orderly.canReturn (ho : Orderly c) (hd : c.Drained) {stage : CallStage}
    {next : Except ChannelError Reply → Routine ω ρ Unit}
    (hs : c.stage? number = some (.call stage next)) : ∃ result, c.CanReturn number result := by
  have hx := ho.cancelled_of_drained hd
  cases stage with
  | check call => exact ⟨_, canReturn_unsent hs rfl hd.1⟩
  | draw call => exact ⟨_, canReturn_unsent hs rfl hd.1⟩
  | register id call => exact ⟨_, canReturn_unsent hs rfl hd.1⟩
  | recheck id call => exact ⟨_, canReturn_unsent hs rfl hd.1⟩
  | send id stage =>
    cases stage with
    | encode frame =>
      rcases hwire : frame.wire c.setup.frameLimit with e | bytes
      · have hcall : c.callStep (.task number) (.send id (.encode frame)) .go =
            some (c, [], .more (.giveUp id (.protocol e))) :=
          callStep_iff.mpr (.unsent (sendStep_iff.mpr (.refuse hwire)))
        exact ⟨_, canReturn_of_more .go hs hcall fun _ _ hs => canReturn_failed hs⟩
      · have hcall : c.callStep (.task number) (.send id (.encode frame)) .go =
            some ({ c with writer := c.writer.enqueue (.task number) }, [],
              .more (.send id (.queued bytes))) :=
          callStep_iff.mpr (.send (sendStep_iff.mpr (.join hwire)))
        refine ⟨.error .closed, canReturn_of_more .go hs hcall fun e he hs => ?_⟩
        exact canReturn_sent (by rw [he]; exact hx) (by simp) hs
    | queued bytes => exact ⟨_, canReturn_sent hx (by simp) hs⟩
    | write rest => exact ⟨_, canReturn_sent hx (by simp) hs⟩
    | flush => exact ⟨_, canReturn_sent hx (by simp) hs⟩
  | giveUp id error => exact ⟨_, canReturn_failed hs⟩
  | shut error stage => exact ⟨_, canReturn_shut stage hs⟩
  | await id => exact ⟨_, canReturn_settled hs (ho.not_waiting hd hs id)⟩

/-! ## Closing goes on -/

/-- An agent that closes the channel goes on where nothing holds it up. -/
theorem step_of_closing? {a : Agent} {stage stage' : CloseStage} (hs : c.closing? a = some stage)
    (hclose : c.closeStep a stage .go = some (d, events, .more stage')) :
    ∃ e, c.step (.agent a .go) = some (e, events) ∧ e.closing? a = some stage' := by
  cases a with
  | reader =>
    have hreader : c.reader = .close stage := by
      simp only [closing?, ReaderStage.closing?] at hs
      split at hs
      · cases hs
        assumption
      · cases hs
    refine ⟨{ d with reader := .close stage' }, ?_, rfl⟩
    simp only [step, agentStep, hreader, readerStep, hclose, Option.map_some]
  | heartbeat => cases hs
  | task number =>
    obtain ⟨s, hstage, hs⟩ := Option.bind_eq_some_iff.mp hs
    have hlt : number < d.tasks.length := (leaves_closeStep hclose).length ▸ lt_of_stage? hstage
    unfold Stage.closing? at hs
    split at hs
    · rename_i next
      cases hs
      refine ⟨d.setStage number (.close stage' next), ?_, ?_⟩
      · simp only [step, agentStep, hstage, taskStep, hclose, Option.map_some]
      · simp only [closing?, stage?_setStage_self _ hlt]
        rfl
    · rename_i callStage next
      unfold CallStage.closing? at hs
      split at hs
      · rename_i error closeStage
        cases hs
        refine ⟨d.setStage number (.call (.shut error stage') next), ?_, ?_⟩
        · simp only [step, agentStep, hstage, taskStep, callStep, hclose, Option.map_some]
        · simp only [closing?, stage?_setStage_self _ hlt]
          rfl
      · cases hs
    · cases hs

/-- The agent that closes the channel can go on until all the calls that waited have failed. -/
def CanDrain (c : Channel ω ρ) (a : Agent) : Prop :=
  ∃ actions : List (Action ω ρ), (∀ action ∈ actions, action = .agent a .go) ∧
    (c.after actions).Drained

theorem canDrain_of_step {a : Agent} (h : c.step (.agent a .go) = some (d, events))
    (hd : d.CanDrain a) : c.CanDrain a := by
  obtain ⟨actions, hown, hdrained⟩ := hd
  refine ⟨.agent a .go :: actions, fun b hb => ?_, by rwa [after_cons_of_step h]⟩
  rcases List.mem_cons.mp hb with rfl | hb
  · rfl
  · exact hown b hb

theorem Orderly.canDrain_drain (ho : Orderly c) {a : Agent} (ids : List CallId)
    (hs : c.closing? a = some (.drain ids)) : c.CanDrain a := by
  induction ids generalizing c with
  | nil =>
    obtain ⟨d, h, hd⟩ := step_of_closing? hs rfl
    have ho' := ho.step h
    refine canDrain_of_step h ⟨[], fun _ hb => (List.not_mem_nil hb).elim, ?_, fun b t hb => ?_⟩
    · exact ho'.begun a _ hd (by simp)
    · by_cases ht : t = .enter
      · rw [ht]
        rfl
      · rw [ho'.one b a t _ hb ht hd (by simp), after_nil, hd] at hb
        cases hb
        rfl
  | cons id ids ih =>
    obtain ⟨d, h, hd⟩ := step_of_closing? hs rfl
    exact canDrain_of_step h (ih (ho.step h) hd)

/-- **Closing is never held up** before all the calls that waited have failed. -/
theorem Orderly.canDrain (ho : Orderly c) (hc : c.closing = true) : ∃ a, c.CanDrain a := by
  have hsnapshot : ∀ {d : Channel ω ρ} {a}, Orderly d → d.closing? a = some .snapshot →
      d.CanDrain a := by
    intro d a ho hs
    obtain ⟨e, h, he⟩ := step_of_closing? hs rfl
    exact canDrain_of_step h ((ho.step h).canDrain_drain _ he)
  have hnotify : ∀ {d : Channel ω ρ} {a}, Orderly d → d.closing? a = some .notify →
      d.CanDrain a := by
    intro d a ho hs
    obtain ⟨e, h, he⟩ := step_of_closing? hs rfl
    exact canDrain_of_step h (hsnapshot (ho.step h) he)
  by_cases hd : c.Drained
  · exact ⟨.reader, [], fun _ hb => (List.not_mem_nil hb).elim, hd⟩
  · obtain ⟨a, stage, hs, hdrains⟩ : ∃ a stage, c.closing? a = some stage ∧
        stage.drains = true := by
      by_contra hnone
      refine hd ⟨hc, fun a stage hs => ?_⟩
      rw [← Bool.not_eq_true]
      exact fun hdrains => hnone ⟨a, stage, hs, hdrains⟩
    refine ⟨a, ?_⟩
    cases stage
    case cancel =>
      obtain ⟨e, h, he⟩ := step_of_closing? hs rfl
      exact canDrain_of_step h (hnotify (ho.step h) he)
    case notify => exact hnotify ho hs
    case snapshot => exact hsnapshot ho hs
    case drain ids => exact ho.canDrain_drain ids hs
    all_goals cases hdrains

/-! ## Why requests are not sent -/

/-- The request of a call has not been sent for a reason of its own: the link has refused it, or it
is no frame that may be sent. -/
def Refused (past : List (Moment ω ρ)) (number : ℕ)
    (next : Except ChannelError Reply → Routine ω ρ Unit) (error : ChannelError) : Prop :=
  ∃ m ∈ past, ∃ id stage choice, m.action = .agent (.task number) choice ∧
    m.before.stage? number = some (.call (.send id stage) next) ∧
    ((∃ e, choice = .fail e ∧ error = .transport e) ∨
      ∃ frame e, stage = .encode frame ∧ frame.wire m.before.setup.frameLimit = .error e ∧
        error = .protocol e)

theorem Refused.append {past later : List (Moment ω ρ)}
    {next : Except ChannelError Reply → Routine ω ρ Unit} {error : ChannelError}
    (h : Refused past number next error) : Refused (past ++ later) number next error := by
  obtain ⟨m, hm, hrefused⟩ := h
  exact ⟨m, List.mem_append_left _ hm, hrefused⟩

/-- A task comes to make a call by beginning it, or goes on with it. -/
theorem taskStep_call {a : Agent} {choice : Choice} {stage : Stage ω ρ} {stage' : CallStage}
    {next : Except ChannelError Reply → Routine ω ρ Unit}
    (h : c.taskStep a stage choice = some (d, events, .call stage' next)) :
    (∃ call, stage' = .check call ∧ stage = .ready (.ask (.call call) next)) ∨
      ∃ s, stage = .call s next ∧ c.callStep a s choice = some (d, events, .more stage') := by
  generalize hstage : Stage.call stage' next = stage'' at h
  cases taskStep_iff.mp h with
  | @ask op next' =>
    cases op
    case call call =>
      cases hstage
      exact .inl ⟨call, rfl, rfl⟩
    all_goals cases hstage
  | call hcall =>
    cases hstage
    exact .inr ⟨_, rfl, hcall⟩
  | _ => cases hstage

/-- A task that is making a call was making it, and others have acted, or it has begun the call or
gone on with it. -/
theorem call_of_step {stage' : CallStage} {next : Except ChannelError Reply → Routine ω ρ Unit}
    (h : c.step action = some (d, events)) (hs : d.stage? number = some (.call stage' next)) :
    (action.agent? ≠ some (.task number) ∧ c.stage? number = some (.call stage' next)) ∨
    ∃ choice, action = .agent (.task number) choice ∧
      ((∃ call, stage' = .check call ∧ c.stage? number = some (.ready (.ask (.call call) next))) ∨
        ∃ stage e, c.stage? number = some (.call stage next) ∧
          c.callStep (.task number) stage choice = some (e, events, .more stage')) := by
  by_cases ha : action.agent? = some (.task number)
  · right
    obtain ⟨choice, rfl⟩ := exists_choice_of_agent? ha
    refine ⟨choice, rfl, ?_⟩
    obtain ⟨t, e, stage, ht, hstep, rfl, ht'⟩ := step_own h
    have hwas := stage?_task ht
    obtain rfl : stage = .call stage' next := by
      rw [stage?, ht', Option.map_some, Option.some.injEq] at hs
      exact hs
    rw [hwas]
    rcases taskStep_call hstep with ⟨call, hcheck, hready⟩ | ⟨stage, hcalls, hcall⟩
    · exact .inl ⟨call, hcheck, congrArg some hready⟩
    · exact .inr ⟨stage, e, congrArg some hcalls, hcall⟩
  · refine .inl ⟨ha, ?_⟩
    have hothers := step_others h
    obtain ⟨t', ht', hstage⟩ := Option.map_eq_some_iff.mp hs
    rcases ht : c.tasks[number]? with _ | t
    · obtain ⟨-, hspawned⟩ := hothers.new number t' ht ht'
      cases hspawned
      · cases hstage
      · cases hstage
    · obtain ⟨t'', ht'', hleft⟩ := hothers.task number t ht ha
      rw [ht', Option.some.injEq] at ht''
      subst ht''
      rw [stage?, ht, Option.map_some, Option.some.injEq]
      cases hleft with
      | kept => exact hstage
      | woken =>
        generalize t.stage = stage at hstage ⊢
        cases stage
        case call => exact hstage
        all_goals cases hstage
      | ended => cases hstage

/-- A request is not sent because the channel is closing, or for a reason of its own. -/
def Excused (past : List (Moment ω ρ)) (c : Channel ω ρ) : Prop :=
  ∀ number stage next error, c.stage? number = some (.call stage next) →
    stage.error? = some error → error = .closed ∨ Refused past number next error

theorem Excused.step {past : List (Moment ω ρ)} (he : Excused past c)
    (h : c.step action = some (d, events)) :
    Excused (past ++ [⟨c, action, d, events⟩]) d := by
  intro number stage' next error hs herror
  rcases call_of_step h hs with ⟨-, hwas⟩ | ⟨choice, rfl, ⟨call, rfl, -⟩ | ⟨stage, e, hwas, hcall⟩⟩
  · exact (he number stage' next error hwas herror).imp_right Refused.append
  · cases herror
  · have hkept : ∀ error', stage.error? = some error' → error = error' →
        error = .closed ∨ Refused (past ++ [⟨c, .agent (.task number) choice, d, events⟩]) number
          next error := by
      rintro _ hsame rfl
      exact (he number stage next error hwas hsame).imp_right Refused.append
    cases callStep_iff.mp hcall with
    | @unsent id send _ _ _ _ hsend =>
      cases herror
      rcases sendStep_failure hsend with hclosed | hrefused
      · exact .inl hclosed
      · exact .inr ⟨_, List.mem_append_right _ (List.mem_singleton_self _), id, send, choice, rfl,
          hwas, hrefused⟩
    | breakOff | shut =>
      cases herror
      exact hkept _ rfl rfl
    | check | draw | register | recheck | send | sent => cases herror

variable (setup : ChannelSetup ω ρ) (world : ω) (guarded : Bool)

theorem excused_after (actions : List (Action ω ρ)) :
    Excused ((start setup world guarded).moments actions)
      ((start setup world guarded).after actions) := by
  refine run_induction (P := Excused) _ (fun number stage next error hs => ?_)
    (fun past c action d events he h => he.step h) actions
  cases hs

/-- How a call returns: because the channel is closing, with its error, with the result that has
arrived for it, or because it no longer waits. -/
theorem callStep_finished {a : Agent} {choice : Choice} {stage : CallStage}
    (h : c.callStep a stage choice = some (d, events, .finished result)) :
    (result = .error .closed ∧ c.closing = true) ∨
      (∃ error, stage.error? = some error ∧ result = .error error) ∨
      ∃ id, stage = .await id ∧ (c.arrived.get? a = some result ∨
        result = .error .closed ∧ c.arrived.get? a = none ∧ c.pending.get? id ≠ some a) := by
  cases callStep_iff.mp h with
  | refuse hc | withdraw hc => exact .inl ⟨rfl, hc⟩
  | giveUp | fail => exact .inr (.inl ⟨_, rfl, rfl⟩)
  | answer harrived => exact .inr (.inr ⟨_, rfl, .inl harrived⟩)
  | lose harrived hpending => exact .inr (.inr ⟨_, rfl, .inr ⟨rfl, harrived, hpending⟩⟩)

/-- A task whose call returns was making it, and the call had come to one of its ends. -/
theorem stage_of_completed_cases {a : Agent}
    (hnote : c.note? action = some (.completed a result)) :
    ∃ number stage next, a = .task number ∧ c.stage? number = some (.call stage next) ∧
      ((result = .error .closed ∧ c.closing = true) ∨
        (∃ error, stage.error? = some error ∧ result = .error error) ∨
        ∃ id, stage = .await id ∧ (c.arrived.get? a = some result ∨
          result = .error .closed ∧ c.arrived.get? a = none ∧ c.pending.get? id ≠ some a)) := by
  cases noted_of_note? hnote with
  | completed hs hcall => exact ⟨_, _, _, rfl, hs, callStep_finished hcall⟩

/-- A call returns with the result that has arrived for it, with its error, or because the channel
is closing. -/
theorem stage_of_completed {a : Agent}
    (hnote : c.note? action = some (.completed a result)) :
    result = .error .closed ∨ ∃ number stage next, a = .task number ∧
      c.stage? number = some (.call stage next) ∧
      ((∃ error, stage.error? = some error ∧ result = .error error) ∨
        ∃ id, stage = .await id ∧ c.arrived.get? a = some result) := by
  obtain ⟨number, stage, next, ha, hs, hwhy⟩ := stage_of_completed_cases hnote
  rcases hwhy with ⟨hclosed, -⟩ | herror | ⟨id, hstage, harrived | ⟨hclosed, -, -⟩⟩
  · exact .inl hclosed
  · exact .inr ⟨number, stage, next, ha, hs, .inl herror⟩
  · exact .inr ⟨number, stage, next, ha, hs, .inr ⟨id, hstage, harrived⟩⟩
  · exact .inl hclosed

/-! ## What comes too late -/

/-- Until it returns, a call that is made while the channel is closing shows nothing. -/
theorem silent_of_unsent {stage : Stage ω ρ} (hs : c.stage? number = some stage)
    (hu : stage.unsent = true) (hc : c.closing = true) (actions : List (Action ω ρ))
    (hfind : (c.history actions).find? (Note.completes (.task number)) = none) {choice : Choice}
    (h : (c.after actions).step (.agent (.task number) choice) = some (d, events)) :
    events = [] := by
  induction actions generalizing c stage with
  | nil => exact (keeps_unsent hs hu hc h).1
  | cons action actions ih =>
    rcases hstep : c.step action with _ | ⟨e, events'⟩
    · rw [history_cons_of_disabled hstep] at hfind
      rw [after_cons_of_disabled hstep] at h
      exact ih hs hu hc hfind h
    · rw [after_cons_of_step hstep] at h
      have hc' := closing_of_step hstep hc
      by_cases ha : action.agent? = some (.task number)
      · obtain ⟨choice', rfl⟩ := exists_choice_of_agent? ha
        rcases (keeps_unsent hs hu hc hstep).2 with hnote | ⟨hnote, stage', hs', hu'⟩
        · rw [history_cons_of_step hstep, hnote] at hfind
          simp [Note.completes] at hfind
        · rw [find?_completes_cons hstep hnote] at hfind
          exact ih hs' hu' hc' hfind h
      · rw [find?_completes_cons hstep (not_completes_of_others ha)] at hfind
        rcases (step_others hstep).stage hs (Stage.wake_of_unsent hu) ha with hkept | hended
        · exact ih hkept hu hc' hfind h
        · -- A task that has been ended does not act.
          have hdone : ((e.after actions).stage? number) = some .done :=
            run_induction (P := fun _ d => d.stage? number = some .done) e hended
              (fun _ _ _ _ _ hd hs => (done_of_step hd hs).1) actions
          obtain ⟨_, _, hnever, -⟩ := step_of_stage? hdone h
          cases hnever

/-- Who comes to close a channel that is closing changes nothing. -/
theorem late_of_closing {a : Agent} (hc : c.closing = true) (ha : action.agent? = some a)
    (hs : c.closing? a = some .enter) (h : c.step action = some (d, events)) :
    events = [] ∧ ((a = .reader ∧ d = { c with reader := .stopped }) ∨
      ∃ number stage, a = .task number ∧ d = c.setStage number stage) := by
  have hclose : ∀ {choice e events' progress},
      c.closeStep a .enter choice = some (e, events', progress) →
      e = c ∧ events' = [] ∧ progress = .finished () := by
    intro choice e events' progress hclose
    rcases closeStep_cases hclose with ⟨-, -, rfl, rfl, rfl⟩ | ⟨-, hopen, -⟩ | hcontinues
    · exact ⟨rfl, rfl, rfl⟩
    · rw [hc] at hopen
      cases hopen
    · exact absurd rfl hcontinues.late
  obtain ⟨choice, rfl⟩ := exists_choice_of_agent? ha
  cases a with
  | reader =>
    have hreader : c.reader = .close .enter := by
      simp only [closing?, ReaderStage.closing?] at hs
      split at hs
      · cases hs
        assumption
      · cases hs
    obtain ⟨⟨e, events', stage⟩, hstep, heq⟩ := Option.map_eq_some_iff.mp h
    cases heq
    rw [hreader] at hstep
    obtain ⟨⟨e', events'', progress⟩, hclose', heq⟩ := Option.map_eq_some_iff.mp hstep
    cases heq
    obtain ⟨rfl, rfl, rfl⟩ := hclose hclose'
    exact ⟨rfl, .inl ⟨rfl, rfl⟩⟩
  | heartbeat => cases hs
  | task number =>
    obtain ⟨stage, hstage, hs⟩ := Option.bind_eq_some_iff.mp hs
    obtain ⟨e, stage', hstep, rfl, -⟩ := step_of_stage? hstage h
    suffices e = c ∧ events = [] by
      obtain ⟨rfl, rfl⟩ := this
      exact ⟨rfl, .inr ⟨number, stage', rfl, rfl⟩⟩
    rcases taskStep_closes hstep with ⟨s, p, hs', hclose', -⟩ | ⟨hnone, -⟩
    · rw [hs, Option.some.injEq] at hs'
      subst hs'
      obtain ⟨he, hevents, -⟩ := hclose hclose'
      exact ⟨he, hevents⟩
    · rw [hs] at hnone
      cases hnone

/-- The end of the incoming stream, or a fault in it, only sends the reader to close the channel. -/
theorem late_of_stream {cause : Cause} (hcause : c.cause? action = some cause)
    (hstream : cause = .ended ∨ ∃ e, cause = .unreadable e)
    (h : c.step action = some (d, events)) :
    events = [] ∧ d = { c with inbox := d.inbox, reader := .close .enter } := by
  unfold cause? at hcause
  split at hcause
  · split at hcause
    · rename_i incomplete hreader
      obtain ⟨⟨e, events', stage⟩, hstep, heq⟩ := Option.map_eq_some_iff.mp h
      cases heq
      rw [hreader] at hstep
      cases readerStep_iff.mp hstep with
      | ended | stumble => exact ⟨rfl, rfl⟩
      | read hinbox htake | take hinbox htake =>
        simp only [if_neg hinbox, htake] at hcause
        cases hcause
    · cases hcause
  · split at hcause
    · cases hcause
      rcases hstream with hstream | ⟨e, hstream⟩
      · cases hstream
      · cases hstream
    · cases hcause
  · split at hcause
    · cases hcause
      rcases hstream with hstream | ⟨e, hstream⟩
      · cases hstream
      · cases hstream
    · cases hcause
  · cases hcause

/-! ## What a channel promises -/

/-- A call whose request the link refuses is bound to the error of the link. -/
theorem bound_of_refused {id : CallId} {stage : SendStage} {error : IoError}
    {next : Except ChannelError Reply → Routine ω ρ Unit}
    (hs : c.stage? number = some (.call (.send id stage) next))
    (h : c.step (.agent (.task number) (.fail error)) = some (d, events)) :
    d.Bound number (.error (.transport error)) := by
  obtain ⟨e, progress, hcall, rfl, hstage, -⟩ := step_call hs h
  have hprogress : progress = .more (.giveUp id (.transport error)) := by
    cases stage
    case write rest =>
      cases hcall
      rfl
    case flush =>
      cases hcall
      rfl
    all_goals cases hcall
  subst hprogress
  exact .failed id _ next hstage

/-- A call that has been answered returns its answer. -/
theorem returns_of_answered {history : List Note} (hdelivered : Delivered c.ledger history)
    {id : CallId} {next : Except ChannelError Reply → Routine ω ρ Unit}
    (hs : c.stage? number = some (.call (.await id) next)) {answer : Except Failure Reply}
    (hanswered : Answered (.task number) answer history) :
    c.Returns number (received answer) := by
  obtain ⟨harrived, hpending⟩ :=
    hdelivered _ answer id none hanswered (standing_task_of_stage? hs)
  have hb := Bound.settled id next hs hpending
  rw [show c.arrived.get? (.task number) = some (received answer) from harrived] at hb
  exact hb.returns

/-- A call that has been sent and not been answered returns, once all calls have been failed, that
the channel is closed. -/
theorem returns_of_unanswered {history : List Note} (hsound : Sound c.ledger history)
    (ho : Orderly c) (hd : c.Drained) {id : CallId}
    {next : Except ChannelError Reply → Routine ω ρ Unit}
    (hs : c.stage? number = some (.call (.await id) next))
    (hunanswered : ¬ ∃ answer, Answered (.task number) answer history) :
    c.Returns number (.error .closed) := by
  have hb := Bound.settled id next hs (ho.not_waiting hd hs)
  rcases (hsound.called (.task number)).waiting id none (standing_task_of_stage? hs) with
    ⟨_, -, harrived, -⟩ | ⟨harrived, -⟩ | ⟨answer, hanswered, -⟩
  · rw [show c.arrived.get? (.task number) = none from harrived] at hb
    exact hb.returns
  · rw [show c.arrived.get? (.task number) = some (.error .closed) from harrived] at hb
    exact hb.returns
  · exact absurd ⟨answer, hanswered⟩ hunanswered

/-- What has arrived for a call that waits is that the channel is closed, or its answer. -/
theorem closed_or_answered {history : List Note} (hsound : Sound c.ledger history) {id : CallId}
    {next : Except ChannelError Reply → Routine ω ρ Unit}
    (hs : c.stage? number = some (.call (.await id) next)) {result : Except ChannelError Reply}
    (harrived : c.arrived.get? (.task number) = some result) :
    result = .error .closed ∨
      ∃ answer, Answered (.task number) answer history ∧ result = received answer := by
  have hgot : c.ledger.arrived.get? (.task number) = some result := harrived
  rcases (hsound.called (.task number)).waiting id none (standing_task_of_stage? hs) with
    ⟨_, -, hnone, -⟩ | ⟨hclosed, -⟩ | ⟨answer, hanswered, hsome, -⟩
  · rw [hnone] at hgot
    cases hgot
  · rw [hclosed, Option.some.injEq] at hgot
    exact .inl hgot.symm
  · rw [hsome, Option.some.injEq] at hgot
    exact .inr ⟨answer, hanswered, hgot.symm⟩

/-- **Closing is final and complete.** In every run of a channel, whatever the other end sends and
in whatever order everything happens:

* the channel closes only after a routine has closed it, the incoming stream has ended or could not
  be read, or the link has refused the request of a call;
* once it is closing it does not reopen;
* nothing holds up the agent that closes it until the calls that waited have failed, and then every
  call can return;
* a call that has been answered returns the answer, also while the channel closes, and a call that
  has been sent and not been answered then returns that the channel is closed;
* a call whose request the link refuses returns the error of the link;
* a call that is made while the channel is closing returns that it is closed, and until then shows
  nothing;
* a call returns only that the channel is closed, its answer, or why its own request was not sent;
* to close the channel again, or to read the end of its stream or a fault, has no effect. -/
theorem closing_complete (actions : List (Action ω ρ)) :
    let c := (start setup world guarded).after actions
    let history := (start setup world guarded).history actions
    let past := (start setup world guarded).moments actions
    (c.closing = true → ∃ m ∈ past, m.cause?.isSome) ∧
    (c.closing = true → ∀ later, (c.after later).closing = true) ∧
    (c.closing = true → ∃ a, c.CanDrain a) ∧
    (c.Drained → ∀ number stage next, c.stage? number = some (.call stage next) →
      ∃ result, c.CanReturn number result) ∧
    (∀ number id next, c.stage? number = some (.call (.await id) next) →
      (∀ answer, Answered (.task number) answer history → c.Returns number (received answer)) ∧
      (c.Drained → (¬ ∃ answer, Answered (.task number) answer history) →
        c.Returns number (.error .closed))) ∧
    (∀ m ∈ past, ∀ number id stage next error, m.action = .agent (.task number) (.fail error) →
      m.before.stage? number = some (.call (.send id stage) next) →
      m.after.Returns number (.error (.transport error))) ∧
    (c.closing = true → ∀ number stage, c.stage? number = some stage → stage.unsent = true →
      c.Returns number (.error .closed) ∧
      ∀ later choice d events,
        (c.history later).find? (Note.completes (.task number)) = none →
        (c.after later).step (.agent (.task number) choice) = some (d, events) → events = []) ∧
    (∀ action a result, c.note? action = some (.completed a result) →
      result = .error .closed ∨
      (∃ answer, Answered a answer history ∧ result = received answer) ∨
      ∃ number next error, a = .task number ∧ result = .error error ∧
        Refused past number next error) ∧
    ∀ m ∈ past,
      (m.before.closing = true → ∀ a, m.action.agent? = some a →
        m.before.closing? a = some .enter →
        m.events = [] ∧ ((a = .reader ∧ m.after = { m.before with reader := .stopped }) ∨
          ∃ number stage, a = .task number ∧ m.after = m.before.setStage number stage)) ∧
      ((m.cause? = some .ended ∨ ∃ error, m.cause? = some (.unreadable error)) →
        m.events = [] ∧
          m.after = { m.before with inbox := m.after.inbox, reader := .close .enter }) := by
  intro c history past
  have ho : Orderly c := orderly_after setup world guarded actions
  have hsound : Sound c.ledger history := sound_history setup world guarded actions
  have hdelivered : Delivered c.ledger history := delivered_history setup world guarded actions
  have hexcused : Excused past c := excused_after setup world guarded actions
  have hpast : ∀ m ∈ past, m.before.step m.action = some (m.after, m.events) :=
    fun m hm => step_of_mem_moments _ hm
  refine ⟨cause_of_closing setup world guarded actions, fun hc later => closing_after hc later,
    ho.canDrain, fun hd number stage next hs => ho.canReturn hd hs,
    fun number id next hs => ⟨fun answer => returns_of_answered hdelivered hs,
      fun hd => returns_of_unanswered hsound ho hd hs⟩,
    fun m hm number id stage next error haction hs => ?_, fun hc number stage hs hu => ⟨?_, ?_⟩,
    fun action a result hnote => ?_, fun m hm => ⟨fun hc a ha hs => ?_, fun hcause => ?_⟩⟩
  · have hstep := hpast m hm
    rw [haction] at hstep
    exact (bound_of_refused hs hstep).returns
  · exact (Bound.unsent stage hs hu hc).returns
  · exact fun later choice d events hfind h => silent_of_unsent hs hu hc later hfind h
  · rcases stage_of_completed hnote with hclosed | ⟨number, stage, next, rfl, hs, hwhy⟩
    · exact .inl hclosed
    · rcases hwhy with ⟨error, herror, rfl⟩ | ⟨id, rfl, harrived⟩
      · rcases hexcused number stage next error hs herror with rfl | hrefused
        · exact .inl rfl
        · exact .inr (.inr ⟨number, next, error, rfl, rfl, hrefused⟩)
      · exact (closed_or_answered hsound hs harrived).imp_right .inl
  · exact late_of_closing hc ha hs (hpast m hm)
  · obtain ⟨cause, hm', hstream⟩ : ∃ cause, m.before.cause? m.action = some cause ∧
        (cause = .ended ∨ ∃ e, cause = .unreadable e) := by
      rcases hcause with hended | ⟨e, hunreadable⟩
      · exact ⟨_, hended, .inl rfl⟩
      · exact ⟨_, hunreadable, .inr ⟨e, rfl⟩⟩
    exact late_of_stream hm' hstream (hpast m hm)

end Channel

end CommandLink
