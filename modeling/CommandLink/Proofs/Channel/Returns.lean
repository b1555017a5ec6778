import CommandLink.Proofs.Channel.Closing

/-!
# What calls are bound to return

A call is bound to a result (`Bound`) when it has its response, when its request could not be sent,
and from the beginning when the channel is closing. Whatever happens after that, it returns nothing
else (`Bound.onlyReturns`), and it needs nobody else to return (`Bound.canReturn`).
-/

namespace CommandLink

variable {ω ρ : Type}

/-- Whether a call has not begun to send its request. -/
def CallStage.unsent : CallStage → Bool
  | .check _ => true
  | .draw _ => true
  | .register _ _ => true
  | .recheck _ _ => true
  | _ => false

/-- Whether a task is making a call and has not begun to send its request. -/
def Stage.unsent : Stage ω ρ → Bool
  | .ready (.ask (.call _) _) => true
  | .call stage _ => stage.unsent
  | _ => false

/-- The stage in which a task goes on with a call. -/
def callNext (next : Except ChannelError Reply → Routine ω ρ Unit) :
    Progress CallStage (Except ChannelError Reply) → Stage ω ρ
  | .more stage => .call stage next
  | .finished result => .ready (next result)

namespace Channel

variable {c d : Channel ω ρ} {action : Action ω ρ} {events : List (Event ρ)} {number : ℕ}
  {result : Except ChannelError Reply}

/-! ## Notes of calls -/

theorem history_cons_of_step (h : c.step action = some (d, events))
    (actions : List (Action ω ρ)) :
    c.history (action :: actions) = (c.note? action).toList ++ d.history actions := by
  rw [history, moments_cons_of_step h, List.filterMap_cons, Moment.note?]
  cases c.note? action <;> rfl

theorem history_cons_of_disabled (h : c.step action = none) (actions : List (Action ω ρ)) :
    c.history (action :: actions) = c.history actions := by
  rw [history, moments_cons_of_disabled h, history]

/-- The step of a task that makes a call. -/
theorem step_call {stage : CallStage} {next : Except ChannelError Reply → Routine ω ρ Unit}
    {choice : Choice} (hs : c.stage? number = some (.call stage next))
    (h : c.step (.agent (.task number) choice) = some (d, events)) :
    ∃ e progress, c.callStep (.task number) stage choice = some (e, events, progress) ∧
      d = e.setStage number (callNext next progress) ∧
      d.stage? number = some (callNext next progress) ∧
      c.note? (.agent (.task number) choice) = callNote? (.task number) stage progress := by
  obtain ⟨e, stage', hstep, hd, hstage⟩ := step_of_stage? hs h
  cases taskStep_iff.mp hstep with
  | call hcall | called hcall =>
    exact ⟨e, _, hcall, hd, hstage, by simp only [note?, hs, hcall, Option.bind_some]⟩

/-- A step of a call that can be made. -/
theorem step_of_callStep {stage : CallStage} {next : Except ChannelError Reply → Routine ω ρ Unit}
    {choice : Choice} {progress : Progress CallStage (Except ChannelError Reply)}
    (hs : c.stage? number = some (.call stage next))
    (hcall : c.callStep (.task number) stage choice = some (d, events, progress)) :
    c.step (.agent (.task number) choice) =
      some (d.setStage number (callNext next progress), events) := by
  simp only [step, agentStep, hs, taskStep, hcall, Option.map_some]
  rcases progress with stage' | result
  · rfl
  · rfl

/-- A note about a call comes with a step of the agent that makes it. -/
theorem agent?_of_note {note : Note} {a : Agent} (hnote : c.note? action = some note)
    (ha : note.caller? = some a) : action.agent? = some a := by
  cases noted_of_note? hnote with
  | response => cases ha
  | _ => exact ha

theorem caller?_of_completes {note : Note} {a : Agent} (h : note.completes a = true) :
    note.caller? = some a := by
  cases note
  case completed b result => exact congrArg some (of_decide_eq_true h)
  all_goals cases h

/-! ## Calls that are bound to a result -/

/-- The next call of a task to return, if one does, returns with this result. -/
def OnlyReturns (c : Channel ω ρ) (number : ℕ) (result : Except ChannelError Reply) : Prop :=
  ∀ actions note, (c.history actions).find? (Note.completes (.task number)) = some note →
    note = .completed (.task number) result

/-- A call of a task can return with this result by its own steps, as time passes. -/
def CanReturn (c : Channel ω ρ) (number : ℕ) (result : Except ChannelError Reply) : Prop :=
  ∃ actions : List (Action ω ρ),
    (∀ action ∈ actions, action.agent? = some (.task number) ∨ ∃ millis, action = .elapse millis) ∧
    (c.history actions).find? (Note.completes (.task number)) =
      some (.completed (.task number) result)

/-- What the call of a task is bound to return, unless the task is ended. -/
inductive Bound (c : Channel ω ρ) (number : ℕ) : Except ChannelError Reply → Prop
  /-- The channel is closing, and the call has yet to look whether it is. -/
  | unsent (stage : Stage ω ρ) (hs : c.stage? number = some stage) (hu : stage.unsent = true)
    (hc : c.closing = true) : Bound c number (.error .closed)
  /-- The request has not been sent. -/
  | failed (id : CallId) (error : ChannelError)
    (next : Except ChannelError Reply → Routine ω ρ Unit)
    (hs : c.stage? number = some (.call (.giveUp id error) next)) : Bound c number (.error error)
  /-- The request has not been written, and the call closes the channel. -/
  | shut (error : ChannelError) (stage : CloseStage)
    (next : Except ChannelError Reply → Routine ω ρ Unit)
    (hs : c.stage? number = some (.call (.shut error stage) next)) : Bound c number (.error error)
  /-- The call waits no more: it has its result, or there is none. -/
  | settled (id : CallId) (next : Except ChannelError Reply → Routine ω ρ Unit)
    (hs : c.stage? number = some (.call (.await id) next))
    (hp : ∀ id', c.pending.get? id' ≠ some (.task number)) :
    Bound c number ((c.arrived.get? (.task number)).getD (.error .closed))

/-- A call that waits no more is left with its result by the steps of others. -/
theorem settled_of_step (h : c.step action = some (d, events)) {id : CallId}
    {next : Except ChannelError Reply → Routine ω ρ Unit}
    (hs : c.stage? number = some (.call (.await id) next))
    (ha : action.agent? ≠ some (.task number))
    (hp : ∀ id', c.pending.get? id' ≠ some (.task number)) :
    (∀ id', d.pending.get? id' ≠ some (.task number)) ∧
      d.arrived.get? (.task number) = c.arrived.get? (.task number) := by
  obtain ⟨l, hturn, hends⟩ := step_turn h
  have hstanding : c.ledger.standing (.task number) = .waiting id none :=
    standing_task_of_stage? hs
  suffices (∀ id', l.pending.get? id' ≠ some (.task number)) ∧
      l.arrived.get? (.task number) = c.ledger.arrived.get? (.task number) by
    refine ⟨fun id' hp' => this.1 id' ?_, ?_⟩
    · rw [← hends.pending]
      exact hp'
    · exact (congrArg (fun t => t.get? (.task number)) hends.arrived).trans this.2
  have hsettle : ∀ id' result', (∀ id'', (c.ledger.settle id' result').pending.get? id'' ≠
      some (.task number)) ∧ (c.ledger.settle id' result').arrived.get? (.task number) =
        c.ledger.arrived.get? (.task number) :=
    fun id' result' => ⟨fun id'' hp' => hp id'' (Ledger.get?_pending_of_settle hp').1,
      Ledger.get?_arrived_of_settle (hp id')⟩
  have hforget : ∀ id' a s, (∀ id'', ((c.ledger.forget id').stand a s).pending.get? id'' ≠
      some (.task number)) :=
    fun id' a s id'' hp' => hp id'' (Ledger.get?_pending_of_forget hp')
  generalize hnote : c.note? action = note at hturn
  cases hturn with
  | closed id' => exact hsettle id' _
  | response id' => exact hsettle id' _
  | registered a id' hs =>
    have hne : a ≠ .task number := by
      rintro rfl
      rw [hstanding] at hs
      cases hs
    refine ⟨fun id'' hp' => ?_, ?_⟩
    · simp only [Ledger.stand_pending, Table.get?_insert] at hp'
      split_ifs at hp' with hid
      · exact hne (Option.some.inj hp')
      · exact hp id'' hp'
    · rw [Ledger.stand_arrived, Table.get?_erase, if_neg (Ne.symm hne)]
  | broke a id' => exact ⟨hforget id' a _, rfl⟩
  | withdrew a id' => exact ⟨hforget id' a _, rfl⟩
  | returned a id' result hs hr =>
    have hne : a ≠ .task number := fun heq => ha (heq ▸ agent?_of_note hnote rfl)
    refine ⟨hp, ?_⟩
    rw [Ledger.stand_arrived, Table.get?_erase, if_neg (Ne.symm hne)]
  | rest | began | drew | failed | refused | lost | gaveUp => exact ⟨hp, rfl⟩

/-- The call of a task returns with a result, or it is bound to it and has not returned, or the task
has ended. -/
def Keeps (action : Action ω ρ) (c d : Channel ω ρ) (number : ℕ)
    (result : Except ChannelError Reply) : Prop :=
  c.note? action = some (.completed (.task number) result) ∨
    (∀ note, c.note? action = some note → note.completes (.task number) = false) ∧
      (d.Bound number result ∨ d.stage? number = some .done)

/-- A call that closes the channel goes on to its error. -/
theorem keeps_shut {choice : Choice} {error : ChannelError} {stage : CloseStage}
    {next : Except ChannelError Reply → Routine ω ρ Unit}
    (hs : c.stage? number = some (.call (.shut error stage) next))
    (h : c.step (.agent (.task number) choice) = some (d, events)) :
    Keeps (.agent (.task number) choice) c d number (.error error) := by
  obtain ⟨e, progress, hcall, rfl, hstage, hnote⟩ := step_call hs h
  cases callStep_iff.mp hcall with
  | shut =>
    refine .inr ⟨fun note hn => ?_, .inl (.shut error _ next hstage)⟩
    rw [hnote] at hn
    cases hn
  | fail => exact .inl hnote

/-- A call whose request was not sent goes on to its error. -/
theorem keeps_failed {choice : Choice} {id : CallId} {error : ChannelError}
    {next : Except ChannelError Reply → Routine ω ρ Unit}
    (hs : c.stage? number = some (.call (.giveUp id error) next))
    (h : c.step (.agent (.task number) choice) = some (d, events)) :
    Keeps (.agent (.task number) choice) c d number (.error error) := by
  obtain ⟨e, progress, hcall, rfl, hstage, hnote⟩ := step_call hs h
  cases callStep_iff.mp hcall with
  | breakOff =>
    refine .inr ⟨fun note hn => ?_, .inl (.shut _ .enter next hstage)⟩
    rw [hnote] at hn
    cases hn
  | giveUp => exact .inl hnote

/-- A call that waits no more returns. -/
theorem keeps_settled {choice : Choice} {id : CallId}
    {next : Except ChannelError Reply → Routine ω ρ Unit}
    (hs : c.stage? number = some (.call (.await id) next))
    (h : c.step (.agent (.task number) choice) = some (d, events)) :
    Keeps (.agent (.task number) choice) c d number
      ((c.arrived.get? (.task number)).getD (.error .closed)) := by
  obtain ⟨e, progress, hcall, rfl, hstage, hnote⟩ := step_call hs h
  cases callStep_iff.mp hcall with
  | answer harrived | lose harrived =>
    rw [harrived]
    exact .inl hnote

/-- A call that has yet to look whether the channel is closing shows nothing and goes on to find
that it is. -/
theorem keeps_unsent {choice : Choice} {stage : Stage ω ρ} (hs : c.stage? number = some stage)
    (hu : stage.unsent = true) (hc : c.closing = true)
    (h : c.step (.agent (.task number) choice) = some (d, events)) :
    events = [] ∧ (c.note? (.agent (.task number) choice) =
        some (.completed (.task number) (.error .closed)) ∨
      (∀ note, c.note? (.agent (.task number) choice) = some note →
        note.completes (.task number) = false) ∧
      ∃ stage', d.stage? number = some stage' ∧ stage'.unsent = true) := by
  unfold Stage.unsent at hu
  split at hu
  · obtain ⟨e, stage', hstep, rfl, hstage⟩ := step_of_stage? hs h
    cases taskStep_iff.mp hstep
    refine ⟨rfl, .inr ⟨fun note hn => ?_, _, hstage, rfl⟩⟩
    simp only [note?, hs] at hn
    cases hn
    rfl
  · obtain ⟨e, progress, hcall, rfl, hstage, hnote⟩ := step_call hs h
    rw [hnote]
    cases callStep_iff.mp hcall with
    | refuse | withdraw => exact ⟨rfl, .inl rfl⟩
    | check hopen | recheck hopen =>
      rw [hc] at hopen
      cases hopen
    | draw | register => exact ⟨rfl, .inr ⟨fun note hn => by cases hn; rfl, _, hstage, rfl⟩⟩
    | _ => cases hu
  · cases hu

theorem Stage.wake_of_unsent {stage : Stage ω ρ} (hu : stage.unsent = true) :
    Stage.wake stage = stage := by
  cases stage
  case wait => cases hu
  all_goals rfl

/-- A step of another agent completes no call of a task. -/
theorem not_completes_of_others (ha : action.agent? ≠ some (.task number)) (note : Note)
    (hnote : c.note? action = some note) : note.completes (.task number) = false := by
  rw [← Bool.not_eq_true]
  exact fun hcompletes => ha (agent?_of_note hnote (caller?_of_completes hcompletes))

/-- **Bound calls stay bound.** A call that is bound to a result returns with it, or is still bound
to it after a step, unless its task has been ended. -/
theorem Bound.step (hb : c.Bound number result) (h : c.step action = some (d, events)) :
    Keeps action c d number result := by
  by_cases ha : action.agent? = some (.task number)
  · obtain ⟨choice, rfl⟩ := exists_choice_of_agent? ha
    cases hb with
    | unsent stage hs hu hc =>
      rcases (keeps_unsent hs hu hc h).2 with hnote | ⟨hnote, stage', hs', hu'⟩
      · exact .inl hnote
      · exact .inr ⟨hnote, .inl (.unsent stage' hs' hu' (closing_of_step h hc))⟩
    | failed id error next hs => exact keeps_failed hs h
    | shut error stage next hs => exact keeps_shut hs h
    | settled id next hs hp => exact keeps_settled hs h
  · refine .inr ⟨not_completes_of_others ha, ?_⟩
    have hothers := step_others h
    cases hb with
    | unsent stage hs hu hc =>
      rcases hothers.stage hs (Stage.wake_of_unsent hu) ha with hkept | hended
      · exact .inl (.unsent stage hkept hu (closing_of_step h hc))
      · exact .inr hended
    | failed id error next hs => exact (hothers.stage hs rfl ha).imp_left (.failed id error next)
    | shut error stage next hs =>
      exact (hothers.stage hs rfl ha).imp_left (.shut error stage next)
    | settled id next hs hp =>
      rcases hothers.stage hs rfl ha with hkept | hended
      · obtain ⟨hp', harrived⟩ := settled_of_step h hs ha hp
        rw [← harrived]
        exact .inl (.settled id next hkept hp')
      · exact .inr hended

/-- A task that has been ended makes no calls. -/
theorem done_of_step (hs : c.stage? number = some .done) (h : c.step action = some (d, events)) :
    d.stage? number = some .done ∧
      ∀ note, c.note? action = some note → note.completes (.task number) = false := by
  have ha : action.agent? ≠ some (.task number) := by
    intro ha
    obtain ⟨choice, rfl⟩ := exists_choice_of_agent? ha
    obtain ⟨e, stage, hstep, -⟩ := step_of_stage? hs h
    cases hstep
  exact ⟨or_self_iff.mp ((step_others h).stage hs rfl ha), not_completes_of_others ha⟩

theorem find?_completes_cons (h : c.step action = some (d, events))
    (hn : ∀ note, c.note? action = some note → note.completes (.task number) = false)
    (actions : List (Action ω ρ)) :
    (c.history (action :: actions)).find? (Note.completes (.task number)) =
      (d.history actions).find? (Note.completes (.task number)) := by
  rw [history_cons_of_step h]
  rcases hnote : c.note? action with _ | note
  · rfl
  · simp [hn note hnote]

theorem find?_completes_of_done (hs : c.stage? number = some .done)
    (actions : List (Action ω ρ)) :
    (c.history actions).find? (Note.completes (.task number)) = none := by
  induction actions generalizing c with
  | nil => rfl
  | cons action actions ih =>
    rcases h : c.step action with _ | ⟨d, events⟩
    · rw [history_cons_of_disabled h]
      exact ih hs
    · obtain ⟨hdone, hnote⟩ := done_of_step hs h
      rw [find?_completes_cons h hnote]
      exact ih hdone

/-- **A bound call returns nothing else**, whatever happens. -/
theorem Bound.onlyReturns (hb : c.Bound number result) : c.OnlyReturns number result := by
  intro actions note hfind
  induction actions generalizing c with
  | nil => cases hfind
  | cons action actions ih =>
    rcases h : c.step action with _ | ⟨d, events⟩
    · rw [history_cons_of_disabled h] at hfind
      exact ih hb hfind
    · rcases hb.step h with hnote | ⟨hnote, hb' | hdone⟩
      · rw [history_cons_of_step h, hnote] at hfind
        simp only [Option.toList_some, List.singleton_append, Note.completes,
          List.find?_cons, decide_true, Option.some.injEq] at hfind
        exact hfind.symm
      · rw [find?_completes_cons h hnote] at hfind
        exact ih hb' hfind
      · rw [find?_completes_cons h hnote, find?_completes_of_done hdone] at hfind
        cases hfind

/-! ## Calls that can return -/

theorem canReturn_of_step (h : c.step action = some (d, events))
    (ha : action.agent? = some (.task number) ∨ ∃ millis, action = .elapse millis)
    (hn : ∀ note, c.note? action = some note → note.completes (.task number) = false)
    (hd : d.CanReturn number result) : c.CanReturn number result := by
  obtain ⟨actions, hown, hfind⟩ := hd
  refine ⟨action :: actions, fun b hb => ?_, by rw [find?_completes_cons h hn, hfind]⟩
  rcases List.mem_cons.mp hb with rfl | hb
  · exact ha
  · exact hown b hb

section Own

variable (choice : Choice) {stage stage' : CallStage}
  {next : Except ChannelError Reply → Routine ω ρ Unit}

/-- A call that goes on to a stage from which it can return can return. -/
theorem canReturn_of_more (hs : c.stage? number = some (.call stage next))
    (hcall : c.callStep (.task number) stage choice = some (d, events, .more stage'))
    (hd : ∀ e : Channel ω ρ, e = d.setStage number (.call stage' next) →
      e.stage? number = some (.call stage' next) → e.CanReturn number result) :
    c.CanReturn number result := by
  have h := step_of_callStep hs hcall
  obtain ⟨e, progress, hcall', -, hstage, hnote⟩ := step_call hs h
  rw [hcall'] at hcall
  cases hcall
  refine canReturn_of_step h (.inl rfl) (fun note hn => ?_) (hd _ rfl hstage)
  rw [hnote] at hn
  unfold callNote? at hn
  split at hn
  · rename_i heq
    cases heq
  · cases hn
    rfl
  · split at hn
    · cases hn
      rfl
    · cases hn

/-- A call that returns can return. -/
theorem canReturn_of_finished (hs : c.stage? number = some (.call stage next))
    (hcall : c.callStep (.task number) stage choice = some (d, events, .finished result)) :
    c.CanReturn number result := by
  have h := step_of_callStep hs hcall
  obtain ⟨e, progress, hcall', -, -, hnote⟩ := step_call hs h
  rw [hcall'] at hcall
  cases hcall
  refine ⟨[.agent (.task number) choice], fun b hb => .inl ?_, ?_⟩
  · rw [List.mem_singleton.mp hb]
    rfl
  · rw [history_cons_of_step h, hnote]
    simp [callNote?, Note.completes]

end Own

section Shut

variable {error : ChannelError} {next : Except ChannelError Reply → Routine ω ρ Unit}

/-- A call that closes the channel can return. -/
theorem canReturn_shut (stage : CloseStage)
    (hs : c.stage? number = some (.call (.shut error stage) next)) :
    c.CanReturn number (.error error) := by
  refine closing_induction (fun s => .call (.shut error s) next) (CanReturn · number (.error error))
    (fun he hclose hd => ?_) (fun he hclose => ?_) (fun millis he hd => ?_) stage hs
  · exact canReturn_of_more _ he (callStep_iff.mpr (.shut hclose)) fun f _ hf => hd f hf
  · exact canReturn_of_finished _ he (callStep_iff.mpr (.fail hclose))
  · exact canReturn_of_step rfl (.inr ⟨millis, rfl⟩) (fun note hn => by cases hn) hd

/-- A call whose request has not been sent can return. -/
theorem canReturn_failed {id : CallId}
    (hs : c.stage? number = some (.call (.giveUp id error) next)) :
    c.CanReturn number (.error error) := by
  cases error with
  | transport e =>
    exact canReturn_of_more .go hs rfl fun _ _ hs => canReturn_shut .enter hs
  | closed => exact canReturn_of_finished .go hs rfl
  | protocol e => exact canReturn_of_finished .go hs rfl
  | remote message => exact canReturn_of_finished .go hs rfl
  | unexpectedReply call reply => exact canReturn_of_finished .go hs rfl

end Shut

/-- A call that looks again whether the channel is closing finds that it is. -/
theorem canReturn_recheck {id : CallId} {call : Call}
    {next : Except ChannelError Reply → Routine ω ρ Unit} (hc : c.closing = true)
    (hs : c.stage? number = some (.call (.recheck id call) next)) :
    c.CanReturn number (.error .closed) := by
  exact canReturn_of_finished .go hs (callStep_iff.mpr (.withdraw hc))

/-- A call that looks whether the channel is closing finds that it is. -/
theorem canReturn_check {call : Call} {next : Except ChannelError Reply → Routine ω ρ Unit}
    (hc : c.closing = true) (hs : c.stage? number = some (.call (.check call) next)) :
    c.CanReturn number (.error .closed) := by
  exact canReturn_of_finished .go hs (callStep_iff.mpr (.refuse hc))

/-- A call that is made while the channel is closing can return. -/
theorem canReturn_unsent {stage : Stage ω ρ} (hs : c.stage? number = some stage)
    (hu : stage.unsent = true) (hc : c.closing = true) :
    c.CanReturn number (.error .closed) := by
  unfold Stage.unsent at hu
  split at hu
  · rename_i call next
    have h : c.step (.agent (.task number) .go) =
        some (c.setStage number (.call (.check call) next), []) := by
      simp only [step, agentStep, hs]
      rfl
    have hs' : (c.setStage number (.call (.check call) next)).stage? number =
        some (.call (.check call) next) := stage?_setStage_self _ (lt_of_stage? hs)
    refine canReturn_of_step h (.inl rfl) (fun note hn => ?_) (canReturn_check hc hs')
    simp only [note?, hs] at hn
    cases hn
    rfl
  · rename_i stage next
    cases stage
    case check call => exact canReturn_check hc hs
    case draw call =>
      refine canReturn_of_more .go hs rfl fun d hd hs => ?_
      refine canReturn_of_more .go hs rfl fun e he hs => canReturn_recheck ?_ hs
      rw [he, hd]
      exact hc
    case register id call =>
      refine canReturn_of_more .go hs rfl fun d hd hs => canReturn_recheck ?_ hs
      rw [hd]
      exact hc
    case recheck id call => exact canReturn_recheck hc hs
    all_goals cases hu
  · cases hu

/-- A call that waits no more can return. -/
theorem canReturn_settled {id : CallId} {next : Except ChannelError Reply → Routine ω ρ Unit}
    (hs : c.stage? number = some (.call (.await id) next))
    (hp : c.pending.get? id ≠ some (.task number)) :
    c.CanReturn number ((c.arrived.get? (.task number)).getD (.error .closed)) := by
  rcases harrived : c.arrived.get? (.task number) with _ | result
  · exact canReturn_of_finished .go hs (callStep_iff.mpr (.lose harrived hp))
  · exact canReturn_of_finished .go hs (callStep_iff.mpr (.answer harrived))

/-- **A bound call can return**, whoever else goes on. -/
theorem Bound.canReturn (hb : c.Bound number result) : c.CanReturn number result := by
  cases hb with
  | unsent stage hs hu hc => exact canReturn_unsent hs hu hc
  | failed id error next hs => exact canReturn_failed hs
  | shut error stage next hs => exact canReturn_shut stage hs
  | settled id next hs hp => exact canReturn_settled hs (hp id)

/-- A call of a task can return with a result, and whatever happens it returns with nothing else. -/
def Returns (c : Channel ω ρ) (number : ℕ) (result : Except ChannelError Reply) : Prop :=
  c.CanReturn number result ∧ c.OnlyReturns number result

theorem Bound.returns (hb : c.Bound number result) : c.Returns number result :=
  ⟨hb.canReturn, hb.onlyReturns⟩

end Channel

end CommandLink
