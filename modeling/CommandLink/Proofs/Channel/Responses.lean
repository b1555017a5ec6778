import CommandLink.Proofs.Channel.Answering
import CommandLink.Proofs.Frame.Bodies

/-!
# The responses of a run

The task of every request is followed through a run (`Served`): it sends no response before its
handling has ended, and no other response than the answer. What is written is read as letters
(`bodies_written`), so these are the responses that the other end sees.
-/

namespace CommandLink

variable {ω ρ : Type}

/-- The responses among some letters that come from a task. -/
def responses (letters : List Letter) (number : ℕ) : List Frame :=
  letters.filterMap (Letter.response? number)

/-- Whether the task of a request has sent its response. -/
def Stage.answered : Stage ω ρ → Bool
  | .respond _ _ (.encode _) _ => false
  | .respond _ _ _ _ => true
  | .ready (.done ()) => true
  | .done => true
  | _ => false

namespace Channel

variable {c d e : Channel ω ρ} {action : Action ω ρ} {events : List (Event ρ)} {number : ℕ}
  {setup : ChannelSetup ω ρ} {id : CallId} {call : Call} {heard : List (Heard ω)}
  {stage stage' : Stage ω ρ} {frames : List Frame} {handled : Handled}

/-! ## What a phase says -/

/-- A task has sent no response, or one after its handling has ended. -/
theorem Phase.frames_cases (hp : Phase setup id call heard stage frames) :
    frames = [] ∨ ∃ handled, setup.handler.Returns call heard handled ∧
      frames = [.response id (handled.answer setup.frameLimit id call)] := by
  cases hp with
  | handling => exact .inl rfl
  | due => exact .inl rfl
  | answering => exact .inl rfl
  | refusing => exact .inl rfl
  | sending hfollow => exact .inr ⟨_, ⟨heard, List.prefix_rfl, hfollow⟩, rfl⟩
  | answered hheard hfollow => exact .inr ⟨_, ⟨_, ⟨_, hheard.symm⟩, hfollow⟩, rfl⟩

/-- A task that is past its response has sent it. -/
theorem Phase.of_answered (hp : Phase setup id call heard stage frames)
    (hproper : setup.handler.Proper) (ha : stage.answered = true) : frames ≠ [] := by
  cases hp with
  | @handling left _ hfollow hbusy hperforms =>
    rcases left with handled | ⟨op, next⟩
    · exact absurd rfl (hbusy handled)
    have hsilent : Op.Silent op := ((hproper id call).follow hfollow).1
    generalize hrest : (Dialogue.ask op next).bind
      (fun handled : Handled => Routine.respond id (handled.result call)) = rest at hperforms
    cases hperforms
    case respond => cases hrest; exact hsilent.elim
    case refuse => cases hrest; exact hsilent.elim
    case ready =>
      subst hrest
      cases ha
    case done => cases hrest
    all_goals cases ha
  | due => cases ha
  | answering => cases ha
  | refusing => cases ha
  | sending => simp
  | answered => simp

/-! ## The requests of a run -/

/-- What holds of the requests of an open channel after what has happened. -/
structure Served (past : List (Moment ω ρ)) (c : Channel ω ρ) : Prop where
  begun : Begun past c
  pings : ∀ frame time, c.heartbeat = .send (.encode frame) time → frame = .ping
  senders : ∀ l ∈ past.filterMap Moment.letter?, l.frame.isResponse = true →
    ∃ (number : ℕ) (id : CallId) (call : Call), l.sender = .task number ∧
      (past.filterMap Moment.origin?)[number]? = some (.requested id call)
  phases : ∀ (number : ℕ) (id : CallId) (call : Call),
    (past.filterMap Moment.origin?)[number]? = some (.requested id call) →
    ∃ stage, c.stage? number = some stage ∧
      Phase c.setup id call (past.filterMap (Moment.heard? number)) stage
        (responses (past.filterMap Moment.letter?) number)

variable {past : List (Moment ω ρ)}

/-- A response comes from the task of a request. -/
theorem Served.origin_of_letter (hs : Served past c) (hc : c.closing = false)
    (hstarted : ∀ routine, .started routine ∈ past.filterMap Moment.origin? → Routine.Silent routine)
    {l : Letter} (hl : c.letter? action = some l) (hr : l.frame.isResponse = true) :
    ∃ (number : ℕ) (id : CallId) (call : Call), l.sender = .task number ∧
      (past.filterMap Moment.origin?)[number]? = some (.requested id call) := by
  obtain ⟨frame, bytes, heq, -, hsending, -⟩ := letter?_eq_some hl
  rcases hsender : l.sender with _ | _ | number
  · rw [hsender] at hsending
    cases hsending
  · rw [hsender, sending?] at hsending
    rcases hbeat : c.heartbeat with time | ⟨s, time⟩ | _
    · rw [hbeat] at hsending
      cases hsending
    · rw [hbeat] at hsending
      cases hsending
      rw [heq, hs.pings frame time hbeat] at hr
      cases hr
    · rw [hbeat] at hsending
      cases hsending
  · rw [hsender] at hsending
    obtain ⟨stage, hstage, -⟩ := Option.bind_eq_some_iff.mp hsending
    obtain ⟨origin, horigin⟩ := hs.begun.origin_of_stage hstage
    rcases origin with routine | ⟨id, call⟩
    · -- A routine that answers no request sends no response.
      obtain ⟨left, stage', hleft, hstage', hp⟩ := hs.begun.follows number _ horigin
      rcases hp with hp | ⟨-, hclosing⟩
      · obtain ⟨id, result, next, rfl⟩ := asks_of_letter hstage' hp hl hsender hr
        have hsilent := (hstarted routine (List.mem_of_getElem? horigin)).follow hleft
        exact hsilent.1.elim
      · rw [hc] at hclosing
        cases hclosing
    · exact ⟨number, id, call, rfl, horigin⟩

/-- The heartbeat sends pings. -/
theorem ping_of_step (h : c.step action = some (d, events))
    (hp : ∀ frame time, c.heartbeat = .send (.encode frame) time → frame = .ping) (frame : Frame)
    (time : ℕ) (hd : d.heartbeat = .send (.encode frame) time) : frame = .ping := by
  by_cases ha : action.agent? = some .heartbeat
  · obtain ⟨choice, rfl⟩ := exists_choice_of_agent? ha
    obtain ⟨⟨e, events', stage⟩, hstep, heq⟩ := Option.map_eq_some_iff.mp h
    cases heq
    change stage = .send (.encode frame) time at hd
    subst hd
    generalize c.heartbeat = stage at hstep
    cases heartbeatStep_iff.mp hstep with
    | ping => rfl
    | send hsend => exact absurd rfl (sendStep_encoded hsend frame)
  · rcases (step_others h).heartbeat ha with hkept | ⟨-, hstopped⟩
    · exact hp frame time (hkept ▸ hd)
    · rw [hstopped] at hd
      cases hd

theorem responses_concat (number : ℕ) (m : Moment ω ρ) :
    responses ((past ++ [m]).filterMap Moment.letter?) number =
      responses (past.filterMap Moment.letter?) number ++
        (m.letter?.bind (Letter.response? number)).toList := by
  rw [filterMap_concat, responses, responses, List.filterMap_append]
  rcases m.letter? with _ | l
  · rfl
  · simp [List.filterMap_cons]
    rcases Letter.response? number l with _ | frame
    · rfl
    · rfl

/-- The task of a request has come further after every step. -/
theorem Served.phase_step (hs : Served past c) (h : c.step action = some (d, events))
    (hd : d.closing = false) (hproper : c.setup.handler.Proper) (hfloor : 4096 ≤ c.setup.frameLimit)
    (hword : c.setup.frameLimit ≤ maxWord)
    (horigin : (past.filterMap Moment.origin?)[number]? = some (.requested id call)) :
    ∃ stage, d.stage? number = some stage ∧
      Phase c.setup id call
        (past.filterMap (Moment.heard? number) ++ (c.heard? number action).toList) stage
        (responses (past.filterMap Moment.letter?) number ++
          ((c.letter? action).bind (Letter.response? number)).toList) := by
  obtain ⟨stage, hstage, hp⟩ := hs.phases number id call horigin
  obtain ⟨stage', hstage', hnext⟩ := stage?_step hs.begun.orderly h hstage
  refine ⟨stage', hstage', ?_⟩
  have hsilent : action.agent? ≠ some (.task number) →
      c.heard? number action = none ∧ (c.letter? action).bind (Letter.response? number) = none := by
    refine fun ha => ⟨heard?_eq_none ha, response?_eq_none fun l hl hsender => absurd ?_ ha⟩
    obtain ⟨-, -, -, hact, -⟩ := letter?_eq_some hl
    rw [hact, hsender]
    rfl
  cases hnext with
  | acted hact hstep =>
    subst hact
    rw [heard?, if_pos rfl, hstage, Option.bind_some]
    exact hp.step hproper hfloor hword rfl hstage hstep
  | kept ha =>
    rw [(hsilent ha).1, (hsilent ha).2, Option.toList_none, Option.toList_none, List.append_nil,
      List.append_nil]
    exact hp
  | woken ha =>
    rw [(hsilent ha).1, (hsilent ha).2, Option.toList_none, Option.toList_none, List.append_nil,
      List.append_nil]
    exact hp.wake
  | ended ha hclosing =>
    rw [hd] at hclosing
    cases hclosing

/-- The task of a request that has just been taken. -/
theorem Served.phase_new (hs : Served past c) (h : c.step action = some (d, events))
    (horigin : c.origin? action = some (.requested id call)) :
    ∃ stage, d.stage? c.tasks.length = some stage ∧
      Phase c.setup id call
        (past.filterMap (Moment.heard? c.tasks.length) ++ (c.heard? c.tasks.length action).toList)
        stage
        (responses (past.filterMap Moment.letter?) c.tasks.length ++
          ((c.letter? action).bind (Letter.response? c.tasks.length)).toList) := by
  have hnone : c.stage? c.tasks.length = none := by
    rw [stage?, List.getElem?_eq_none (Nat.le_refl _)]
    rfl
  have hheard : c.heard? c.tasks.length action = none := heard?_of_length_le (Nat.le_refl _)
  have hletter : (c.letter? action).bind (Letter.response? c.tasks.length) = none := by
    refine response?_eq_none fun l hl hsender => ?_
    obtain ⟨frame, bytes, -, -, hsending, -⟩ := letter?_eq_some hl
    rw [hsender, sending?, hnone] at hsending
    cases hsending
  have hresponses : responses (past.filterMap Moment.letter?) c.tasks.length = [] := by
    rw [responses, List.filterMap_eq_nil_iff]
    intro l hl
    rw [Letter.response?, if_neg]
    rintro ⟨hsender, hr⟩
    obtain ⟨number, id', call', hsender', horigin'⟩ := hs.senders l hl hr
    rw [hsender, Agent.task.injEq] at hsender'
    have hlt := (List.getElem?_eq_some_iff.mp horigin').1
    rw [hs.begun.length, ← hsender'] at hlt
    exact Nat.lt_irrefl _ hlt
  rw [hs.begun.silent _ (Nat.le_refl _), hheard, hletter, hresponses]
  exact ⟨_, (step_origin h horigin).2, phase_start⟩

/-- What holds of the requests of an open channel holds after every step. -/
theorem Served.step (hs : Served past c) (h : c.step action = some (d, events))
    (hd : d.closing = false) (hproper : c.setup.handler.Proper) (hfloor : 4096 ≤ c.setup.frameLimit)
    (hword : c.setup.frameLimit ≤ maxWord)
    (hstarted : ∀ routine, .started routine ∈ past.filterMap Moment.origin? → Routine.Silent routine) :
    Served (past ++ [⟨c, action, d, events⟩]) d := by
  have hc := open_of_step h hd
  refine ⟨hs.begun.step h, ping_of_step h hs.pings, fun l hl hr => ?_,
    fun number id call horigin => ?_⟩
  · rw [filterMap_concat, List.mem_append, Option.mem_toList] at hl
    obtain ⟨number, id, call, hsender, horigin⟩ :=
      hl.elim (fun hl => hs.senders l hl hr) fun hl => hs.origin_of_letter hc hstarted hl hr
    exact ⟨number, id, call, hsender, origin_append horigin _⟩
  · rw [filterMap_concat, responses_concat, (step_others h).setup]
    rcases hs.begun.origin_cases horigin with hold | ⟨rfl, hnew⟩
    · exact hs.phase_step h hd hproper hfloor hword hold
    · exact hs.phase_new h hnew

variable (setup : ChannelSetup ω ρ) (world : ω) (guarded : Bool)

/-- What holds of the requests of an open channel holds after every run in which only handlers
answer. -/
theorem served_after (actions : List (Action ω ρ))
    (hd : ((start setup world guarded).after actions).closing = false)
    (hproper : setup.handler.Proper) (hfloor : 4096 ≤ setup.frameLimit)
    (hword : setup.frameLimit ≤ maxWord)
    (hstarted : ∀ routine, .started routine ∈ (start setup world guarded).origins actions →
      Routine.Silent routine) :
    Served ((start setup world guarded).moments actions)
      ((start setup world guarded).after actions) := by
  refine (run_induction (P := fun past c => c.setup = setup ∧ (c.closing = false →
      (∀ routine, .started routine ∈ past.filterMap Moment.origin? → Routine.Silent routine) →
      Served past c)) _ ⟨rfl, fun _ _ => ?_⟩ ?_ actions).2 hd hstarted
  · refine ⟨begun_after setup world guarded [], fun frame time hbeat => ?_, by simp, by simp⟩
    simp only [start] at hbeat
    split at hbeat
    · split_ifs at hbeat
    · cases hbeat
  · rintro past c action d events ⟨rfl, hs⟩ h
    refine ⟨(step_others h).setup, fun hd hstarted => ?_⟩
    have hpast : ∀ routine, .started routine ∈ past.filterMap Moment.origin? →
        Routine.Silent routine := by
      intro routine hmem
      refine hstarted routine ?_
      rw [filterMap_concat]
      exact List.mem_append_left _ hmem
    exact (hs (open_of_step h hd) hpast).step h hd hproper hfloor hword hpast

/-! ## What is written -/

theorem bodies_letters {limit : ℕ} {letters : List Letter}
    (hwire : ∀ l ∈ letters, l.frame.wire limit = .ok l.bytes) (rest : Bytes) :
    Frame.bodies (letters.flatMap Letter.bytes ++ rest) =
      ((letters.map fun l => l.frame.body) ++ (Frame.bodies rest).1, (Frame.bodies rest).2) := by
  induction letters with
  | nil => rfl
  | cons l letters ih =>
    rw [List.flatMap_cons, List.append_assoc, Frame.bodies_wire_append (hwire l (by simp)),
      ih fun l' hl' => hwire l' (List.mem_cons_of_mem _ hl')]
    rfl

/-- What is written is the bodies of the letters that have been sent, and part of the next. -/
theorem bodies_written (actions : List (Action ω ρ))
    (hd : ((start setup world guarded).after actions).closing = false)
    (hl : (start setup world guarded).Unbroken actions) :
    ∃ part, Frame.bodies ((start setup world guarded).written actions) =
      (((start setup world guarded).sent actions).map fun l => l.frame.body, part) := by
  have hmail := mail_after setup world guarded actions hd hl
  obtain ⟨sent, underway, part, hletters, hcount, hwritten, ho⟩ := hmail.outgoing
  have hwire := hmail.wire
  rw [hletters] at hwire
  have hsent : (start setup world guarded).sent actions = sent := by
    rw [Channel.sent, hletters, List.take_left' hcount]
  have hpart : Frame.bodies part = ([], part) := by
    cases ho with
    | free => exact Frame.bodies_nil
    | @writing l letters part rest _ _ hmore hbytes =>
      have hl := hwire l (by simp)
      rw [hbytes] at hl
      exact Frame.bodies_part hl hmore
    | flushing => exact Frame.bodies_nil
  refine ⟨part, ?_⟩
  rw [hsent, hwritten, bodies_letters (fun l hl => hwire l (List.mem_append_left _ hl)), hpart,
    List.append_nil]

end Channel

end CommandLink
