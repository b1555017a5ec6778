import CommandLink.Proofs.Channel.Responses
import CommandLink.Proofs.Channel.Taking

/-!
# One response for every request

Every request that an open channel takes is answered once (`requests_answered`): after its handling
has ended one response with its identifier is sent, no other response is sent, and the other end can
read it. The response can be sent from every moment on (`Phase.exists_answered`), and what can be
sent is written.
-/

namespace CommandLink

namespace Channel

variable {ω ρ : Type} {c d e : Channel ω ρ} {events : List (Event ρ)} {number : ℕ}
  {setup : ChannelSetup ω ρ} {world : ω} {guarded : Bool} {id : CallId} {call : Call}
  {heard : List (Heard ω)} {stage stage' : Stage ω ρ} {frames : List Frame} {handled : Handled}

/-! ## The response can be sent -/

/-- A task takes a step, and goes on. -/
theorem exists_of_step {Q : Channel ω ρ → Prop} (hs : c.stage? number = some stage)
    (hstep : c.taskStep (.task number) stage .go = some (e, events, stage'))
    (he : e.closing = false)
    (hnext : ∀ d : Channel ω ρ, d.setup = c.setup → d.closing = false →
      d.stage? number = some stage' → ∃ first, d.Proceeds first ∧ Q (d.after first)) :
    ∃ first, c.Proceeds first ∧ Q (c.after first) := by
  have h : c.step (.agent (.task number) .go) = some (e.setStage number stage', events) := by
    simp only [step, agentStep, hs, hstep, Option.map_some]
  obtain ⟨e', stage'', hstep', hd, hstage⟩ := step_of_stage? hs h
  rw [hstep, Option.some.injEq, Prod.mk.injEq, Prod.mk.injEq] at hstep'
  obtain ⟨-, -, rfl⟩ := hstep'
  obtain ⟨first, hfirst, hq⟩ := hnext _ (step_others h).setup he hstage
  exact ⟨.agent (.task number) .go :: first, hfirst.cons h (by simp), by rwa [after_cons_of_step h]⟩

/-- The task has sent its response. -/
def HasAnswered (number : ℕ) (c : Channel ω ρ) : Prop :=
  ∃ stage, c.stage? number = some stage ∧ stage.answered = true

/-- A response that can be sent joins the line. -/
theorem exists_encoded {last : Bool} {frame : Frame} {next : Unit → Routine ω ρ Unit}
    {bytes : Bytes}
    (hs : c.stage? number = some (.respond id last (.encode frame) next))
    (hwire : frame.wire c.setup.frameLimit = .ok bytes) (hc : c.closing = false) :
    ∃ first, c.Proceeds first ∧ HasAnswered number (c.after first) := by
  have hstep : c.taskStep (.task number) (.respond id last (.encode frame) next) .go =
      some ({ c with writer := c.writer.enqueue (.task number) }, [],
        .respond id last (.queued bytes) next) := by
    simp only [taskStep, sendStep, hwire, Option.map_some]
  exact exists_of_step hs hstep hc fun d _ hd hstage => ⟨[], proceeds_nil hd, _, hstage, rfl⟩

/-- A response that cannot be sent is refused, and its refusal joins the line. -/
theorem exists_refused {e : FrameError} (hfloor : 4096 ≤ c.setup.frameLimit)
    (hword : c.setup.frameLimit ≤ maxWord)
    (hsize : (Frame.response id (handled.result call)).body.length ≤ maxWord)
    (hwire : (Frame.response id (handled.result call)).wire c.setup.frameLimit = .error e)
    (hs : c.stage? number =
      some (.respond id true (.encode (.response id (.error ⟨e.message⟩))) .done))
    (hc : c.closing = false) : ∃ first, c.Proceeds first ∧ HasAnswered number (c.after first) := by
  obtain ⟨bytes, hrefusal⟩ := Frame.wire_of_refused hfloor hword hsize hwire id
  exact exists_encoded hs hrefusal hc

/-- A response is encoded or refused. -/
theorem exists_answering (hfloor : 4096 ≤ c.setup.frameLimit) (hword : c.setup.frameLimit ≤ maxWord)
    (hsize : (Frame.response id (handled.result call)).body.length ≤ maxWord)
    (hs : c.stage? number =
      some (.respond id false (.encode (.response id (handled.result call))) .done))
    (hc : c.closing = false) : ∃ first, c.Proceeds first ∧ HasAnswered number (c.after first) := by
  rcases hwire : (Frame.response id (handled.result call)).wire c.setup.frameLimit with e | bytes
  · have hstep : c.taskStep (.task number)
        (.respond id false (.encode (.response id (handled.result call))) .done) .go =
        some (c, [], .respond id true (.encode (.response id (.error ⟨e.message⟩))) .done) := by
      simp only [taskStep, sendStep, hwire, Option.map_some]
    refine exists_of_step hs hstep hc fun d hsetup hd hstage => ?_
    rw [← hsetup] at hfloor hword hwire
    exact exists_refused hfloor hword hsize hwire hstage hd
  · exact exists_encoded hs hwire hc

/-- **A call whose handling has ended can be answered.** -/
theorem Phase.exists_answered (hp : Phase c.setup id call heard stage frames)
    (hreturns : c.setup.handler.Returns call heard handled) (hproper : c.setup.handler.Proper)
    (hfloor : 4096 ≤ c.setup.frameLimit) (hword : c.setup.frameLimit ≤ maxWord)
    (hs : c.stage? number = some stage) (hc : c.closing = false) :
    ∃ first, c.Proceeds first ∧ HasAnswered number (c.after first) := by
  have hsize : ∀ {heard handled}, Routine.follow (c.setup.handler call) heard =
      some (.done handled) → (Frame.response id (handled.result call)).body.length ≤ maxWord :=
    fun hfollow => (hproper id call).follow hfollow
  cases hp with
  | @handling left _ hfollow hbusy =>
    -- What has ended hears nothing more.
    obtain ⟨first, ⟨later, rfl⟩, hended⟩ := hreturns
    rw [Routine.follow_append, hended, Option.bind_some] at hfollow
    obtain ⟨-, hdone⟩ := Routine.follow_done hfollow
    exact absurd hdone (hbusy handled)
  | @due handled hfollow =>
    have hstep : c.taskStep (.task number)
        (.ready (Routine.respond id (handled.result call))) .go =
        some (c, [], .respond id false (.encode (.response id (handled.result call))) .done) := rfl
    refine exists_of_step hs hstep hc fun d hsetup hd hstage => ?_
    rw [← hsetup] at hfloor hword
    exact exists_answering hfloor hword (hsize hfollow) hstage hd
  | answering hfollow => exact exists_answering hfloor hword (hsize hfollow) hs hc
  | refusing hfollow hwire => exact exists_refused hfloor hword (hsize hfollow) hwire hs hc
  | @sending _ _ s hfollow hencoded =>
    refine ⟨[], proceeds_nil hc, _, hs, ?_⟩
    cases s with
    | encode frame => exact absurd rfl (hencoded frame)
    | _ => rfl
  | answered hheard hfollow hover =>
    refine ⟨[], proceeds_nil hc, _, hs, ?_⟩
    rcases hover with rfl | rfl
    · rfl
    · rfl

/-! ## Runs of an open channel -/

/-- A run in which the channel stays open, the link takes all that is written, and only the channel
answers requests. The limit for frames is one that may be configured. -/
structure Healthy (setup : ChannelSetup ω ρ) (world : ω) (guarded : Bool)
    (actions : List (Action ω ρ)) : Prop where
  floor : 4096 ≤ setup.frameLimit
  word : setup.frameLimit ≤ maxWord
  proper : setup.handler.Proper
  silent : ∀ m ∈ (start setup world guarded).moments actions, ∀ routine,
    m.action = .start routine → Routine.Silent routine
  closing : ((start setup world guarded).after actions).closing = false
  unbroken : (start setup world guarded).Unbroken actions

/-- The request of a task is answered once, with a response that the other end can read: it is sent
in every continuation of the run that goes on for long enough. -/
structure AnsweredOnce (c : Channel ω ρ) (actions : List (Action ω ρ)) (number : ℕ)
    (response : Frame) : Prop where
  once : responses (c.letters actions) number = [] ∨
    responses (c.letters actions) number = [response]
  ended : (c.after actions).stage? number = some .done →
    responses (c.sent actions) number = [response]
  soon : ∃ later, (c.after actions).Proceeds later ∧
    responses (c.sent (actions ++ later)) number = [response]
  rest : (c.after actions).AtRest → responses (c.sent actions) number = [response]
  fits : response.body.length ≤ c.setup.frameLimit
  read : Frame.decode c.setup.frameLimit response.body = .ok response

/-- A routine of a task has been started. -/
theorem start_of_origin {routine : Routine ω ρ Unit} {m : Moment ω ρ}
    (h : m.origin? = some (.started routine)) : m.action = .start routine := by
  rw [Moment.origin?] at h
  unfold origin? at h
  split at h
  · cases h
    assumption
  · split at h
    · split_ifs at h
      cases h
    · cases h
  · cases h

/-- Letters that have not been written are still being sent. -/
theorem Outgoing.sending {letters : List Letter} {part : Bytes} (ho : c.Outgoing letters part)
    {l : Letter} (hl : l ∈ letters) : ∃ s, c.sending? l.sender = some s := by
  cases ho with
  | free _ hw => exact ⟨_, hw.queued l hl⟩
  | writing _ hs _ _ hw =>
    rcases List.mem_cons.mp hl with rfl | hl
    · exact ⟨_, hs⟩
    · exact ⟨_, hw.queued l hl⟩
  | flushing _ _ hw => exact ⟨_, hw.queued l hl⟩

/-- Where no agent can go on all that has arrived has been read. -/
theorem AtRest.inbox_eq_nil {result : Except FrameError Frame.Partial} (hr : c.AtRest)
    (hc : c.closing = false) (hreads : Reads c.reader result) : c.inbox = [] := by
  have hnone := hr .reader .go (by simp)
  rw [step, agentStep, Option.map_eq_none_iff] at hnone
  rcases hreads with ⟨incomplete, hreader, -⟩ | hreader
  · rw [hreader, readerStep] at hnone
    by_contra hinbox
    rw [if_neg hinbox] at hnone
    split at hnone
    all_goals cases hnone
  · rw [hreader] at hnone
    simp [readerStep, closeStep, hc] at hnone

section Healthy

variable {actions later : List (Action ω ρ)}

theorem Healthy.append (h : Healthy setup world guarded actions)
    (hlater : ((start setup world guarded).after actions).Proceeds later) :
    Healthy setup world guarded (actions ++ later) where
  floor := h.floor
  word := h.word
  proper := h.proper
  silent m hm routine haction := by
    rw [moments_append, List.mem_append] at hm
    rcases hm with hm | hm
    · exact h.silent m hm routine haction
    · obtain ⟨a, choice, hagent⟩ := hlater.quiet m hm
      rw [haction] at hagent
      cases hagent
  closing := by rw [after_append, hlater.closing]
  unbroken m hm := by
    rw [moments_append, List.mem_append] at hm
    exact hm.elim (h.unbroken m) (hlater.unbroken m)

theorem Healthy.served (h : Healthy setup world guarded actions) :
    Served ((start setup world guarded).moments actions)
      ((start setup world guarded).after actions) := by
  refine served_after setup world guarded actions h.closing h.proper h.floor h.word ?_
  intro routine hm
  obtain ⟨m, hm, horigin⟩ := List.mem_filterMap.mp hm
  exact h.silent m hm routine (start_of_origin horigin)

/-- The task of a request has come to some phase. -/
theorem Healthy.phase (h : Healthy setup world guarded actions)
    (horigin : ((start setup world guarded).origins actions)[number]? = some (.requested id call)) :
    ∃ stage, ((start setup world guarded).after actions).stage? number = some stage ∧
      Phase setup id call ((start setup world guarded).heard actions number) stage
        (responses ((start setup world guarded).letters actions) number) := by
  have hphase := h.served.phases number id call horigin
  rwa [setup_after] at hphase

/-- A response that has been sent is the answer to the call. -/
theorem Healthy.responses_eq (h : Healthy setup world guarded actions)
    (horigin : ((start setup world guarded).origins actions)[number]? = some (.requested id call))
    (hreturns : setup.handler.Returns call ((start setup world guarded).heard actions number) handled)
    (hne : responses ((start setup world guarded).letters actions) number ≠ []) :
    responses ((start setup world guarded).letters actions) number =
      [.response id (handled.answer setup.frameLimit id call)] := by
  obtain ⟨stage, -, hp⟩ := h.phase horigin
  rcases hp.frames_cases with hnil | ⟨handled', hreturns', hframes⟩
  · exact absurd hnil hne
  · rw [hframes, hreturns.unique hreturns']

/-- A task that is over has written its response. -/
theorem Healthy.sent_of_done (h : Healthy setup world guarded actions)
    (horigin : ((start setup world guarded).origins actions)[number]? = some (.requested id call))
    (hreturns : setup.handler.Returns call ((start setup world guarded).heard actions number) handled)
    (hdone : ((start setup world guarded).after actions).stage? number = some .done) :
    responses ((start setup world guarded).sent actions) number =
      [.response id (handled.answer setup.frameLimit id call)] := by
  obtain ⟨stage, hstage, hp⟩ := h.phase horigin
  rw [hdone, Option.some.injEq] at hstage
  subst hstage
  have hall := h.responses_eq horigin hreturns (hp.of_answered h.proper rfl)
  obtain ⟨sent, underway, part, hletters, hcount, -, ho⟩ :=
    (mail_after setup world guarded actions h.closing h.unbroken).outgoing
  have hsent : (start setup world guarded).sent actions = sent := by
    rw [Channel.sent, hletters, List.take_left' hcount]
  have hunderway : responses underway number = [] := by
    rw [responses, List.filterMap_eq_nil_iff]
    intro l hl
    rw [Letter.response?, if_neg]
    rintro ⟨hsender, -⟩
    obtain ⟨s, hs⟩ := ho.sending hl
    rw [hsender, sending?, hdone] at hs
    cases hs
  rw [hletters, responses, List.filterMap_append] at hall
  rw [responses] at hunderway
  rw [hsent, responses, ← hall, hunderway, List.append_nil]

/-- A call whose handling has ended is answered in some continuation of the run. -/
theorem Healthy.exists_sent (h : Healthy setup world guarded actions)
    (horigin : ((start setup world guarded).origins actions)[number]? = some (.requested id call))
    (hreturns :
      setup.handler.Returns call ((start setup world guarded).heard actions number) handled) :
    ∃ later, ((start setup world guarded).after actions).Proceeds later ∧
      responses ((start setup world guarded).sent (actions ++ later)) number =
        [.response id (handled.answer setup.frameLimit id call)] := by
  have hsetup : ((start setup world guarded).after actions).setup = setup := setup_after _ actions
  obtain ⟨stage, hstage, hp⟩ := h.phase horigin
  obtain ⟨first, hfirst, stage', hstage', hanswered⟩ :=
    Phase.exists_answered (c := (start setup world guarded).after actions) (by rwa [hsetup])
      (by rwa [hsetup]) (by rw [hsetup]; exact h.proper) (by rw [hsetup]; exact h.floor)
      (by rw [hsetup]; exact h.word) hstage h.closing
  -- Once the response has joined the line, the line is written.
  have h' := h.append hfirst
  have horigin' : ((start setup world guarded).origins (actions ++ first))[number]? =
      some (.requested id call) := by
    have hlt := (List.getElem?_eq_some_iff.mp horigin).1
    rw [origins] at horigin hlt ⊢
    rw [moments_append, List.filterMap_append, List.getElem?_append_left hlt, horigin]
  have hreturns' : setup.handler.Returns call
      ((start setup world guarded).heard (actions ++ first) number) handled := by
    rw [heard, moments_append, List.filterMap_append]
    exact hreturns.mono
  obtain ⟨stage'', hstage'', hp'⟩ := h'.phase horigin'
  rw [after_append, hstage', Option.some.injEq] at hstage''
  subst hstage''
  have hall := h'.responses_eq horigin' hreturns' (hp'.of_answered h.proper hanswered)
  obtain ⟨later, hlater, hsent⟩ :=
    canClear_after setup world guarded (actions ++ first) h'.closing h'.unbroken
  refine ⟨first ++ later, hfirst.append ?_, ?_⟩
  · rw [← after_append]
    exact hlater.toProceeds
  · rw [← List.append_assoc, hsent, hall]

/-- **The request of a task is answered once** its handling has ended. -/
theorem Healthy.answeredOnce (h : Healthy setup world guarded actions)
    (horigin : ((start setup world guarded).origins actions)[number]? = some (.requested id call))
    (hreturns :
      setup.handler.Returns call ((start setup world guarded).heard actions number) handled) :
    (start setup world guarded).AnsweredOnce actions number
      (.response id (handled.answer setup.frameLimit id call)) := by
  obtain ⟨later, hlater, hsent⟩ := h.exists_sent horigin hreturns
  obtain ⟨w, hw⟩ : ∃ w, (Frame.response id (handled.answer setup.frameLimit id call)).wire
      setup.frameLimit = .ok w := by
    obtain ⟨first, -, hfollow⟩ := hreturns
    exact Handled.wire_answer h.floor h.word ((h.proper id call).follow hfollow)
  have hfits := (Frame.wire_eq_ok_iff.mp hw).1
  refine ⟨?_, h.sent_of_done horigin hreturns, ⟨later, hlater, hsent⟩, fun hr => ?_, hfits,
    Frame.decode_body trivial hfits⟩
  · by_cases hne : responses ((start setup world guarded).letters actions) number = []
    · exact .inl hne
    · exact .inr (h.responses_eq horigin hreturns hne)
  · have hmoments := moments_append (start setup world guarded) actions later
    rw [hr.moments hlater, List.append_nil] at hmoments
    rwa [Channel.sent, letters, hmoments] at hsent

/-! ## Requests and responses -/

/-- What goes in and out in a run. The reader takes the frames of what has arrived, as far as it has
been read, and for every request among them a task begins. What is written is the bodies of the
letters that have been sent and part of the next, and responses come from the tasks of requests
alone. -/
structure Traffic (c : Channel ω ρ) (actions : List (Action ω ρ)) : Prop where
  read : ∃ read result, c.delivered actions = read ++ (c.after actions).inbox ∧
    Frame.Partial.start.feed c.setup.frameLimit read = (c.taken actions, result)
  rest : (c.after actions).AtRest → (c.after actions).inbox = []
  requests : (c.origins actions).filterMap Origin.request? =
    (c.taken actions).filterMap Frame.request?
  written : ∃ part,
    Frame.bodies (c.written actions) = ((c.sent actions).map fun l => l.frame.body, part)
  responses : ∀ l ∈ c.letters actions, l.frame.isResponse = true →
    ∃ (number : ℕ) (id : CallId) (call : Call), l.sender = .task number ∧
      (c.origins actions)[number]? = some (.requested id call)

theorem Healthy.traffic (h : Healthy setup world guarded actions) :
    (start setup world guarded).Traffic actions := by
  obtain ⟨read, result, hdelivered, hfeed, hreads⟩ :=
    taken_after setup world guarded actions h.closing
  exact ⟨⟨read, result, hdelivered, hfeed⟩, fun hr => hr.inbox_eq_nil h.closing hreads,
    requests_after setup world guarded actions h.closing,
    bodies_written setup world guarded actions h.closing h.unbroken, h.served.senders⟩

/-- **One response for every request.** While a channel stays open and its link takes all that is
written, the task of a request sends no response before the handling has ended. After that it sends
one, with the identifier of the request: what the handler has returned, where that fits the limit
for frames and its length four bytes, and else the failure that says how large it is, or the failure
of a handler that has broken down. No other responses are written. -/
theorem requests_answered (h : Healthy setup world guarded actions) :
    (start setup world guarded).Traffic actions ∧
    ∀ (number : ℕ) (id : CallId) (call : Call),
      ((start setup world guarded).origins actions)[number]? = some (.requested id call) →
      ((∀ handled, ¬ setup.handler.Returns call
          ((start setup world guarded).heard actions number) handled) →
        responses ((start setup world guarded).letters actions) number = []) ∧
      ∀ handled,
        setup.handler.Returns call ((start setup world guarded).heard actions number) handled →
        (start setup world guarded).AnsweredOnce actions number
          (.response id (handled.answer setup.frameLimit id call)) ∧
        (handled = .panicked → handled.answer setup.frameLimit id call =
          .error ⟨call.kind ++ " handler failed"⟩) := by
  refine ⟨h.traffic, fun number id call horigin => ⟨fun hnone => ?_, fun handled hreturns =>
    ⟨h.answeredOnce horigin hreturns, ?_⟩⟩⟩
  · obtain ⟨stage, -, hp⟩ := h.phase horigin
    rcases hp.frames_cases with hnil | ⟨handled, hreturns, -⟩
    · exact hnil
    · exact absurd hreturns (hnone handled)
  · rintro rfl
    exact Handled.answer_panicked h.floor id call

end Healthy

/-- A request arrives, and its task goes on until it is over. -/
def refusedRequest : List (Action Unit Unit) :=
  let body := (Frame.request 7 .readBuildToken).body
  [.deliver (Bytes.bigEndian 4 body.length ++ body), .agent .reader .go, .agent (.task 0) .go,
    .agent (.task 0) .go, .agent (.task 0) .go, .agent (.task 0) (.write 200), .agent (.task 0) .go,
    .agent (.task 0) .go]

/-- The request of a link on which nothing is accepted is answered with its refusal. -/
theorem requests_answered_refusal :
    Healthy refusingLink () false refusedRequest ∧
    (start refusingLink () false).AnsweredOnce refusedRequest 0
      (.response 7 (.error ⟨"read_build_token is not accepted on this side"⟩)) ∧
    ((start refusingLink () false).sent refusedRequest).length = 1 := by
  have h : Healthy refusingLink () false refusedRequest := by
    refine ⟨by decide, by decide, Handler.proper_refuseAll, fun m hm routine haction => ?_,
      by decide +kernel, fun m hm a error haction => ?_⟩
    · have hmem := action_mem_of_mem_moments _ hm
      rw [haction] at hmem
      simp [refusedRequest] at hmem
    · have hmem := action_mem_of_mem_moments _ hm
      rw [haction] at hmem
      simp [refusedRequest] at hmem
  have hrequests : ((start refusingLink () false).origins refusedRequest).map Origin.request? =
      [some (7, .readBuildToken)] := by decide +kernel
  obtain ⟨origin, horigins, horigin⟩ := List.map_eq_singleton_iff.mp hrequests
  have hfirst : ((start refusingLink () false).origins refusedRequest)[0]? =
      some (.requested 7 .readBuildToken) := by
    rw [horigins, Origin.eq_requested horigin]
    rfl
  have hreturns : refusingLink.handler.Returns .readBuildToken
      ((start refusingLink () false).heard refusedRequest 0)
      (.answered (.error ⟨"read_build_token is not accepted on this side"⟩)) :=
    ⟨[], List.nil_prefix, rfl⟩
  have hanswer : (Handled.answered (.error ⟨"read_build_token is not accepted on this side"⟩)).answer
      refusingLink.frameLimit 7 .readBuildToken =
        .error ⟨"read_build_token is not accepted on this side"⟩ := by decide +kernel
  have hanswered := (((requests_answered h).2 0 7 .readBuildToken hfirst).2 _ hreturns).1
  rw [hanswer] at hanswered
  exact ⟨h, hanswered, by decide +kernel⟩

end Channel

end CommandLink
