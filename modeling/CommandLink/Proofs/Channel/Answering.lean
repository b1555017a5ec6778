import CommandLink.Proofs.Channel.Clearing
import CommandLink.Proofs.Channel.Following
import CommandLink.Proofs.Frame.Refusal

/-!
# How a request is answered

The task of a request handles the call, and when the handler has returned or broken down it sends
one response: what the handler has returned, or the refusal of it where that is too large
(`Handled.answer`). `Phase` is how far a task has come with this, together with the responses that
it has sent so far, and `Phase.step` follows it through every step of the task.
-/

namespace CommandLink

variable {ω ρ α β : Type}

/-- Whether a frame is a response. -/
def Frame.isResponse : Frame → Bool
  | .response _ _ => true
  | _ => false

/-- The frame of a letter, if it is a response and comes from a task. -/
def Letter.response? (number : ℕ) (l : Letter) : Option Frame :=
  if l.sender = .task number ∧ l.frame.isResponse then some l.frame else none

/-! ## What handlers do -/

/-- An operation that answers no request. -/
def Op.Silent : Op ω ρ → Prop
  | .respond _ _ => False
  | _ => True

/-- A routine that answers no request itself. -/
def Routine.Silent (routine : Routine ω ρ α) : Prop :=
  Dialogue.All Op.Silent (fun _ => True) routine

/-- A handler that leaves answering to the channel. The frames of its results have no more bytes
than a machine word can count. -/
def Handler.Proper (handler : Handler ω ρ) : Prop :=
  ∀ id call, Dialogue.All Op.Silent
    (fun handled : Handled => (Frame.response id (handled.result call)).body.length ≤ maxWord)
    (handler call)

/-- What a request is answered with after its handling, on a channel with a limit for frames. A
frame also has to be shorter than four bytes can tell. -/
def Handled.answer (handled : Handled) (limit : ℕ) (id : CallId) (call : Call) :
    Except Failure Reply :=
  let size := (Frame.response id (handled.result call)).body.length
  if size ≤ limit ∧ size < 4294967296 then handled.result call
  else .error ⟨(FrameError.tooLarge size limit).message⟩

/-- The handling of a call has ended, for a task that has heard some answers. -/
def Handler.Returns (handler : Handler ω ρ) (call : Call) (heard : List (Heard ω))
    (handled : Handled) : Prop :=
  ∃ first, first <+: heard ∧ Routine.follow (handler call) first = some (.done handled)

theorem Handler.Returns.unique {handler : Handler ω ρ} {call : Call} {heard : List (Heard ω)}
    {handled handled' : Handled} (h : handler.Returns call heard handled)
    (h' : handler.Returns call heard handled') : handled = handled' := by
  -- What has ended hears nothing more.
  have hsame : ∀ {first first' : List (Heard ω)} {x y : Handled}, first <+: first' →
      Routine.follow (handler call) first = some (.done x) →
      Routine.follow (handler call) first' = some (.done y) → x = y := by
    rintro first _ x y ⟨later, rfl⟩ hx hy
    rw [Routine.follow_append, hx, Option.bind_some] at hy
    obtain ⟨-, hdone⟩ := Routine.follow_done hy
    cases hdone
    rfl
  obtain ⟨first, hp, hf⟩ := h
  obtain ⟨first', hp', hf'⟩ := h'
  rcases List.prefix_or_prefix_of_prefix hp hp' with hle | hle
  · exact hsame hle hf hf'
  · exact (hsame hle hf' hf).symm

/-- What has been heard is not forgotten. -/
theorem Handler.Returns.mono {handler : Handler ω ρ} {call : Call} {heard more : List (Heard ω)}
    {handled : Handled} (h : handler.Returns call heard handled) :
    handler.Returns call (heard ++ more) handled := by
  obtain ⟨first, hp, hfollow⟩ := h
  exact ⟨first, hp.trans (List.prefix_append _ _), hfollow⟩

theorem Handled.answer_of_wire {handled : Handled} {limit : ℕ} {id : CallId} {call : Call} {w : Bytes}
    (h : (Frame.response id (handled.result call)).wire limit = .ok w) :
    handled.answer limit id call = handled.result call := by
  obtain ⟨hl, hb, -⟩ := Frame.wire_eq_ok_iff.mp h
  exact if_pos ⟨hl, hb⟩

/-- What replaces an answer that is too large. -/
theorem Handled.answer_of_error {handled : Handled} {limit : ℕ} {id : CallId} {call : Call}
    {e : FrameError} (h : (Frame.response id (handled.result call)).wire limit = .error e) :
    handled.answer limit id call = .error ⟨e.message⟩ := by
  obtain ⟨rfl, hfits⟩ := Frame.tooLarge_of_wire h
  exact if_neg hfits

theorem Call.length_kind_le (call : Call) : call.kind.length ≤ 18 := by
  have hall : ∀ kind ∈ Call.kinds, kind.length ≤ 18 := by decide
  exact hall _ call.kind_mem_kinds

/-- An answer can be sent. -/
theorem Handled.wire_answer {handled : Handled} {limit : ℕ} {id : CallId} {call : Call}
    (hfloor : 4096 ≤ limit) (hword : limit ≤ maxWord)
    (hsize : (Frame.response id (handled.result call)).body.length ≤ maxWord) :
    ∃ w, (Frame.response id (handled.answer limit id call)).wire limit = .ok w := by
  rcases h : (Frame.response id (handled.result call)).wire limit with e | w
  · rw [Handled.answer_of_error h]
    exact Frame.wire_of_refused hfloor hword hsize h id
  · rw [Handled.answer_of_wire h]
    exact ⟨w, h⟩

theorem Handler.proper_refuseAll : (Handler.refuseAll : Handler ω ρ).Proper := by
  intro id call
  have hmessage : (call.kind ++ " is not accepted on this side").length ≤ 100 := by
    have hkind := call.length_kind_le
    have hwords : " is not accepted on this side".length = 29 := rfl
    rw [String.length_append, hwords]
    omega
  obtain ⟨w, hw⟩ := Frame.wire_failure (Nat.le_refl 4096) hmessage id
  exact Nat.le_trans (Frame.wire_eq_ok_iff.mp hw).1 (by decide)

/-- A call whose handler breaks down is answered with the failure that says so. -/
theorem Handled.answer_panicked {limit : ℕ} (hfloor : 4096 ≤ limit) (id : CallId) (call : Call) :
    Handled.panicked.answer limit id call = .error ⟨call.kind ++ " handler failed"⟩ := by
  have hmessage : (call.kind ++ " handler failed").length ≤ 100 := by
    have hkind := call.length_kind_le
    have hwords : " handler failed".length = 15 := rfl
    rw [String.length_append, hwords]
    omega
  obtain ⟨w, hw⟩ := Frame.wire_failure hfloor hmessage id
  exact Handled.answer_of_wire hw

namespace Channel

variable {c d : Channel ω ρ} {action : Action ω ρ} {events : List (Event ρ)} {number : ℕ}
  {choice : Choice} {setup : ChannelSetup ω ρ} {id : CallId} {call : Call} {heard : List (Heard ω)}
  {stage : Stage ω ρ} {frames : List Frame}

/-! ## The task of a request -/

/-- How far the task of a request has come after what it has heard, with the responses that it has
sent. -/
inductive Phase (setup : ChannelSetup ω ρ) (id : CallId) (call : Call) (heard : List (Heard ω)) :
    Stage ω ρ → List Frame → Prop
  | handling {left : Routine ω ρ Handled} {stage : Stage ω ρ}
    (follow : Routine.follow (setup.handler call) heard = some left)
    (busy : ∀ handled, left ≠ .done handled)
    (performs : Stage.Performs setup.frameLimit
      (left.bind fun handled => Routine.respond id (handled.result call)) stage) :
    Phase setup id call heard stage []
  /-- The handler has returned or broken down. -/
  | due {handled : Handled}
    (follow : Routine.follow (setup.handler call) heard = some (.done handled)) :
    Phase setup id call heard (.ready (Routine.respond id (handled.result call))) []
  | answering {handled : Handled}
    (follow : Routine.follow (setup.handler call) heard = some (.done handled)) :
    Phase setup id call heard
      (.respond id false (.encode (.response id (handled.result call))) .done) []
  | refusing {handled : Handled} {e : FrameError}
    (follow : Routine.follow (setup.handler call) heard = some (.done handled))
    (wire : (Frame.response id (handled.result call)).wire setup.frameLimit = .error e) :
    Phase setup id call heard (.respond id true (.encode (.response id (.error ⟨e.message⟩))) .done) []
  /-- The response is on its way out. -/
  | sending {handled : Handled} {last : Bool} {stage : SendStage}
    (follow : Routine.follow (setup.handler call) heard = some (.done handled))
    (encoded : ∀ frame, stage ≠ .encode frame) :
    Phase setup id call heard (.respond id last stage .done)
      [.response id (handled.answer setup.frameLimit id call)]
  | answered {handled : Handled} {first : List (Heard ω)} {stage : Stage ω ρ}
    (heard_eq : heard = first ++ [.done])
    (follow : Routine.follow (setup.handler call) first = some (.done handled))
    (ended : stage = .ready (.done ()) ∨ stage = .done) :
    Phase setup id call heard stage [.response id (handled.answer setup.frameLimit id call)]

theorem Phase.wake (h : Phase setup id call heard stage frames) :
    Phase setup id call heard (Stage.wake stage) frames := by
  cases h with
  | handling hfollow hbusy hp => exact .handling hfollow hbusy hp.wake
  | due hfollow => exact .due hfollow
  | answering hfollow => exact .answering hfollow
  | refusing hfollow hwire => exact .refusing hfollow hwire
  | sending hfollow hencoded => exact .sending hfollow hencoded
  | answered hheard hfollow hover =>
    refine .answered hheard hfollow ?_
    rcases hover with rfl | rfl
    · exact .inl rfl
    · exact .inr rfl

/-- A task that goes on with handling a request goes on with it, or answers it. -/
theorem phase_ready {left : Routine ω ρ Handled}
    (h : Routine.follow (setup.handler call) heard = some left) :
    Phase setup id call heard
      (.ready (left.bind fun handled => Routine.respond id (handled.result call))) [] := by
  rcases left with handled | ⟨op, next⟩
  · exact .due h
  · exact .handling h (by simp) (.ready _)

/-- The task of a request begins with handling it. -/
theorem phase_start : Phase setup id call [] (.ready (setup.handler.serve id call)) [] :=
  phase_ready (Routine.follow_nil _)

/-! ## The letters of a task -/

/-- Only a routine that answers a request sends a response. -/
theorem asks_of_letter {l : Letter} {limit : ℕ} {left : Routine ω ρ Unit}
    (hs : c.stage? number = some stage) (hp : Stage.Performs limit left stage)
    (hl : c.letter? action = some l) (hsender : l.sender = .task number)
    (hr : l.frame.isResponse = true) : ∃ id result next, left = .ask (.respond id result) next := by
  obtain ⟨frame, bytes, heq, -, hsending, -⟩ := letter?_eq_some hl
  rw [heq] at hr
  rw [hsender, sending?, hs, Option.bind_some] at hsending
  cases hp with
  | respond id result stage next => exact ⟨id, result, next, rfl⟩
  | refuse id result e stage next => exact ⟨id, result, next, rfl⟩
  | call call stage next hcarries =>
    cases stage with
    | send id s =>
      cases hsending
      obtain ⟨id', rfl⟩ := hcarries
      cases hr
    | _ => cases hsending
  | publish name value stage next hcarries =>
    cases hsending
    cases hcarries
    cases hr
  | _ => cases hsending

theorem response?_eq_none (h : ∀ l, c.letter? action = some l → l.sender = .task number →
    l.frame.isResponse = false) : (c.letter? action).bind (Letter.response? number) = none := by
  rw [Option.bind_eq_none_iff]
  intro l hl
  rw [Letter.response?, if_neg]
  rintro ⟨hsender, hr⟩
  rw [h l hl hsender] at hr
  cases hr

theorem response?_of_not_encode (hs : c.stage? number = some stage)
    (hn : ∀ frame, stage.sending? ≠ some (.encode frame)) :
    (c.letter? action).bind (Letter.response? number) = none := by
  refine response?_eq_none fun l hl hsender => ?_
  obtain ⟨frame, -, -, -, hsending, -⟩ := letter?_eq_some hl
  rw [hsender, sending?, hs, Option.bind_some] at hsending
  exact absurd hsending (hn frame)

/-! ## The steps of the task -/

/-- While a call is handled no response is sent. -/
theorem phase_step_handling {left : Routine ω ρ Handled} {stage' : Stage ω ρ}
    (hproper : setup.handler.Proper) (hsetup : c.setup = setup)
    (hfollow : Routine.follow (setup.handler call) heard = some left)
    (hbusy : ∀ handled, left ≠ .done handled)
    (hp : Stage.Performs setup.frameLimit
      (left.bind fun handled => Routine.respond id (handled.result call)) stage)
    (hs : c.stage? number = some stage)
    (h : c.taskStep (.task number) stage choice = some (d, events, stage')) :
    Phase setup id call (heard ++ (c.stageHeard? (.task number) choice stage).toList) stage'
      ((c.letter? (.agent (.task number) choice)).bind (Letter.response? number)).toList := by
  rcases left with handled | ⟨op, next⟩
  · exact absurd rfl (hbusy handled)
  have hsilent : Op.Silent op := ((hproper id call).follow hfollow).1
  have hletter : (c.letter? (.agent (.task number) choice)).bind (Letter.response? number) = none := by
    refine response?_eq_none fun l hl hsender => Bool.eq_false_iff.mpr fun hr => ?_
    obtain ⟨id', result, next', heq⟩ := asks_of_letter hs hp hl hsender hr
    cases heq
    exact hsilent
  rw [hletter, Option.toList_none]
  subst hsetup
  rcases taskStep_goesOn hp h with ⟨hheard, hp'⟩ | ⟨x, left', hheard, hleft', rfl⟩
  · rw [hheard, Option.toList_none, List.append_nil]
    exact .handling hfollow hbusy hp'
  · obtain ⟨a, ha, hnext⟩ := Option.bind_eq_some_iff.mp hleft'
    rw [Routine.follow_nil, Option.some.injEq] at hnext
    subst hnext
    have hfollow' : Routine.follow (c.setup.handler call) (heard ++ [x]) = some (next a) := by
      rw [Routine.follow_append, hfollow, Option.bind_some, Routine.follow, ha, Option.bind_some,
        Routine.follow_nil]
    rw [hheard, Option.toList_some]
    exact phase_ready hfollow'

/-- A response that can be sent joins the line. -/
theorem step_encoded {last : Bool} {frame : Frame} {next : Unit → Routine ω ρ Unit}
    {stage' : Stage ω ρ} {bytes : Bytes} (hwire : frame.wire c.setup.frameLimit = .ok bytes)
    (hs : c.stage? number = some (.respond id last (.encode frame) next))
    (h : c.taskStep (.task number) (.respond id last (.encode frame) next) choice =
      some (d, events, stage')) :
    stage' = .respond id last (.queued bytes) next ∧
      c.stageHeard? (.task number) choice (.respond id last (.encode frame) next) = none ∧
      c.letter? (.agent (.task number) choice) = some ⟨.task number, frame, bytes⟩ := by
  cases choice
  case go =>
    have hstep : c.sendStep (.task number) (.encode frame) .go =
        some ({ c with writer := c.writer.enqueue (.task number) }, [], .more (.queued bytes)) := by
      simp only [sendStep, hwire]
    simp only [taskStep, hstep, Option.map_some, Option.some.injEq, Prod.mk.injEq] at h
    refine ⟨h.2.2.symm, ?_, ?_⟩
    · simp only [stageHeard?, hstep, Option.bind_some]
    · simp only [letter?, sending?, hs, Option.bind_some, Stage.sending?, hwire]
  all_goals cases h

theorem response?_response (result : Except Failure Reply) (bytes : Bytes) :
    Letter.response? number ⟨.task number, .response id result, bytes⟩ =
      some (.response id result) :=
  if_pos ⟨rfl, rfl⟩

/-- The response is encoded, or refused where it is too large. -/
theorem phase_step_answering {handled : Handled} {stage' : Stage ω ρ} (hsetup : c.setup = setup)
    (hfollow : Routine.follow (setup.handler call) heard = some (.done handled))
    (hstage : stage = .respond id false (.encode (.response id (handled.result call))) .done)
    (hs : c.stage? number = some stage)
    (h : c.taskStep (.task number) stage choice = some (d, events, stage')) :
    Phase setup id call (heard ++ (c.stageHeard? (.task number) choice stage).toList) stage'
      ((c.letter? (.agent (.task number) choice)).bind (Letter.response? number)).toList := by
  subst hsetup hstage
  rcases hwire : (Frame.response id (handled.result call)).wire c.setup.frameLimit with e | bytes
  · cases choice
    case go =>
      have hstep : c.sendStep (.task number) (.encode (.response id (handled.result call))) .go =
          some (c, [], .finished (.error (.protocol e))) := by
        simp only [sendStep, hwire]
      have hletter : c.letter? (.agent (.task number) .go) = none := by
        simp only [letter?, sending?, hs, Option.bind_some, Stage.sending?, hwire]
      simp only [taskStep, hstep, Option.map_some, Option.some.injEq, Prod.mk.injEq] at h
      obtain ⟨-, -, rfl⟩ := h
      simp only [stageHeard?, hstep, hletter, Option.bind_some, Option.bind_none, Option.toList_none,
        List.append_nil]
      exact .refusing hfollow hwire
    all_goals cases h
  · obtain ⟨rfl, hheard, hletter⟩ := step_encoded hwire hs h
    rw [hheard, hletter, Option.bind_some, response?_response, Option.toList_none, List.append_nil,
      Option.toList_some, ← Handled.answer_of_wire hwire]
    exact .sending hfollow (by simp)

/-- The refusal is encoded. -/
theorem phase_step_refusing {handled : Handled} {e : FrameError} {stage' : Stage ω ρ}
    (hproper : setup.handler.Proper) (hfloor : 4096 ≤ setup.frameLimit)
    (hword : setup.frameLimit ≤ maxWord) (hsetup : c.setup = setup)
    (hfollow : Routine.follow (setup.handler call) heard = some (.done handled))
    (hwire : (Frame.response id (handled.result call)).wire setup.frameLimit = .error e)
    (hstage : stage = .respond id true (.encode (.response id (.error ⟨e.message⟩))) .done)
    (hs : c.stage? number = some stage)
    (h : c.taskStep (.task number) stage choice = some (d, events, stage')) :
    Phase setup id call (heard ++ (c.stageHeard? (.task number) choice stage).toList) stage'
      ((c.letter? (.agent (.task number) choice)).bind (Letter.response? number)).toList := by
  subst hsetup hstage
  have hanswer := Handled.answer_of_error hwire
  obtain ⟨bytes, hrefusal⟩ :=
    Frame.wire_of_refused hfloor hword ((hproper id call).follow hfollow) hwire id
  obtain ⟨rfl, hheard, hletter⟩ := step_encoded hrefusal hs h
  rw [hheard, hletter, Option.bind_some, response?_response, Option.toList_none, List.append_nil,
    Option.toList_some, ← hanswer]
  exact .sending hfollow (by simp)

/-- The response is on its way out until it has been sent. -/
theorem phase_step_sending {handled : Handled} {last : Bool} {s : SendStage} {stage' : Stage ω ρ}
    (hfollow : Routine.follow (setup.handler call) heard = some (.done handled))
    (hencoded : ∀ frame, s ≠ .encode frame) (hstage : stage = .respond id last s .done)
    (h : c.taskStep (.task number) stage choice = some (d, events, stage')) :
    Phase setup id call (heard ++ (c.stageHeard? (.task number) choice stage).toList) stage'
      [.response id (handled.answer setup.frameLimit id call)] := by
  subst hstage
  cases taskStep_iff.mp h with
  | respond hsend =>
    have hheard : c.stageHeard? (.task number) choice (.respond id last s .done) = none := by
      simp only [stageHeard?, hsend, Option.bind_some]
    rw [hheard, Option.toList_none, List.append_nil]
    exact .sending hfollow (sendStep_encoded hsend)
  | replace hsend =>
    obtain ⟨frame, hframe, -⟩ := sendStep_refused hsend
    exact absurd hframe (hencoded frame)
  | responded hsend hlast =>
    rw [stageHeard?_responded hsend hlast]
    exact .answered rfl hfollow (.inl rfl)

/-- **The steps of the task of a request.** It handles the call, and then it sends one response. -/
theorem Phase.step {stage' : Stage ω ρ} (hp : Phase setup id call heard stage frames)
    (hproper : setup.handler.Proper) (hfloor : 4096 ≤ setup.frameLimit)
    (hword : setup.frameLimit ≤ maxWord) (hsetup : c.setup = setup)
    (hs : c.stage? number = some stage)
    (h : c.taskStep (.task number) stage choice = some (d, events, stage')) :
    Phase setup id call (heard ++ (c.stageHeard? (.task number) choice stage).toList) stage'
      (frames ++
        ((c.letter? (.agent (.task number) choice)).bind (Letter.response? number)).toList) := by
  have hsilent : (∀ frame, stage.sending? ≠ some (.encode frame)) →
      (c.letter? (.agent (.task number) choice)).bind (Letter.response? number) = none :=
    response?_of_not_encode hs
  cases hp with
  | handling hfollow hbusy hperforms =>
    exact phase_step_handling hproper hsetup hfollow hbusy hperforms hs h
  | due hfollow =>
    rw [hsilent (by simp [Stage.sending?]), Option.toList_none, List.append_nil]
    simp only [Routine.respond, Dialogue.question, taskStep] at h
    split_ifs at h
    cases h
    rw [Routine.respond, Dialogue.question, stageHeard?, Option.toList_none, List.append_nil]
    · exact .answering hfollow
    all_goals simp
  | answering hfollow => exact phase_step_answering hsetup hfollow rfl hs h
  | refusing hfollow hwire =>
    exact phase_step_refusing hproper hfloor hword hsetup hfollow hwire rfl hs h
  | sending hfollow hencoded =>
    rw [hsilent (fun frame hx => hencoded frame (Option.some.inj hx)), Option.toList_none,
      List.append_nil]
    exact phase_step_sending hfollow hencoded rfl h
  | answered hheard hfollow hover =>
    rcases hover with rfl | rfl
    · rw [hsilent (by simp [Stage.sending?]), Option.toList_none, List.append_nil]
      simp only [taskStep] at h
      split_ifs at h
      cases h
      rw [stageHeard?, Option.toList_none, List.append_nil]
      · exact .answered hheard hfollow (.inr rfl)
      all_goals simp
    · cases h

end Channel

end CommandLink
