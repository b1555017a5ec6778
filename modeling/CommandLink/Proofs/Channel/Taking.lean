import CommandLink.Proofs.Channel.Following
import CommandLink.Proofs.Channel.Sending

/-!
# What the reader takes

While a channel is open its reader takes the frames of the stream that arrives, one after the other
(`taken_after`), and for every request among them a task begins (`requests_after`).
-/

namespace CommandLink

variable {ω ρ : Type}

/-- A frame, if it is a request. -/
def Frame.request? : Frame → Option (CallId × Call)
  | .request id call => some (id, call)
  | _ => none

theorem Frame.eq_of_request? {frame : Frame} {id : CallId} {call : Call}
    (h : frame.request? = some (id, call)) : frame = .request id call := by
  cases frame with
  | request id' call' =>
    cases h
    rfl
  | _ => cases h

theorem Frame.mem_requests {frames : List Frame} {id : CallId} {call : Call} :
    (id, call) ∈ frames.filterMap Frame.request? ↔ .request id call ∈ frames := by
  constructor
  · intro h
    obtain ⟨frame, hframe, heq⟩ := List.mem_filterMap.mp h
    exact eq_of_request? heq ▸ hframe
  · intro h
    exact List.mem_filterMap.mpr ⟨_, h, rfl⟩

/-- The request that a task has been begun for. -/
def Origin.request? : Origin ω ρ → Option (CallId × Call)
  | .started _ => none
  | .requested id call => some (id, call)

theorem Origin.eq_requested {origin : Origin ω ρ} {id : CallId} {call : Call}
    (h : origin.request? = some (id, call)) : origin = .requested id call := by
  rcases origin with routine | ⟨id', call'⟩
  · cases h
  · cases h
    rfl

/-- The bytes that arrive with an action. -/
def Action.delivered : Action ω ρ → Bytes
  | .deliver bytes => bytes
  | _ => []

/-- The frame that the reader takes with an action. -/
def Channel.taken? (c : Channel ω ρ) : Action ω ρ → Option Frame
  | .agent .reader .go => c.incoming?
  | _ => none

/-- The frame that the reader takes at a moment. -/
def Moment.taken? (m : Moment ω ρ) : Option Frame := m.before.taken? m.action

/-- The bytes that arrive at a moment. -/
def Moment.delivered (m : Moment ω ρ) : Bytes := m.action.delivered

namespace Channel

/-- The frames that the reader takes in a run. -/
def taken (c : Channel ω ρ) (actions : List (Action ω ρ)) : List Frame :=
  (c.moments actions).filterMap Moment.taken?

/-- The bytes that arrive in a run. -/
def delivered (c : Channel ω ρ) (actions : List (Action ω ρ)) : Bytes :=
  (c.moments actions).flatMap Moment.delivered

/-- A frame arrives. -/
def arrives (frame : Frame) : Action ω ρ :=
  .deliver (Bytes.bigEndian 4 frame.body.length ++ frame.body)

/-- A frame arrives and is taken. -/
def comesIn (frame : Frame) : List (Action ω ρ) := [arrives frame, .agent .reader .go]

/-- A link on which nothing is accepted. -/
def refusingLink : ChannelSetup Unit Unit := ⟨"link", .direct, 4096, 0, Handler.refuseAll⟩

variable {c d : Channel ω ρ} {action : Action ω ρ} {events : List (Event ρ)} {a : Agent}
  {choice : Choice}

/-! ## Bytes and frames -/

/-- The bytes that are taken at once complete the frame that is taken. -/
theorem feed_of_takeFrame {limit : ℕ} {incomplete incomplete' : Frame.Partial} {bytes rest : Bytes}
    {frame? : Option Frame}
    (h : takeFrame limit incomplete bytes = .ok (frame?, incomplete', rest)) :
    ∃ read, bytes = read ++ rest ∧ incomplete.feed limit read = (frame?.toList, .ok incomplete') := by
  induction bytes generalizing incomplete with
  | nil =>
    cases h
    exact ⟨[], rfl, rfl⟩
  | cons b bytes ih =>
    rw [takeFrame] at h
    split at h
    · cases h
    · rename_i hpush
      cases h
      refine ⟨[b], rfl, ?_⟩
      simp only [Frame.Partial.feed, Frame.Partial.feedOnto, hpush]
      rfl
    · rename_i hpush
      obtain ⟨read, rfl, hfeed⟩ := ih h
      refine ⟨b :: read, rfl, ?_⟩
      rw [Frame.Partial.feed, Frame.Partial.feedOnto, hpush]
      exact hfeed

/-- Bytes of which nothing can be taken complete no frame. -/
theorem feed_of_takeFrame_error {limit : ℕ} {incomplete : Frame.Partial} {bytes : Bytes}
    {e : FrameError} (h : takeFrame limit incomplete bytes = .error e) :
    incomplete.feed limit bytes = ([], .error e) := by
  induction bytes generalizing incomplete with
  | nil => cases h
  | cons b bytes ih =>
    rw [takeFrame] at h
    split at h
    · rename_i hpush
      cases h
      simp only [Frame.Partial.feed, Frame.Partial.feedOnto, hpush]
      rfl
    · cases h
    · rename_i hpush
      rw [Frame.Partial.feed, Frame.Partial.feedOnto, hpush]
      exact ih h

/-! ## The steps of the reader and of others -/

/-- To begin closing is to close. -/
theorem closing_of_enter {progress : Progress CloseStage Unit}
    (h : c.closeStep a .enter choice = some (d, events, progress)) : d.closing = true := by
  cases closeStep_iff.mp h with
  | leave hc => exact hc
  | enter => rfl

/-- Only the reader and what arrives change what is still to be read. -/
theorem inbox_step (h : c.step action = some (d, events)) (ha : action.agent? ≠ some .reader) :
    d.inbox = c.inbox ++ action.delivered := by
  cases step_iff.mp h with
  | reader => exact absurd rfl ha
  | heartbeat hstep => exact (spares_heartbeatStep hstep).inbox.trans (List.append_nil _).symm
  | task _ hstep =>
    refine Eq.trans ?_ (List.append_nil _).symm
    rcases spares_taskStep hstep with hspares | ⟨f, next, -, rfl⟩
    · exact hspares.inbox
    · rfl
  | deliver => rfl
  | endInput | start | elapse => exact (List.append_nil _).symm

/-! ## The frames of a run -/

/-- The reader of an open channel reads on, or is about to close the channel. -/
def Reads (reader : ReaderStage) (result : Except FrameError Frame.Partial) : Prop :=
  (∃ incomplete, reader = .read incomplete ∧ result = .ok incomplete) ∨ reader = .close .enter

theorem Reads.result_eq {reader : ReaderStage} {result : Except FrameError Frame.Partial}
    {incomplete : Frame.Partial} (h : Reads reader result) (hr : reader = .read incomplete) :
    result = .ok incomplete := by
  rcases h with ⟨_, hreader, hresult⟩ | hreader
  · cases hreader.symm.trans hr
    exact hresult
  · cases hreader.symm.trans hr

theorem Reads.close_eq {reader : ReaderStage} {result : Except FrameError Frame.Partial}
    {stage : CloseStage} (h : Reads reader result) (hr : reader = .close stage) :
    stage = .enter := by
  rcases h with ⟨_, hreader, -⟩ | hreader
  · cases hreader.symm.trans hr
  · cases hreader.symm.trans hr
    rfl

/-- What has been taken are the frames of the bytes that have been read, and the others are still
there. -/
def Takes (past : List (Moment ω ρ)) (c : Channel ω ρ) : Prop :=
  ∃ read result, past.flatMap Moment.delivered = read ++ c.inbox ∧
    Frame.Partial.start.feed c.setup.frameLimit read = (past.filterMap Moment.taken?, result) ∧
    Reads c.reader result

/-- The reader takes the frames of what has arrived. -/
theorem readerStep_takes {stage : ReaderStage} {read : Bytes} {frames : List Frame}
    {result : Except FrameError Frame.Partial}
    (h : c.readerStep c.reader choice = some (d, events, stage)) (hd : d.closing = false)
    (hc : c.cancelled = false)
    (hfeed : Frame.Partial.start.feed c.setup.frameLimit read = (frames, result))
    (hreads : Reads c.reader result) :
    ∃ more result', c.inbox = more ++ d.inbox ∧
      Frame.Partial.start.feed c.setup.frameLimit (read ++ more) =
        (frames ++ (c.taken? (.agent .reader choice)).toList, result') ∧ Reads stage result' := by
  have hcons : ∀ {incomplete frame? incomplete' rest}, c.reader = .read incomplete →
      takeFrame c.setup.frameLimit incomplete c.inbox = .ok (frame?, incomplete', rest) →
      ∃ more, c.inbox = more ++ rest ∧
        Frame.Partial.start.feed c.setup.frameLimit (read ++ more) =
          (frames ++ frame?.toList, .ok incomplete') := by
    intro incomplete frame? incomplete' rest hreader htake
    obtain ⟨more, hmore, hnext⟩ := feed_of_takeFrame htake
    refine ⟨more, hmore, ?_⟩
    rw [Frame.Partial.feed_append, hfeed]
    simp only [hreads.result_eq hreader, hnext]
  obtain ⟨reader, hreader⟩ : ∃ reader, c.reader = reader := ⟨_, rfl⟩
  rw [hreader] at h
  cases readerStep_iff.mp h with
  | ended hinbox =>
    have htaken : c.taken? (.agent .reader .go) = none := by
      simp only [taken?, incoming?, hreader, hinbox, takeFrame]
    refine ⟨[], result, rfl, ?_, .inr rfl⟩
    rw [htaken, Option.toList_none, List.append_nil, List.append_nil, hfeed]
  | @stumble _ e _ htake =>
    have htaken : c.taken? (.agent .reader .go) = none := by
      simp only [taken?, incoming?, hreader, htake]
    refine ⟨c.inbox, .error e, (List.append_nil _).symm, ?_, .inr rfl⟩
    rw [htaken, Option.toList_none, Frame.Partial.feed_append, hfeed]
    simp only [hreads.result_eq hreader, feed_of_takeFrame_error htake]
  | @read _ incomplete' _ _ htake =>
    obtain ⟨more, hmore, hnext⟩ := hcons hreader htake
    have htaken : c.taken? (.agent .reader .go) = none := by
      simp only [taken?, incoming?, hreader, htake]
    rw [htaken]
    exact ⟨more, _, hmore, hnext, .inl ⟨incomplete', rfl, rfl⟩⟩
  | @take _ incomplete' frame _ _ htake =>
    obtain ⟨more, hmore, hnext⟩ := hcons hreader htake
    have htaken : c.taken? (.agent .reader .go) = some frame := by
      simp only [taken?, incoming?, hreader, htake]
    rw [htaken, (spares_dispatch frame).inbox]
    exact ⟨more, _, hmore, hnext, .inl ⟨incomplete', rfl, rfl⟩⟩
  | abandon hcancelled =>
    rw [hc] at hcancelled
    cases hcancelled
  | close hclose | closed hclose =>
    -- The step would begin closing.
    obtain rfl := hreads.close_eq hreader
    rw [closing_of_enter hclose] at hd
    cases hd

theorem Takes.step {past : List (Moment ω ρ)} (ht : Takes past c) (ho : Orderly c)
    (h : c.step action = some (d, events)) (hd : d.closing = false) :
    Takes (past ++ [⟨c, action, d, events⟩]) d := by
  obtain ⟨read, result, hdelivered, hfeed, hreads⟩ := ht
  have hc := open_of_step h hd
  have hdelivered' : (past ++ [(⟨c, action, d, events⟩ : Moment ω ρ)]).flatMap Moment.delivered =
      read ++ (c.inbox ++ action.delivered) := by
    rw [List.flatMap_append, hdelivered, List.flatMap_singleton, List.append_assoc, Moment.delivered]
  have htaken := filterMap_concat Moment.taken? past (⟨c, action, d, events⟩ : Moment ω ρ)
  rw [Takes, hdelivered', htaken, (step_others h).setup]
  by_cases ha : action.agent? = some .reader
  · obtain ⟨choice, rfl⟩ := exists_choice_of_agent? ha
    obtain ⟨⟨e, events', stage⟩, hs, heq⟩ := Option.map_eq_some_iff.mp h
    cases heq
    obtain ⟨more, result', hinbox, hnext, hreads'⟩ :=
      readerStep_takes hs hd (ho.not_cancelled hc) hfeed hreads
    refine ⟨read ++ more, result', ?_, hnext, hreads'⟩
    change read ++ (c.inbox ++ []) = _
    rw [List.append_nil, hinbox, List.append_assoc]
  · have hnone : c.taken? action = none := by
      unfold taken?
      split
      · exact absurd rfl ha
      · rfl
    refine ⟨read, result, by rw [inbox_step h ha], ?_, ?_⟩
    · rw [Moment.taken?, hnone, Option.toList_none, List.append_nil, hfeed]
    · rcases (step_others h).reader ha with hkept | ⟨⟨b, -, habort⟩, -⟩
      · rw [hkept]
        exact hreads
      · rw [ho.begun b _ habort (by simp)] at hc
        cases hc

/-- An open channel begins a task for a request that it takes. -/
theorem request?_origin? (hc : c.closing = false) :
    (c.origin? action).toList.filterMap Origin.request? =
      (c.taken? action).toList.filterMap Frame.request? := by
  have hreader : (c.origin? (.agent .reader .go)).toList.filterMap Origin.request? =
      c.incoming?.toList.filterMap Frame.request? := by
    rw [origin?, hc]
    rcases c.incoming? with _ | frame
    · rfl
    · cases frame <;> rfl
  cases action with
  | agent a choice =>
    cases a with
    | reader =>
      cases choice with
      | go => exact hreader
      | _ => rfl
    | _ => rfl
  | _ => rfl

/-- A task begins only for a request that is taken. -/
theorem origin?_request? (c : Channel ω ρ) (action : Action ω ρ) :
    (c.origin? action).bind Origin.request? = none ∨
      (c.origin? action).bind Origin.request? = (c.taken? action).bind Frame.request? := by
  unfold origin?
  split
  · exact .inl rfl
  · rcases hincoming : c.incoming? with _ | frame
    · exact .inl rfl
    · cases frame with
      | request id call =>
        dsimp only
        split_ifs
        · exact .inl rfl
        · refine .inr ?_
          rw [taken?, hincoming]
          rfl
      | _ => exact .inl rfl
  · exact .inl rfl

/-- **Tasks for requests** begin for some of those that are taken, in their order. -/
theorem requests_sublist (c : Channel ω ρ) (actions : List (Action ω ρ)) :
    ((c.origins actions).filterMap Origin.request?).Sublist
      ((c.taken actions).filterMap Frame.request?) := by
  rw [origins, taken, List.filterMap_filterMap, List.filterMap_filterMap]
  induction c.moments actions with
  | nil => exact .slnil
  | cons m moments ih =>
    rw [List.filterMap_cons, List.filterMap_cons]
    rcases origin?_request? m.before m.action with hnone | hsame
    · rw [Moment.origin?, hnone]
      cases m.taken?.bind Frame.request? with
      | none => exact ih
      | some request => exact ih.cons request
    · rw [Moment.origin?, hsame, Moment.taken?]
      cases (m.before.taken? m.action).bind Frame.request? with
      | none => exact ih
      | some request => exact ih.cons_cons request

variable (setup : ChannelSetup ω ρ) (world : ω) (guarded : Bool)

/-- **What the reader takes** are the frames of what has arrived, as far as it has been read. -/
theorem taken_after (actions : List (Action ω ρ))
    (hd : ((start setup world guarded).after actions).closing = false) :
    ∃ read result, (start setup world guarded).delivered actions =
        read ++ ((start setup world guarded).after actions).inbox ∧
      Frame.Partial.start.feed setup.frameLimit read =
        ((start setup world guarded).taken actions, result) ∧
      Reads ((start setup world guarded).after actions).reader result := by
  have htakes := (run_induction (P := fun past c => Orderly c ∧ (c.closing = false → Takes past c))
    (start setup world guarded) ⟨orderly_after setup world guarded [],
      fun _ => ⟨[], .ok .start, rfl, rfl, .inl ⟨.start, rfl, rfl⟩⟩⟩
    (fun past c action d events ⟨ho, ht⟩ h =>
      ⟨ho.step h, fun hd => (ht (open_of_step h hd)).step ho h hd⟩) actions).2 hd
  have hsetup : ((start setup world guarded).after actions).setup = setup := setup_after _ actions
  rwa [Takes, hsetup] at htakes

/-- For every request that the reader of an open channel takes a task begins. -/
theorem requests_after (actions : List (Action ω ρ))
    (hd : ((start setup world guarded).after actions).closing = false) :
    ((start setup world guarded).origins actions).filterMap Origin.request? =
      ((start setup world guarded).taken actions).filterMap Frame.request? := by
  refine run_induction (P := fun past c => c.closing = false →
    (past.filterMap Moment.origin?).filterMap Origin.request? =
      (past.filterMap Moment.taken?).filterMap Frame.request?) _ (fun _ => rfl) ?_ actions hd
  intro past c action d events hpast h hd
  have hc := open_of_step h hd
  rw [filterMap_concat, filterMap_concat, List.filterMap_append, List.filterMap_append, hpast hc]
  exact congrArg _ (request?_origin? hc)

/-! ## While a channel closes -/

/-- More bytes complete more frames, behind those that are complete. -/
theorem feed_append_mono (limit : ℕ) (incomplete : Frame.Partial) (bytes more : Bytes) :
    (incomplete.feed limit bytes).1 <+: (incomplete.feed limit (bytes ++ more)).1 := by
  rw [Frame.Partial.feed_append]
  rcases incomplete.feed limit bytes with ⟨frames, e | incomplete'⟩
  · exact List.prefix_rfl
  · exact List.prefix_append _ _

/-- A reader that has stopped reading takes nothing. -/
theorem taken?_of_not_reading (hread : ∀ incomplete, c.reader ≠ .read incomplete)
    (choice : Choice) : c.taken? (.agent .reader choice) = none := by
  cases choice
  case go =>
    rw [taken?, incoming?]
    split
    · rename_i incomplete hreader
      exact absurd hreader (hread incomplete)
    · rfl
  all_goals rfl

/-- The reader takes what comes next, or it takes nothing and reads no more. -/
theorem readerStep_reads {stage : ReaderStage}
    (h : c.readerStep c.reader choice = some (d, events, stage)) :
    (∃ incomplete frame? incomplete' rest, c.reader = .read incomplete ∧
      takeFrame c.setup.frameLimit incomplete c.inbox = .ok (frame?, incomplete', rest) ∧
      c.taken? (.agent .reader choice) = frame? ∧ d.inbox = rest ∧ stage = .read incomplete') ∨
    (c.taken? (.agent .reader choice) = none ∧ ∀ incomplete, stage ≠ .read incomplete) := by
  obtain ⟨reader, hreader⟩ : ∃ reader, c.reader = reader := ⟨_, rfl⟩
  rw [hreader] at h
  cases readerStep_iff.mp h with
  | ended hinbox =>
    exact .inr ⟨by simp only [taken?, incoming?, hreader, hinbox, takeFrame], by simp⟩
  | stumble _ htake => exact .inr ⟨by simp only [taken?, incoming?, hreader, htake], by simp⟩
  | @read incomplete incomplete' rest _ htake =>
    exact .inl ⟨incomplete, none, incomplete', rest, hreader, htake,
      by simp only [taken?, incoming?, hreader, htake], rfl, rfl⟩
  | @take incomplete incomplete' frame rest _ htake =>
    exact .inl ⟨incomplete, some frame, incomplete', rest, hreader, htake,
      by simp only [taken?, incoming?, hreader, htake], (spares_dispatch frame).inbox, rfl⟩
  | abandon => exact .inr ⟨rfl, by simp⟩
  | close | closed => exact .inr ⟨taken?_of_not_reading (by simp [hreader]) _, by simp⟩

/-- What has been taken are frames of what has arrived, and while the reader reads they are those of
what has been read. -/
def Took (past : List (Moment ω ρ)) (c : Channel ω ρ) : Prop :=
  past.filterMap Moment.taken? <+:
      (Frame.Partial.start.feed c.setup.frameLimit (past.flatMap Moment.delivered)).1 ∧
    ∀ incomplete, c.reader = .read incomplete → ∃ read,
      past.flatMap Moment.delivered = read ++ c.inbox ∧
      Frame.Partial.start.feed c.setup.frameLimit read =
        (past.filterMap Moment.taken?, .ok incomplete)

theorem Took.step {past : List (Moment ω ρ)} (ht : Took past c)
    (h : c.step action = some (d, events)) : Took (past ++ [⟨c, action, d, events⟩]) d := by
  obtain ⟨hpast, hreads⟩ := ht
  have hdelivered : (past ++ [(⟨c, action, d, events⟩ : Moment ω ρ)]).flatMap Moment.delivered =
      past.flatMap Moment.delivered ++ action.delivered := by
    rw [List.flatMap_append, List.flatMap_singleton, Moment.delivered]
  rw [Took, hdelivered, filterMap_concat, (step_others h).setup, Moment.taken?]
  have hnothing : c.taken? action = none →
      past.filterMap Moment.taken? ++ (c.taken? action).toList <+:
        (Frame.Partial.start.feed c.setup.frameLimit
          (past.flatMap Moment.delivered ++ action.delivered)).1 := by
    intro hnone
    rw [hnone, Option.toList_none, List.append_nil]
    exact hpast.trans (feed_append_mono _ _ _ _)
  by_cases ha : action.agent? = some .reader
  · obtain ⟨choice, rfl⟩ := exists_choice_of_agent? ha
    obtain ⟨⟨e, events', stage⟩, hs, heq⟩ := Option.map_eq_some_iff.mp h
    cases heq
    rcases readerStep_reads hs with
      ⟨incomplete, frame?, incomplete', rest, hreader, htake, htaken, hinbox, rfl⟩ | ⟨hnone, hstopped⟩
    · obtain ⟨read, hread, hfeed⟩ := hreads incomplete hreader
      obtain ⟨more, hmore, hnext⟩ := feed_of_takeFrame htake
      have hfeed' : Frame.Partial.start.feed c.setup.frameLimit (read ++ more) =
          (past.filterMap Moment.taken? ++ frame?.toList, .ok incomplete') := by
        rw [Frame.Partial.feed_append, hfeed]
        simp only [hnext]
      have hsplit : past.flatMap Moment.delivered ++
          (Action.agent .reader choice : Action ω ρ).delivered = (read ++ more) ++ e.inbox := by
        change past.flatMap Moment.delivered ++ [] = _
        rw [List.append_nil, hread, hmore, hinbox, List.append_assoc]
      refine ⟨?_, fun incomplete'' hreader' => ⟨read ++ more, hsplit, ?_⟩⟩
      · have hmono := feed_append_mono c.setup.frameLimit .start (read ++ more) e.inbox
        rw [hfeed'] at hmono
        rwa [htaken, hsplit]
      · cases hreader'
        rw [htaken, hfeed']
    · exact ⟨hnothing hnone, fun incomplete hreader => absurd hreader (hstopped incomplete)⟩
  · have hnone : c.taken? action = none := by
      unfold taken?
      split
      · exact absurd rfl ha
      · rfl
    refine ⟨hnothing hnone, fun incomplete hreader => ?_⟩
    rcases (step_others h).reader ha with hkept | ⟨-, hstopped⟩
    · obtain ⟨read, hread, hfeed⟩ := hreads incomplete (hkept ▸ hreader)
      refine ⟨read, by rw [hread, inbox_step h ha, List.append_assoc], ?_⟩
      rw [hnone, Option.toList_none, List.append_nil, hfeed]
    · rw [hstopped] at hreader
      cases hreader

/-- **What has been taken** are frames of what has arrived, whatever becomes of the channel. -/
theorem taken_prefix (actions : List (Action ω ρ)) :
    (start setup world guarded).taken actions <+:
      (Frame.Partial.start.feed setup.frameLimit ((start setup world guarded).delivered actions)).1 := by
  have htook := run_induction (P := Took) (start setup world guarded)
    ⟨List.nil_prefix, fun incomplete hreader => ⟨[], rfl, by cases hreader; rfl⟩⟩
    (fun _ _ _ _ _ ht h => ht.step h) actions
  have hsetup : ((start setup world guarded).after actions).setup = setup := setup_after _ actions
  have hprefix := htook.1
  rwa [hsetup] at hprefix

end Channel

end CommandLink
