import CommandLink.Proofs.Channel.Posting
import CommandLink.Proofs.Channel.Requests
import CommandLink.Proofs.Frame.Arrival

/-!
# Calls from one end of a link to the other

Two ends of a link of which each takes what the other has written (`Coupled`). The requests that
one takes are the first that the other has sent (`Coupled.requests_prefix`), and the responses that
it takes are those of the tasks of its own requests (`Coupled.exists_handled`). So every call is
handled at the other end once at most, and with what comes of that it returns
(`Coupled.callsExactlyOnce`).
-/

namespace CommandLink

open Channel

variable {ω ρ ω' ρ' : Type}

/-! ## Ends -/

/-- One end of a link: how the channel has been opened, and what has happened to it since. -/
structure Endpoint (ω ρ : Type) where
  setup : ChannelSetup ω ρ
  world : ω
  guarded : Bool
  actions : List (Action ω ρ)

namespace Endpoint

/-- The channel of an end when it has been opened. -/
abbrev opened (e : Endpoint ω ρ) : Channel ω ρ := start e.setup e.world e.guarded

/-- The channel of an end now. -/
abbrev channel (e : Endpoint ω ρ) : Channel ω ρ := e.opened.after e.actions

/-- What has happened to the calls of an end. -/
abbrev history (e : Endpoint ω ρ) : List Note := e.opened.history e.actions

/-- The letters of an end. -/
abbrev letters (e : Endpoint ω ρ) : List Letter := e.opened.letters e.actions

/-- What an end has written. -/
abbrev written (e : Endpoint ω ρ) : Bytes := e.opened.written e.actions

/-- What has arrived at an end. -/
abbrev delivered (e : Endpoint ω ρ) : Bytes := e.opened.delivered e.actions

/-- The frames that an end has taken from what has arrived. -/
abbrev taken (e : Endpoint ω ρ) : List Frame := e.opened.taken e.actions

/-- What the tasks of an end have been begun for. -/
abbrev origins (e : Endpoint ω ρ) : List (Origin ω ρ) := e.opened.origins e.actions

/-- What a task of an end has heard. -/
abbrev heard (e : Endpoint ω ρ) (number : ℕ) : List (Heard ω) := e.opened.heard e.actions number

/-- The channel has stayed open, its link has taken all that was written, and only the channel has
answered requests. -/
abbrev Healthy (e : Endpoint ω ρ) : Prop := Channel.Healthy e.setup e.world e.guarded e.actions

/-- The calls that are handled at an end for the requests with an identifier. -/
def handled (e : Endpoint ω ρ) (id : CallId) : List Call :=
  ((e.origins.filterMap Origin.request?).filter fun request => request.1 = id).map Prod.snd

variable {e : Endpoint ω ρ} {id : CallId} {call : Call} {number : ℕ}

theorem mem_handled : call ∈ e.handled id ↔ (id, call) ∈ e.origins.filterMap Origin.request? := by
  simp [handled]

theorem mem_handled_of_origin (h : e.origins[number]? = some (.requested id call)) :
    call ∈ e.handled id :=
  mem_handled.mpr (List.mem_filterMap.mpr ⟨_, List.mem_of_getElem? h, rfl⟩)

end Endpoint

/-! ## What arrives -/

theorem Frame.ArrivesAs.request?_eq {frame got : Frame} (h : Frame.ArrivesAs frame got) :
    got.request? = frame.request? := by
  cases h <;> rfl

theorem filterMap_request?_of_arrived {frames gots : List Frame}
    (h : List.Forall₂ Frame.ArrivesAs frames gots) :
    gots.filterMap Frame.request? = frames.filterMap Frame.request? := by
  induction h with
  | nil => rfl
  | cons hfirst _ ih => rw [List.filterMap_cons, List.filterMap_cons, hfirst.request?_eq, ih]

/-- A response that has arrived has been sent. -/
theorem mem_of_arrived {frames gots : List Frame} (h : List.Forall₂ Frame.ArrivesAs frames gots)
    {id : CallId} {answer : Except Failure Reply} (hm : .response id answer ∈ gots) :
    .response id answer ∈ frames := by
  induction h with
  | nil => cases hm
  | cons hfirst _ ih =>
    rcases List.mem_cons.mp hm with rfl | hm
    · cases hfirst
      exact List.mem_cons_self
    · exact List.mem_cons_of_mem _ (ih hm)

/-- A list of pairs that does not repeat a first component has one pair with it at most. -/
theorem map_filter_eq_or {α β : Type} [DecidableEq α] {l : List (α × β)}
    (hl : (l.map Prod.fst).Nodup) (a : α) :
    (l.filter fun p => p.1 = a).map Prod.snd = [] ∨
      ∃ b, (a, b) ∈ l ∧ (l.filter fun p => p.1 = a).map Prod.snd = [b] := by
  induction l with
  | nil => exact .inl rfl
  | cons p l ih =>
    rw [List.map_cons, List.nodup_cons] at hl
    by_cases hp : p.1 = a
    · have hnone : l.filter (fun q => q.1 = a) = [] := by
        rw [List.filter_eq_nil_iff]
        intro q hq heq
        exact hl.1 (List.mem_map.mpr ⟨q, hq, (of_decide_eq_true heq).trans hp.symm⟩)
      refine .inr ⟨p.2, by simp [← hp], ?_⟩
      rw [List.filter_cons_of_pos (by simpa using hp), hnone]
      rfl
    · rw [List.filter_cons_of_neg (by simpa using hp)]
      exact (ih hl.2).imp id fun ⟨b, hb, heq⟩ => ⟨b, List.mem_cons_of_mem _ hb, heq⟩

/-! ## Two ends -/

/-- Two ends of a link of which each has the same limit for frames and takes what the other has
written. -/
structure Coupled (near : Endpoint ω ρ) (far : Endpoint ω' ρ') : Prop where
  sends : near.Healthy
  takes : far.Healthy
  limit : far.setup.frameLimit = near.setup.frameLimit
  there : far.delivered <+: near.written
  back : near.delivered <+: far.written

/-- What the calls of one end come to. The other end handles only calls that have been made, and no
call more than once. A call that returns was too large to be sent, and has not been handled, or it
has been handled once, and returns with what came of that. -/
structure CallsExactlyOnce (near : Endpoint ω ρ) (far : Endpoint ω' ρ') : Prop where
  made : ∀ id call, call ∈ far.handled id → ∃ a, DrawnFor a id call near.history
  once : ∀ before a id later, near.history = before ++ .drew a id :: later →
    ∃ call, underway a before = some ⟨call, none⟩ ∧ (far.handled id = [] ∨ far.handled id = [call])
  returned : ∀ before a result later, near.history = before ++ .completed a result :: later →
    ∃ call id, underway a before = some ⟨call, some id⟩ ∧
      ((∃ e, (Frame.request id call).wire near.setup.frameLimit = .error e ∧
          result = .error (.protocol e) ∧ far.handled id = []) ∨
        ∃ number handled, far.handled id = [call] ∧
          far.origins[number]? = some (.requested id call) ∧
          far.setup.handler.Returns call (far.heard number) handled ∧
          result = received (handled.answer near.setup.frameLimit id call) ∧
          (handled = .panicked → result = .error (.remote (call.kind ++ " handler failed"))))

variable {near : Endpoint ω ρ} {far : Endpoint ω' ρ'} {id : CallId} {call : Call}

theorem Coupled.symm (h : Coupled near far) : Coupled far near :=
  ⟨h.takes, h.sends, h.limit.symm, h.back, h.there⟩

theorem wire_letters (h : near.Healthy) {l : Letter} (hl : l ∈ near.letters) :
    l.frame.wire near.setup.frameLimit = .ok l.bytes := by
  have hsetup : near.channel.setup = near.setup := setup_after near.opened near.actions
  rw [← hsetup]
  exact (mail_after near.setup near.world near.guarded near.actions h.closing h.unbroken).wire l hl

/-- What has been written is the bytes of the letters, as far as it goes. -/
theorem written_prefix_letters (h : near.Healthy) :
    near.written <+: (near.letters.map Letter.bytes).flatten := by
  obtain ⟨sent, underway, part, hletters, -, hwritten, ho⟩ :=
    (mail_after near.setup near.world near.guarded near.actions h.closing h.unbroken).outgoing
  rw [Endpoint.written, Endpoint.letters, hletters, hwritten, List.map_append, List.flatten_append,
    ← List.flatMap_def, ← List.flatMap_def, List.prefix_append_right_inj]
  cases ho with
  | free => exact List.nil_prefix
  | writing _ _ _ hbytes =>
    rw [List.flatMap_cons, hbytes, List.append_assoc]
    exact List.prefix_append _ _
  | flushing => exact List.nil_prefix

/-- The frames that one end has taken are the first of those that the other has sent. -/
theorem Coupled.exists_arrived (h : Coupled near far) :
    ∃ count, List.Forall₂ Frame.ArrivesAs ((near.letters.map Letter.frame).take count)
      far.taken := by
  obtain ⟨read, result, hdelivered, hfeed, -⟩ :=
    taken_after far.setup far.world far.guarded far.actions h.takes.closing
  have hread : read <+: (near.letters.map Letter.bytes).flatten := by
    refine List.IsPrefix.trans ?_ (h.there.trans (written_prefix_letters h.sends))
    rw [Endpoint.delivered, hdelivered]
    exact List.prefix_append _ _
  refine Frame.exists_arrived ?_ hread hfeed
  rw [List.forall₂_map_left_iff, List.forall₂_map_right_iff, List.forall₂_same, h.limit]
  exact fun l hl => wire_letters h.sends hl

/-- **The requests that one end takes** are the first that the other has sent. -/
theorem Coupled.requests_prefix (h : Coupled near far) :
    far.origins.filterMap Origin.request? <+: requestsOf near.letters := by
  obtain ⟨count, harrived⟩ := h.exists_arrived
  rw [Endpoint.origins, requests_after far.setup far.world far.guarded far.actions h.takes.closing,
    filterMap_request?_of_arrived harrived, ← List.map_take, List.filterMap_map]
  exact (List.take_prefix count near.letters).filterMap _

/-- **The responses that one end takes** are those of the other to its requests. -/
theorem Coupled.exists_handled (h : Coupled near far) {answer : Except Failure Reply}
    (hm : .response id answer ∈ near.taken) :
    ∃ number call handled, far.origins[number]? = some (.requested id call) ∧
      far.setup.handler.Returns call (far.heard number) handled ∧
      answer = handled.answer near.setup.frameLimit id call := by
  obtain ⟨count, harrived⟩ := h.symm.exists_arrived
  obtain ⟨l, hl, hframe⟩ :=
    List.mem_map.mp (List.mem_of_mem_take (mem_of_arrived harrived hm))
  obtain ⟨number, id', call, hsender, horigin⟩ :=
    h.takes.served.senders l hl (by rw [hframe]; rfl)
  obtain ⟨stage, -, hp⟩ := h.takes.phase horigin
  have hmem : .response id answer ∈ responses far.letters number :=
    List.mem_filterMap.mpr ⟨l, hl, by rw [Letter.response?, if_pos ⟨hsender, by rw [hframe]; rfl⟩,
      hframe]⟩
  rcases hp.frames_cases with hnil | ⟨handled, hreturns, hframes⟩
  · rw [Endpoint.letters, hnil] at hmem
    cases hmem
  · rw [Endpoint.letters, hframes, List.mem_singleton, Frame.response.injEq] at hmem
    obtain ⟨rfl, rfl⟩ := hmem
    exact ⟨number, call, handled, horigin, hreturns, by rw [h.limit]⟩

/-! ## Exactly once -/

section Once

variable (h : Coupled near far) (hn : (drawnIds near.history).Nodup)

include h hn

/-- What is handled at one end is a call that has been made at the other. -/
theorem Coupled.made (hm : call ∈ far.handled id) : ∃ a, DrawnFor a id call near.history :=
  (posted_after h.sends.closing h.sends.unbroken hn).drawn id call
    (h.requests_prefix.subset (Endpoint.mem_handled.mp hm))

/-- A call is handled once at most. -/
theorem Coupled.handled_cases {a : Agent} (hd : DrawnFor a id call near.history) :
    far.handled id = [] ∨ far.handled id = [call] := by
  have honce : ((far.origins.filterMap Origin.request?).map Prod.fst).Nodup :=
    (posted_after h.sends.closing h.sends.unbroken hn).once.sublist
      (h.requests_prefix.map Prod.fst).sublist
  rcases map_filter_eq_or honce id with hnil | ⟨call', hmem, hone⟩
  · exact .inl hnil
  · obtain ⟨a', hd'⟩ := h.made hn (Endpoint.mem_handled.mpr hmem)
    rw [(hd.unique hn hd').2]
    exact .inr hone

/-- A call whose request is too large is not handled. -/
theorem Coupled.handled_of_refused {a : Agent} (hd : DrawnFor a id call near.history)
    {e : FrameError} (hwire : (Frame.request id call).wire near.setup.frameLimit = .error e) :
    far.handled id = [] := by
  refine (h.handled_cases hn hd).resolve_right fun hone => ?_
  have hmem : call ∈ far.handled id := by rw [hone]; exact List.mem_singleton_self _
  obtain ⟨l, hl, hrequest⟩ := List.mem_filterMap.mp
    (h.requests_prefix.subset (Endpoint.mem_handled.mp hmem))
  have hframe := Frame.eq_of_request? hrequest
  have hsent := wire_letters h.sends hl
  rw [hframe, hwire] at hsent
  cases hsent

/-- **Exactly-once calls.** -/
theorem Coupled.callsExactlyOnce : CallsExactlyOnce near far where
  made _ _ hm := h.made hn hm
  once before a id later heq := by
    obtain ⟨call, hu⟩ :=
      told_history near.setup near.world near.guarded near.actions before a id later heq
    exact ⟨call, hu, h.handled_cases hn ⟨before, later, heq, hu⟩⟩
  returned before a result later heq := by
    have hsound := sound_history near.setup near.world near.guarded near.actions
    have htold : Told near.history :=
      told_history near.setup near.world near.guarded near.actions
    obtain ⟨call, id, hu, hwhy⟩ := concluded_after h.sends.closing h.sends.unbroken
      (hsound.numbered.registered hn).1 heq
    have hbefore : before <+: near.history := ⟨_, heq.symm⟩
    have hdrawn : DrawnFor a id call near.history := by
      rw [heq] at htold ⊢
      exact (htold.of_append.drawnFor hu).append
    refine ⟨call, id, hu, ?_⟩
    rcases hwhy with ⟨e, hwire, rfl⟩ | ⟨answer, hanswered, rfl⟩
    · exact .inl ⟨e, hwire, rfl, h.handled_of_refused hn hdrawn hwire⟩
    · -- The answer has been taken from the stream, with the identifier of the call.
      obtain ⟨call', id', hu', hmem⟩ := hanswered.underway
      rw [hu, Option.some.injEq, Underway.mk.injEq, Option.some.injEq] at hu'
      obtain ⟨rfl, rfl⟩ := hu'
      obtain ⟨m, hm, hnote⟩ := List.mem_filterMap.mp (hbefore.subset hmem)
      obtain ⟨haction, hincoming, -⟩ := note?_eq_response hnote
      have htaken : .response id answer ∈ near.taken :=
        List.mem_filterMap.mpr ⟨m, hm, by rw [Moment.taken?, haction]; exact hincoming⟩
      obtain ⟨number, call', handled, horigin, hreturns, rfl⟩ := h.exists_handled htaken
      have hhandled := Endpoint.mem_handled_of_origin horigin
      obtain ⟨a', hd'⟩ := h.made hn hhandled
      obtain rfl := (hdrawn.unique hn hd').2
      refine .inr ⟨number, handled,
        (h.handled_cases hn hdrawn).resolve_left fun hnil => ?_, horigin,
        hreturns, rfl, ?_⟩
      · rw [hnil] at hhandled
        cases hhandled
      · rintro rfl
        rw [Handled.answer_panicked h.sends.floor]
        rfl

end Once

end CommandLink
