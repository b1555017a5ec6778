import CommandLink.Proofs.Channel.Posting
import CommandLink.Proofs.Channel.Pieces
import CommandLink.Proofs.Channel.Unaided

/-!
# Whose frames are offered

A frame that is no ping is offered by a task, for the operation that its routine has come to
(`task_of_offer`): a request for a call (`call_of_request`), a response to answer a request
(`respond_of_response`). A task of a closing channel that is not sending a request never comes to
send one (`not_requesting_after`).
-/

namespace CommandLink

variable {ω ρ : Type}

namespace Channel

variable {c d : Channel ω ρ} {action : Action ω ρ} {events : List (Event ρ)} {a : Agent}
  {frame : Frame} {number : ℕ} {stage : Stage ω ρ} {limit : ℕ} {left : Routine ω ρ Unit}

/-- What an agent offers it offers at a moment of the run. -/
theorem split_of_offer {actions : List (Action ω ρ)} (h : frame ∈ c.offers actions a) :
    ∃ first rest, actions = first ++ .agent a .go :: rest ∧
      (c.after first).sending? a = some (.encode frame) := by
  obtain ⟨m, hm, hoffered⟩ := List.mem_filterMap.mp h
  obtain ⟨past, later, hmoments⟩ := List.append_of_mem hm
  obtain ⟨first, rest, rfl, -, hbefore⟩ := c.split_of_moments hmoments
  unfold Moment.offered? offered? at hoffered
  split at hoffered
  · rename_i b haction
    split_ifs at hoffered with hb
    subst hb
    refine ⟨first, rest, by rw [haction], ?_⟩
    rw [hbefore]
    split at hoffered
    · rename_i frame' hsending
      cases hoffered
      exact hsending
    · cases hoffered
  · cases hoffered

/-- A response that a task is about to send answers the request that its routine has come to answer,
or says why the answer cannot be sent. -/
theorem respond_of_response {id : CallId} {result : Except Failure Reply}
    (hp : Stage.Performs limit left stage)
    (hs : stage.sending? = some (.encode (.response id result))) :
    ∃ answer next, left = .ask (.respond id answer) next ∧
      (result = answer ∨ ∃ e, (Frame.response id answer).wire limit = .error e ∧
        result = .error ⟨e.message⟩) := by
  cases hp with
  | call call stage next hcarries =>
    cases stage with
    | send id' s =>
      cases hs
      obtain ⟨id'', heq⟩ := hcarries
      cases heq
    | _ => cases hs
  | publish name value stage next hcarries =>
    cases hs
    cases hcarries
  | respond id' answer stage next hcarries =>
    cases hs
    cases hcarries
    exact ⟨result, next, rfl, .inl rfl⟩
  | refuse id' answer e stage next hrefused hcarries =>
    cases hs
    cases hcarries
    exact ⟨answer, next, rfl, .inr ⟨e, hrefused, rfl⟩⟩
  | _ => cases hs

/-- A call comes to send its request only on an open channel. -/
theorem callStep_send {id : CallId} {stage : CallStage} {s : SendStage} {choice : Choice}
    (h : c.callStep a stage choice = some (d, events, .more (.send id s))) :
    c.closing = false ∨ ∃ s', stage = .send id s' := by
  cases callStep_iff.mp h with
  | recheck hc => exact .inl hc
  | send => exact .inr ⟨_, rfl⟩

variable (setup : ChannelSetup ω ρ) (world : ω) (guarded : Bool)

/-- **Whose frames are offered.** A frame that is no ping is offered by a task, for what its routine
has come to. -/
theorem task_of_offer {actions : List (Action ω ρ)}
    (h : frame ∈ (start setup world guarded).offers actions a) (hping : frame ≠ .ping) :
    ∃ first rest number origin left stage, actions = first ++ .agent a .go :: rest ∧
      a = .task number ∧ ((start setup world guarded).origins first)[number]? = some origin ∧
      Routine.follow (origin.routine setup.handler) ((start setup world guarded).heard first number) =
        some left ∧
      ((start setup world guarded).after first).stage? number = some stage ∧
      stage.sending? = some (.encode frame) ∧ Stage.Performs setup.frameLimit left stage := by
  obtain ⟨first, rest, rfl, hsending⟩ := split_of_offer h
  cases a with
  | reader => cases hsending
  | heartbeat =>
    rw [sending?] at hsending
    rcases hbeat : ((start setup world guarded).after first).heartbeat with time | ⟨s, time⟩ | _
    · rw [hbeat] at hsending
      cases hsending
    · rw [hbeat] at hsending
      cases hsending
      exact absurd (ping_after setup world guarded first frame time hbeat) hping
    · rw [hbeat] at hsending
      cases hsending
  | task number =>
    obtain ⟨stage, hstage, hsends⟩ := Option.bind_eq_some_iff.mp hsending
    obtain ⟨origin, horigin⟩ := (begun_after setup world guarded first).origin_of_stage hstage
    obtain ⟨left, stage', hleft, hstage', hp⟩ :=
      (follows_after setup world guarded first).2 number origin horigin
    rw [hstage, Option.some.injEq] at hstage'
    subst hstage'
    rcases hp with hp | ⟨rfl, -⟩
    · rw [setup_after] at hp
      exact ⟨first, rest, number, _, left, stage, rfl, rfl, horigin, hleft, hstage, hsends, hp⟩
    · cases hsends

end Channel

end CommandLink
