import CommandLink.Proofs.Channel.Senders

/-!
# What is written at all

Whatever becomes of a channel, also while it closes and where its link fails, an agent writes only
pieces of the frames that it has begun to send (`written_of_offers`). So what is never offered is
never seen by the other end, not even in part.
-/

namespace CommandLink

variable {ω ρ : Type}

/-- What is still to be written of a frame that has been encoded. -/
def SendStage.rest? : SendStage → Option Bytes
  | .queued bytes => some bytes
  | .write rest => some rest
  | _ => none

theorem Begins.rest?_eq_none {stage? : Option SendStage} (h : Begins stage?) :
    stage?.bind SendStage.rest? = none := by
  rcases h with rfl | ⟨frame, rfl⟩
  · rfl
  · rfl

namespace Channel

variable {c d e : Channel ω ρ} {action : Action ω ρ} {events : List (Event ρ)} {a b : Agent}
  {choice : Choice} {frame : Frame} {rest : Bytes}

/-! ## The steps of sending -/

/-- What is still to be written is what is encoded, or the end of what was still to be written. -/
theorem sendStep_rest {stage stage' : SendStage}
    (h : c.sendStep a stage choice = some (d, events, .more stage')) (hr : stage'.rest? = some rest) :
    (∃ frame, stage = .encode frame ∧ choice = .go ∧ frame.wire c.setup.frameLimit = .ok rest) ∨
      ∃ before, stage.rest? = some before ∧ rest <:+ before := by
  cases sendStep_iff.mp h with
  | @join frame _ hwire =>
    cases hr
    exact .inl ⟨frame, rfl, rfl, hwire⟩
  | take => exact .inr ⟨rest, hr, List.suffix_refl _⟩
  | @write before count =>
    cases hr
    exact .inr ⟨before, rfl, List.drop_suffix count before⟩
  | finish => cases hr

/-- What is written is the beginning of what was still to be written. -/
theorem sendStep_written {stage : SendStage}
    {progress : Progress SendStage (Except ChannelError Unit)}
    (h : c.sendStep a stage choice = some (d, events, progress)) (hw : Trace.written events ≠ []) :
    ∃ rest, stage.rest? = some rest ∧ Trace.written events <+: rest := by
  cases sendStep_iff.mp h with
  | @write rest count | @finish rest count =>
    refine ⟨rest, rfl, ?_⟩
    simpa [Trace.written, Event.bytes] using List.take_prefix count rest
  | _ => exact absurd rfl hw

/-- To close the channel writes nothing. -/
theorem written_closeStep {stage : CloseStage} {progress : Progress CloseStage Unit}
    (h : c.closeStep a stage choice = some (d, events, progress)) : Trace.written events = [] := by
  cases closeStep_iff.mp h <;> rfl

/-- Who closes the channel sends nothing. -/
theorem taskStep_of_closing {stage stage' : Stage ω ρ} {s : CloseStage}
    (hs : stage.closing? = some s) (h : c.taskStep a stage choice = some (d, events, stage')) :
    Trace.written events = [] ∧ stage'.sending? = none := by
  cases taskStep_iff.mp h with
  | close hclose | closed hclose => exact ⟨written_closeStep hclose, rfl⟩
  | call hcall =>
    cases callStep_iff.mp hcall with
    | shut hclose => exact ⟨written_closeStep hclose, rfl⟩
    | _ => cases hs
  | called hcall =>
    cases callStep_iff.mp hcall with
    | fail hclose => exact ⟨written_closeStep hclose, rfl⟩
    | _ => cases hs
  | _ => cases hs

/-! ## The steps of a channel -/

/-- The step of an agent goes on with sending a frame, or writes nothing. -/
theorem agentStep_sends (h : c.step (.agent a choice) = some (d, events)) :
    (∃ s e p, c.sending? a = some s ∧ c.sendStep a s choice = some (e, events, p) ∧
      (d.sending? a = p.stage? ∨ Begins (d.sending? a))) ∨
    (Trace.written events = [] ∧ Begins (d.sending? a)) := by
  cases step_iff.mp h with
  | reader hstep =>
    refine .inr ⟨?_, .inl rfl⟩
    rcases readerStep_closes hstep with ⟨s, p, -, hclose, -⟩ | ⟨hnone, -⟩
    · exact written_closeStep hclose
    · rw [(readerStep_sends hnone hstep).2]
      rfl
  | @heartbeat _ e _ _ hstep =>
    rcases heartbeatStep_sends hstep with
      ⟨s, p, hsend, hsendStep, hnext⟩ | ⟨-, -, hwritten, hbegins⟩
    · exact .inl ⟨s, e, p, hsend, hsendStep, .inl hnext⟩
    · exact .inr ⟨hwritten, hbegins⟩
  | @task _ _ t e _ _ ht hstep =>
    rw [sending?_task ht, sending?_task (task_of_taskStep ht hstep)]
    rcases hclosing : t.stage.closing? with _ | s
    · rcases taskStep_sends hclosing hstep with
        ⟨s, p, hsend, hsendStep, hnext⟩ | ⟨-, -, hwritten, hbegins⟩
      · exact .inl ⟨s, e, p, hsend, hsendStep, hnext.imp_right And.right⟩
      · exact .inr ⟨hwritten, hbegins⟩
    · obtain ⟨hwritten, hnone⟩ := taskStep_of_closing hclosing hstep
      exact .inr ⟨hwritten, .inl hnone⟩

/-- Who does not act is left as far as it has come with sending, or sends nothing any more. -/
theorem Others.sending?_cases (h : Others action c d) (hb : action.agent? ≠ some b) :
    d.sending? b = c.sending? b ∨ Begins (d.sending? b) := by
  cases b with
  | reader => exact .inl rfl
  | heartbeat =>
    rcases h.heartbeat hb with hkept | ⟨-, hstopped⟩
    · exact .inl (by simp only [sending?, hkept])
    · exact .inr (.inl (by simp only [sending?, hstopped]; rfl))
  | task number =>
    rcases ht : c.tasks[number]? with _ | t
    · rcases ht' : d.tasks[number]? with _ | t'
      · exact .inl (by simp only [sending?, stage?, ht, ht'])
      · obtain ⟨-, hspawned⟩ := h.new number t' ht ht'
        refine .inr (.inl ?_)
        simp only [sending?, stage?, ht', Option.map_some, Option.bind_some]
        cases hspawned <;> rfl
    · obtain ⟨t', ht', hleft⟩ := h.task number t ht hb
      simp only [sending?, stage?, ht, ht', Option.map_some, Option.bind_some]
      cases hleft with
      | kept => exact .inl rfl
      | woken => exact .inl (Stage.sending?_wake t.stage)
      | ended => exact .inr (.inl rfl)

/-- What is written comes from the agent that acts, which is sending a frame. -/
theorem step_written (h : c.step action = some (d, events)) (hw : Trace.written events ≠ []) :
    ∃ a choice stage rest, action = .agent a choice ∧ c.sending? a = some stage ∧
      stage.rest? = some rest ∧ Trace.written events <+: rest := by
  rcases hagent : action.agent? with _ | a
  · cases step_iff.mp h with
    | reader | heartbeat | task => cases hagent
    | deliver | endInput | start | elapse => exact absurd rfl hw
  · obtain ⟨choice, rfl⟩ := exists_choice_of_agent? hagent
    rcases agentStep_sends h with ⟨s, e, p, hs, hstep, -⟩ | ⟨hnone, -⟩
    · obtain ⟨rest, hrest, hwritten⟩ := sendStep_written hstep hw
      exact ⟨a, choice, s, rest, rfl, hs, hrest, hwritten⟩
    · exact absurd hnone hw

theorem offered?_of_encode (hs : c.sending? a = some (.encode frame)) :
    c.offered? a (.agent a .go) = some frame := by
  simp only [offered?, if_true, hs]

/-- Where something is still to be written, it is the end of what was, or its frame has just been
offered. -/
theorem step_rest (h : c.step action = some (d, events))
    (hr : (d.sending? a).bind SendStage.rest? = some rest) :
    (∃ frame, c.offered? a action = some frame ∧ frame.wire c.setup.frameLimit = .ok rest) ∨
      ∃ before, (c.sending? a).bind SendStage.rest? = some before ∧ rest <:+ before := by
  have hbegins : ¬ Begins (d.sending? a) := by
    intro hb
    rw [hb.rest?_eq_none] at hr
    cases hr
  by_cases ha : action.agent? = some a
  · obtain ⟨choice, rfl⟩ := exists_choice_of_agent? ha
    rcases agentStep_sends h with ⟨s, e, p, hs, hstep, hnext⟩ | ⟨-, hb⟩
    · rw [hnext.resolve_right hbegins] at hr
      rcases p with stage' | result
      · rcases sendStep_rest hstep hr with ⟨frame, rfl, rfl, hwire⟩ | ⟨before, hbefore, hsuffix⟩
        · exact .inl ⟨frame, offered?_of_encode hs, hwire⟩
        · exact .inr ⟨before, by rw [hs, Option.bind_some, hbefore], hsuffix⟩
      · cases hr
    · exact absurd hb hbegins
  · rw [((step_others h).sending?_cases ha).resolve_right hbegins] at hr
    exact .inr ⟨rest, hr, List.suffix_refl _⟩

/-! ## Runs -/

/-- What is still to be written is the end of a frame that its sender has offered. -/
def Remains (past : List (Moment ω ρ)) (c : Channel ω ρ) : Prop :=
  ∀ a rest, (c.sending? a).bind SendStage.rest? = some rest →
    ∃ frame ∈ past.filterMap (Moment.offered? a), ∃ wire,
      frame.wire c.setup.frameLimit = .ok wire ∧ rest <:+ wire

theorem Remains.step {past : List (Moment ω ρ)} (ho : Remains past c)
    (h : c.step action = some (d, events)) : Remains (past ++ [⟨c, action, d, events⟩]) d := by
  intro a rest hr
  rw [(step_others h).setup, filterMap_concat]
  rcases step_rest h hr with ⟨frame, hoffered, hwire⟩ | ⟨before, hbefore, hsuffix⟩
  · refine ⟨frame, List.mem_append_right _ ?_, rest, hwire, List.suffix_refl _⟩
    exact Option.mem_toList.mpr hoffered
  · obtain ⟨frame, hmem, wire, hwire, hrest⟩ := ho a before hbefore
    exact ⟨frame, List.mem_append_left _ hmem, wire, hwire, hsuffix.trans hrest⟩

variable (setup : ChannelSetup ω ρ) (world : ω) (guarded : Bool)

/-- **What is written** at a moment is a piece of a frame that the agent that acts has begun to
send. -/
theorem written_of_offers (actions : List (Action ω ρ)) {m : Moment ω ρ}
    (hm : m ∈ (start setup world guarded).moments actions) (hw : Trace.written m.events ≠ []) :
    ∃ a choice frame wire, m.action = .agent a choice ∧
      frame ∈ (start setup world guarded).offers actions a ∧
      frame.wire setup.frameLimit = .ok wire ∧ Trace.written m.events <:+: wire := by
  refine (run_induction (P := fun past c => c.setup = setup ∧ Remains past c ∧
      ∀ m ∈ past, Trace.written m.events ≠ [] → ∃ a choice frame wire,
        m.action = .agent a choice ∧ frame ∈ past.filterMap (Moment.offered? a) ∧
        frame.wire setup.frameLimit = .ok wire ∧ Trace.written m.events <:+: wire)
    (start setup world guarded) ⟨rfl, ?_, by simp⟩ ?_ actions).2.2 m hm hw
  · intro a rest hr
    cases a with
    | reader => cases hr
    | heartbeat =>
      have hbeat : (start setup world guarded).sending? .heartbeat = none := by
        simp only [sending?, start]
        split
        · split_ifs
          · rfl
          · rfl
        · rfl
      rw [hbeat] at hr
      cases hr
    | task number => cases hr
  · rintro past c action d events ⟨rfl, ho, hpast⟩ h
    refine ⟨(step_others h).setup, ho.step h, fun m hm hw => ?_⟩
    rcases List.mem_append.mp hm with hm | hm
    · obtain ⟨a, choice, frame, wire, haction, hmem, hwire, hinfix⟩ := hpast m hm hw
      refine ⟨a, choice, frame, wire, haction, ?_, hwire, hinfix⟩
      rw [filterMap_concat]
      exact List.mem_append_left _ hmem
    · rw [List.mem_singleton.mp hm] at hw ⊢
      obtain ⟨a, choice, stage, rest, rfl, hs, hrest, hwritten⟩ := step_written h hw
      obtain ⟨frame, hmem, wire, hwire, hsuffix⟩ :=
        ho a rest (by rw [hs, Option.bind_some, hrest])
      refine ⟨a, choice, frame, wire, rfl, ?_, hwire,
        hwritten.isInfix.trans hsuffix.isInfix⟩
      rw [filterMap_concat]
      exact List.mem_append_left _ hmem

end Channel

end CommandLink
