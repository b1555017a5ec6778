import CommandLink.Proofs.Channel.Mail

/-!
# All letters can be written

The letters of an open channel can be written one after the other (`Clears`): the one who has the
writer writes the rest of its letter and gives the writer back (`Busy.canClear_writing`), and then
the next in line takes it (`Busy.canClear_free`). So from every moment of a run in which the link
has taken all that was written there is a way on after which all letters have been sent
(`canClear_after`).
-/

namespace CommandLink.Channel

variable {ω ρ : Type} {c d e : Channel ω ρ} {a : Agent} {choice : Choice} {events : List (Event ρ)}
  {letters : List Letter} {count : ℕ} {later : List (Action ω ρ)}

/-- A continuation in which only agents act, the link takes all that is written, and the channel
stays open. -/
structure Proceeds (c : Channel ω ρ) (later : List (Action ω ρ)) : Prop where
  closing : (c.after later).closing = false
  unbroken : c.Unbroken later
  quiet : ∀ m ∈ c.moments later, ∃ a choice, m.action = .agent a choice

theorem proceeds_nil (hc : c.closing = false) : c.Proceeds [] where
  closing := hc
  unbroken _ hm := by cases hm
  quiet _ hm := by cases hm

theorem Proceeds.cons (hd : d.Proceeds later) (h : c.step (.agent a choice) = some (d, events))
    (hl : ∀ error, choice ≠ .fail error) : c.Proceeds (.agent a choice :: later) where
  closing := by rw [after_cons_of_step h, hd.closing]
  unbroken m hm := by
    rw [moments_cons_of_step h, List.mem_cons] at hm
    rcases hm with rfl | hm
    · rintro b error ⟨⟩
      exact hl error rfl
    · exact hd.unbroken m hm
  quiet m hm := by
    rw [moments_cons_of_step h, List.mem_cons] at hm
    rcases hm with rfl | hm
    · exact ⟨a, choice, rfl⟩
    · exact hd.quiet m hm

theorem Proceeds.append {first : List (Action ω ρ)} (hfirst : c.Proceeds first)
    (hlater : (c.after first).Proceeds later) : c.Proceeds (first ++ later) where
  closing := by rw [after_append, hlater.closing]
  unbroken m hm := by
    rw [moments_append, List.mem_append] at hm
    exact hm.elim (hfirst.unbroken m) (hlater.unbroken m)
  quiet m hm := by
    rw [moments_append, List.mem_append] at hm
    exact hm.elim (hfirst.quiet m) (hlater.quiet m)

/-- No agent can go on, over a link that takes all that is written. -/
def AtRest (c : Channel ω ρ) : Prop :=
  ∀ a choice, (∀ error, choice ≠ .fail error) → c.step (.agent a choice) = none

/-- Where no agent can go on nothing more happens. -/
theorem AtRest.moments (hr : c.AtRest) (hp : c.Proceeds later) : c.moments later = [] := by
  induction later with
  | nil => rfl
  | cons action later ih =>
    rcases h : c.step action with _ | ⟨d, events⟩
    · have hafter := after_cons_of_disabled h later
      have hmoments := moments_cons_of_disabled h later
      rw [hmoments]
      exact ih ⟨hafter ▸ hp.closing, fun m hm => hp.unbroken m (hmoments ▸ hm),
        fun m hm => hp.quiet m (hmoments ▸ hm)⟩
    · have hm : (⟨c, action, d, events⟩ : Moment ω ρ) ∈ c.moments (action :: later) := by
        rw [moments_cons_of_step h]
        exact List.mem_cons_self
      obtain ⟨a, choice, rfl⟩ := hp.quiet _ hm
      have hnone := hr a choice fun error heq => hp.unbroken _ hm a error (heq ▸ rfl)
      rw [hnone] at h
      cases h

/-- A continuation in which those who have letters write them, and no other letter joins the
line. -/
structure Clears (c : Channel ω ρ) (later : List (Action ω ρ)) : Prop extends c.Proceeds later where
  letters : c.letters later = []

theorem clears_nil (hc : c.closing = false) : c.Clears [] := ⟨proceeds_nil hc, rfl⟩

theorem Clears.cons (hd : d.Clears later) (h : c.step (.agent a choice) = some (d, events))
    (hl : ∀ error, choice ≠ .fail error) (hn : c.letter? (.agent a choice) = none) :
    c.Clears (.agent a choice :: later) where
  toProceeds := hd.toProceeds.cons h hl
  letters := by
    have hlater := hd.letters
    rw [Channel.letters] at hlater ⊢
    rw [moments_cons_of_step h, List.filterMap_cons, hlater, Moment.letter?, hn]

/-- An open channel with letters, of which a number have been written. -/
structure Busy (c : Channel ω ρ) (letters : List Letter) (count : ℕ) : Prop where
  orderly : Orderly c
  closing : c.closing = false
  mail : ∃ written, c.Mail letters count written

/-- All letters of a channel can be written, of which a number have been. -/
def CanClear (c : Channel ω ρ) (letters : List Letter) (count : ℕ) : Prop :=
  ∃ later, c.Clears later ∧ count + (c.moments later).countP Moment.completes = letters.length

/-- Who sends a letter takes a step, and then all letters can be written. -/
theorem Busy.canClear_of_step (hb : c.Busy letters count) {stage : SendStage}
    {progress : Progress SendStage (Except ChannelError Unit)} (hs : c.sending? a = some stage)
    (hstep : c.sendStep a stage choice = some (e, events, progress))
    (hn : ∀ frame, stage ≠ .encode frame) (hl : ∀ error, choice ≠ .fail error)
    (hnext : ∀ d : Channel ω ρ, d.Busy letters (count + (c.completes (.agent a choice)).toNat) →
      d.writer = e.writer →
      (d.sending? a = progress.stage? ∨ progress.stage? = none ∧ Begins (d.sending? a)) →
      d.CanClear letters (count + (c.completes (.agent a choice)).toNat)) :
    c.CanClear letters count := by
  obtain ⟨d, h, hclosing⟩ := step_of_sending hs hstep
  have hd : d.closing = false := by
    obtain ⟨w, rfl⟩ := sendStep_writer hstep
    rw [hclosing, hb.closing]
  have hletter : c.letter? (.agent a choice) = none := by
    unfold letter?
    split
    · rename_i a' heq
      cases heq
      rw [hs]
      cases stage
      case encode frame => exact absurd rfl (hn frame)
      all_goals rfl
    · rfl
  obtain ⟨written, hmail⟩ := hb.mail
  have hmail' := hmail.step hb.orderly h hd (by rintro b error ⟨⟩; exact hl error rfl)
  rw [hletter, Option.toList_none, List.append_nil] at hmail'
  obtain ⟨hwriter, hself⟩ := (step_sends h hb.orderly hd).next hs hstep
  obtain ⟨later, hlater, hcleared⟩ := hnext d ⟨hb.orderly.step h, hd, _, hmail'⟩ hwriter hself
  refine ⟨.agent a choice :: later, hlater.cons h hl hletter, ?_⟩
  rw [moments_cons_of_step h, List.countP_cons, Moment.completes, ← hcleared]
  cases c.completes (.agent a choice : Action ω ρ)
  · simp
  · simp only [Bool.toNat_true, if_true]
    omega

/-- Who has written its letter gives the writer back. -/
theorem Busy.canClear_flushing (hb : c.Busy letters count) (hs : c.sending? a = some .flush)
    (hnext : ∀ d : Channel ω ρ, d.Busy letters count → d.writer.holder = none →
      d.CanClear letters count) : c.CanClear letters count := by
  have hstep : c.sendStep a .flush .go = some (c.leaveWriter a, [], .finished (.ok ())) := rfl
  refine hb.canClear_of_step hs hstep (by simp) (by simp) fun d hd hwriter _ => hnext d ?_ ?_
  · exact hd
  · obtain ⟨written, hmail⟩ := hb.mail
    rw [hwriter, leaveWriter, Writer.leave, if_pos (hmail.holds a _ hs rfl)]

/-- Who has the writer writes the rest of its letter. -/
theorem Busy.canClear_writing (hb : c.Busy letters count) {rest : Bytes}
    (hs : c.sending? a = some (.write rest))
    (hnext : ∀ d : Channel ω ρ, d.Busy letters (count + 1) → d.writer.holder = none →
      d.CanClear letters (count + 1)) : c.CanClear letters count := by
  obtain ⟨written, hmail⟩ := hb.mail
  have hmore : rest ≠ [] := by
    obtain ⟨sent, underway, part, -, -, -, ho⟩ := hmail.outgoing
    obtain ⟨l, later, -, -, -, hmore, -⟩ := ho.writes (hmail.holds a _ hs rfl) hs
    exact hmore
  have hstep : c.sendStep a (.write rest) (.write rest.length) =
      some (c, [.wrote (rest.take rest.length)], .more .flush) := by
    rw [sendStep, if_neg (by simpa using hmore)]
    simp
  have hcompletes : c.completes (.agent a (.write rest.length) : Action ω ρ) = true := by
    simp [completes, hs]
  refine hb.canClear_of_step hs hstep (by simp) (by simp) fun d hd _ hself => ?_
  rw [hcompletes] at hd ⊢
  exact hd.canClear_flushing (hself.resolve_right (by simp [Progress.stage?])) hnext

/-- All letters have been written, or there is one that has not. -/
theorem Busy.cleared_or (hb : c.Busy letters count) :
    count = letters.length ∨
      count < letters.length ∧ ∃ l later part, c.Outgoing (l :: later) part := by
  obtain ⟨written, hmail⟩ := hb.mail
  obtain ⟨sent, underway, part, rfl, rfl, -, ho⟩ := hmail.outgoing
  rcases underway with _ | ⟨l, underway⟩
  · exact .inl (by simp)
  · exact .inr ⟨by simp, l, underway, part, ho⟩

/-- Where nobody has the writer the letters in line are written one after the other. -/
theorem Busy.canClear_free (hb : c.Busy letters count) (hfree : c.writer.holder = none) :
    c.CanClear letters count := by
  induction hmissing : letters.length - count generalizing c count with
  | zero =>
    rcases hb.cleared_or with rfl | ⟨hlt, -⟩
    · exact ⟨[], clears_nil hb.closing, rfl⟩
    · omega
  | succ missing ih =>
    rcases hb.cleared_or with rfl | ⟨-, l, later, part, ho⟩
    · omega
    cases ho with
    | free _ hw =>
      have hs := hw.queued l (List.mem_cons_self ..)
      obtain ⟨written, hmail⟩ := hb.mail
      have hstep : c.sendStep l.sender (.queued l.bytes) .go =
          some ({ c with writer := c.writer.take l.sender }, [], .more (.write l.bytes)) := by
        have hfirst : c.writer.isFreeFor l.sender = true := by
          simp [Writer.isFreeFor, hfree, hw.line]
        rw [sendStep, if_pos hfirst, if_pos hmail.isOpen]
      refine hb.canClear_of_step hs hstep (by simp) (by simp) fun d hd _ hself => ?_
      exact hd.canClear_writing (hself.resolve_right (by simp [Progress.stage?]))
        fun d' hd' hfree' => ih hd' hfree' (by simp only [completes, Bool.toNat_false]; omega)
    | writing hholder => rw [hfree] at hholder; cases hholder
    | flushing hholder => rw [hfree] at hholder; cases hholder

/-- **All letters can be written**, whoever has the writer. -/
theorem Busy.canClear (hb : c.Busy letters count) : c.CanClear letters count := by
  obtain ⟨written, hmail⟩ := hb.mail
  obtain ⟨sent, underway, part, -, -, -, ho⟩ := hmail.outgoing
  cases ho with
  | free hfree => exact hb.canClear_free hfree
  | writing _ hs => exact hb.canClear_writing hs fun d hd hfree => hd.canClear_free hfree
  | flushing _ hs => exact hb.canClear_flushing hs fun d hd hfree => hd.canClear_free hfree

/-- From every moment of a run over a link that has taken all that was written there is a way on
after which all letters have been sent. -/
theorem canClear_after (setup : ChannelSetup ω ρ) (world : ω) (guarded : Bool)
    (actions : List (Action ω ρ)) (hd : ((start setup world guarded).after actions).closing = false)
    (hl : (start setup world guarded).Unbroken actions) :
    ∃ later, ((start setup world guarded).after actions).Clears later ∧
      (start setup world guarded).sent (actions ++ later) =
        (start setup world guarded).letters actions := by
  have hbusy : ((start setup world guarded).after actions).Busy _ _ :=
    ⟨orderly_after setup world guarded actions, hd, _, mail_after setup world guarded actions hd hl⟩
  obtain ⟨later, hlater, hcount⟩ := hbusy.canClear
  refine ⟨later, hlater, ?_⟩
  have hletters : (((start setup world guarded).after actions).moments later).filterMap
      Moment.letter? = [] := hlater.letters
  rw [sent, letters, moments_append, List.filterMap_append, hletters, List.append_nil,
    List.countP_append, hcount]
  exact List.take_length

end CommandLink.Channel
