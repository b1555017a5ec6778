import CommandLink.Proofs.Channel.Mail

/-!
# The sends of an agent

An agent sends one frame after the other: it offers a frame, and some time later the sending
returns. This module follows the sends of every agent through a run (`abreast_after`) and relates
them to the letters, which are written as a whole: while a channel is open and its link takes all
that is written, the frames whose sending has returned are those that have been written, each once
and in the order of the sends, and only a frame that is too large has left no letter
(`sends_written_whole`).
-/

namespace CommandLink

variable {ω ρ : Type}

namespace Channel

/-! ## Frames offered and sends returned -/

/-- The frame that an agent begins to send with an action. -/
def offered? (c : Channel ω ρ) (a : Agent) : Action ω ρ → Option Frame
  | .agent b .go =>
    if b = a then
      match c.sending? a with
      | some (.encode frame) => some frame
      | _ => none
    else none
  | _ => none

/-- How the sending of an agent ends with an action. -/
def returned? (c : Channel ω ρ) (a : Agent) : Action ω ρ → Option (Except ChannelError Unit)
  | .agent b choice =>
    if b = a then
      ((c.sending? a).bind fun stage => c.sendStep a stage choice).bind fun s => s.2.2.result?
    else none
  | _ => none

end Channel

/-- The frame that an agent begins to send at a moment. -/
def Moment.offered? (a : Agent) (m : Moment ω ρ) : Option Frame := m.before.offered? a m.action

/-- How the sending of an agent ends at a moment. -/
def Moment.returned? (a : Agent) (m : Moment ω ρ) : Option (Except ChannelError Unit) :=
  m.before.returned? a m.action

/-- The frames of the letters that an agent has sent. -/
def framesOf (a : Agent) (letters : List Letter) : List Frame :=
  (letters.filter (·.sender = a)).map Letter.frame

/-- The frames whose sending has returned without an error. -/
def framesReturned (offers : List Frame) (outcomes : List (Except ChannelError Unit)) :
    List Frame :=
  ((offers.zip outcomes).filter fun send => send.2.isOk).map Prod.fst

namespace Channel

/-- The frames that an agent begins to send in a run; the sending of each ends before the next
begins. -/
def offers (c : Channel ω ρ) (actions : List (Action ω ρ)) (a : Agent) : List Frame :=
  (c.moments actions).filterMap (Moment.offered? a)

/-- How the sends of an agent end in a run, in the same order. -/
def outcomes (c : Channel ω ρ) (actions : List (Action ω ρ)) (a : Agent) :
    List (Except ChannelError Unit) :=
  (c.moments actions).filterMap (Moment.returned? a)

variable {c d : Channel ω ρ} {action : Action ω ρ} {events : List (Event ρ)} {a b : Agent}
  {choice : Choice} {frame : Frame} {letters : List Letter} {count : ℕ} {written : Bytes}

/-! ## Small facts -/

theorem framesOf_append (a : Agent) (letters letters' : List Letter) :
    framesOf a (letters ++ letters') = framesOf a letters ++ framesOf a letters' := by
  simp [framesOf]

theorem framesOf_singleton_self (l : Letter) : framesOf l.sender [l] = [l.frame] := by
  simp [framesOf]

theorem framesReturned_concat {offers : List Frame} {outcomes : List (Except ChannelError Unit)}
    (h : outcomes.length = offers.length) (frame : Frame) (result : Except ChannelError Unit) :
    framesReturned (offers ++ [frame]) (outcomes ++ [result]) =
      framesReturned offers outcomes ++ if result.isOk then [frame] else [] := by
  rw [framesReturned, List.zip_append h.symm, List.filter_append, List.map_append]
  cases hok : result.isOk <;> simp [framesReturned, hok]

/-- A frame that has been offered and whose sending goes on has not returned. -/
theorem framesReturned_pending {offers : List Frame}
    {outcomes : List (Except ChannelError Unit)} (h : outcomes.length = offers.length)
    (frame : Frame) :
    framesReturned (offers ++ [frame]) outcomes = framesReturned offers outcomes := by
  have hzip : (offers ++ [frame]).zip (outcomes ++ []) = offers.zip outcomes ++ [frame].zip [] :=
    List.zip_append h.symm
  rw [List.append_nil] at hzip
  rw [framesReturned, hzip, List.zip_nil_right, List.append_nil, framesReturned]

/-- The sends that have returned have sent their frame, unless it was too large. -/
def Accepted (limit : ℕ) (offers : List Frame) (outcomes : List (Except ChannelError Unit)) :
    Prop :=
  ∀ send ∈ offers.zip outcomes, send.2 = .ok () ∨
    ∃ e, send.2 = .error (.protocol e) ∧ send.1.wire limit = .error e

theorem Accepted.concat {limit : ℕ} {offers : List Frame}
    {outcomes : List (Except ChannelError Unit)} (h : Accepted limit offers outcomes)
    (hlength : outcomes.length = offers.length) {result : Except ChannelError Unit}
    (hnew : result = .ok () ∨
      ∃ e, result = .error (.protocol e) ∧ frame.wire limit = .error e) :
    Accepted limit (offers ++ [frame]) (outcomes ++ [result]) := by
  intro send hsend
  rw [List.zip_append hlength.symm, List.zip_cons_cons, List.zip_nil_right, List.mem_append,
    List.mem_singleton] at hsend
  rcases hsend with hsend | rfl
  · exact h send hsend
  · exact hnew

/-! ## How far an agent has come -/

/-- What the sends of an agent have come to, and its letters with them. -/
inductive Abreast (c : Channel ω ρ) (a : Agent) (offers : List Frame)
    (outcomes : List (Except ChannelError Unit)) (letters sent : List Frame) : Prop
  /-- All its sends have returned. -/
  | idle (stage : Begins (c.sending? a)) (length : outcomes.length = offers.length)
    (accepted : Accepted c.setup.frameLimit offers outcomes)
    (letters_eq : letters = framesReturned offers outcomes)
    (sent_eq : sent = framesReturned offers outcomes)
  /-- The last is in line, or being written. -/
  | waiting (past : List Frame) (frame : Frame)
    (stage : (∃ bytes, c.sending? a = some (.queued bytes)) ∨
      ∃ rest, c.sending? a = some (.write rest))
    (offers_eq : offers = past ++ [frame]) (length : outcomes.length = past.length)
    (accepted : Accepted c.setup.frameLimit past outcomes)
    (letters_eq : letters = framesReturned past outcomes ++ [frame])
    (sent_eq : sent = framesReturned past outcomes)
  /-- The last is written, and has not returned. -/
  | flushing (past : List Frame) (frame : Frame) (stage : c.sending? a = some .flush)
    (offers_eq : offers = past ++ [frame]) (length : outcomes.length = past.length)
    (accepted : Accepted c.setup.frameLimit past outcomes)
    (letters_eq : letters = framesReturned past outcomes ++ [frame])
    (sent_eq : sent = letters)

section Abreast

variable {offers : List Frame} {outcomes : List (Except ChannelError Unit)} {sent : List Frame}
  {frames : List Frame}

theorem Abreast.of_kept (h : c.Abreast a offers outcomes frames sent) (hsetup : d.setup = c.setup)
    (hkept : d.sending? a = c.sending? a ∨ Begins (c.sending? a) ∧ Begins (d.sending? a)) :
    d.Abreast a offers outcomes frames sent := by
  have hsame : ∀ stage, (∀ frame, stage ≠ .encode frame) → c.sending? a = some stage →
      d.sending? a = some stage := by
    intro stage hstage hs
    rcases hkept with hk | ⟨hk, -⟩
    · exact hk.trans hs
    · exact absurd hs (hk.ne hstage)
  cases h with
  | idle hs hlength haccepted hletters hsent =>
    refine .idle ?_ hlength (hsetup ▸ haccepted) hletters hsent
    rcases hkept with hk | ⟨-, hk⟩
    · rwa [hk]
    · exact hk
  | waiting past frame hs hoffers hlength haccepted hletters hsent =>
    exact .waiting past frame (hs.imp (fun ⟨_, hs⟩ => ⟨_, hsame _ (by simp) hs⟩)
      fun ⟨_, hs⟩ => ⟨_, hsame _ (by simp) hs⟩) hoffers hlength (hsetup ▸ haccepted) hletters hsent
  | flushing past frame hs hoffers hlength haccepted hletters hsent =>
    exact .flushing past frame (hsame _ (by simp) hs) hoffers hlength (hsetup ▸ haccepted) hletters
      hsent

theorem Abreast.of_encode (h : c.Abreast a offers outcomes frames sent)
    (hs : c.sending? a = some (.encode frame)) :
    outcomes.length = offers.length ∧ Accepted c.setup.frameLimit offers outcomes ∧
      frames = framesReturned offers outcomes ∧ sent = framesReturned offers outcomes := by
  cases h with
  | idle _ hlength haccepted hletters hsent => exact ⟨hlength, haccepted, hletters, hsent⟩
  | waiting _ _ hs' =>
    rw [hs] at hs'
    rcases hs' with ⟨_, hs'⟩ | ⟨_, hs'⟩ <;> cases hs'
  | flushing _ _ hs' =>
    rw [hs] at hs'
    cases hs'

theorem Abreast.of_waiting (h : c.Abreast a offers outcomes frames sent)
    (hs : (∃ bytes, c.sending? a = some (.queued bytes)) ∨
      ∃ rest, c.sending? a = some (.write rest)) :
    ∃ past frame, offers = past ++ [frame] ∧ outcomes.length = past.length ∧
      Accepted c.setup.frameLimit past outcomes ∧
      frames = framesReturned past outcomes ++ [frame] ∧ sent = framesReturned past outcomes := by
  cases h with
  | idle hs' => rcases hs with ⟨_, hs⟩ | ⟨_, hs⟩ <;> exact absurd hs (hs'.ne (by simp))
  | waiting past frame _ hoffers hlength haccepted hletters hsent =>
    exact ⟨past, frame, hoffers, hlength, haccepted, hletters, hsent⟩
  | flushing _ _ hs' =>
    rw [hs'] at hs
    rcases hs with ⟨_, hs⟩ | ⟨_, hs⟩ <;> cases hs

theorem Abreast.of_flush (h : c.Abreast a offers outcomes frames sent)
    (hs : c.sending? a = some .flush) :
    ∃ past frame, offers = past ++ [frame] ∧ outcomes.length = past.length ∧
      Accepted c.setup.frameLimit past outcomes ∧
      frames = framesReturned past outcomes ++ [frame] ∧ sent = frames := by
  cases h with
  | idle hs' => exact absurd hs (hs'.ne (by simp))
  | waiting _ _ hs' =>
    rw [hs] at hs'
    rcases hs' with ⟨_, hs'⟩ | ⟨_, hs'⟩ <;> cases hs'
  | flushing past frame _ hoffers hlength haccepted hletters hsent =>
    exact ⟨past, frame, hoffers, hlength, haccepted, hletters, hsent⟩

end Abreast

/-! ## One step -/

theorem sender_of_letter? {l : Letter} (h : c.letter? (.agent a choice) = some l) :
    l.sender = a := by
  obtain ⟨-, -, -, haction, -, -⟩ := letter?_eq_some h
  cases haction
  rfl

/-- Who writes the last bytes of a letter writes its own, the next in the order of the letters. -/
theorem Mail.next_of_completes (hm : c.Mail letters count written)
    (h : c.completes (.agent a choice) = true) :
    ∃ l, letters[count]? = some l ∧ l.sender = a := by
  obtain ⟨rest, hs⟩ : ∃ rest, c.sending? a = some (.write rest) := by
    unfold completes at h
    split at h
    · split at h
      · rename_i haction _ rest hs
        cases haction
        exact ⟨rest, hs⟩
      · cases h
    · cases h
  obtain ⟨sent, underway, part, rfl, rfl, -, ho⟩ := hm.outgoing
  obtain ⟨l, later, rfl, hsender, -⟩ := ho.writes (hm.holds a _ hs rfl) hs
  exact ⟨l, by simp, hsender⟩

/-- Of a step of an agent only letters of its own join the line or are written as a whole. -/
theorem Mail.sent_step (hm : c.Mail letters count written) (a : Agent) (choice : Choice) :
    ∃ more, (letters ++ (c.letter? (.agent a choice)).toList).take
        (count + (c.completes (.agent a choice)).toNat) = letters.take count ++ more ∧
      more.length = (c.completes (.agent a choice)).toNat ∧ ∀ l ∈ more, l.sender = a := by
  have hcount : count ≤ letters.length := by
    obtain ⟨sent, underway, part, rfl, rfl, -, -⟩ := hm.outgoing
    simp
  rcases hx : c.completes (.agent a choice) with _ | _
  · exact ⟨[], by simp [List.take_append_of_le_length hcount], rfl, by simp⟩
  · obtain ⟨l, hl, hsender⟩ := hm.next_of_completes hx
    have hlt := (List.getElem?_eq_some_iff.mp hl).1
    refine ⟨[l], ?_, rfl, by simpa using hsender⟩
    rw [Bool.toNat_true, List.take_append_of_le_length hlt, List.take_add_one, hl]
    rfl

theorem framesOf_eq_nil (h : ∀ l ∈ letters, l.sender ≠ a) : framesOf a letters = [] := by
  rw [framesOf, List.map_eq_nil_iff, List.filter_eq_nil_iff]
  simpa using h

section Step

variable {offers : List Frame} {outcomes : List (Except ChannelError Unit)}

/-- A step leaves another agent where it is. -/
theorem Abreast.of_other (hm : c.Mail letters count written)
    (h : c.Abreast b offers outcomes (framesOf b letters) (framesOf b (letters.take count)))
    (hb : b ≠ a) (hsetup : d.setup = c.setup) (hkept : d.sending? b = c.sending? b) :
    d.Abreast b (offers ++ (c.offered? b (.agent a choice)).toList)
      (outcomes ++ (c.returned? b (.agent a choice)).toList)
      (framesOf b (letters ++ (c.letter? (.agent a choice)).toList))
      (framesOf b ((letters ++ (c.letter? (.agent a choice)).toList).take
        (count + (c.completes (.agent a choice)).toNat))) := by
  have hoffered : c.offered? b (.agent a choice) = none := by
    unfold offered?
    split
    · rename_i haction
      cases haction
      rw [if_neg (Ne.symm hb)]
    · rfl
  have hreturned : c.returned? b (.agent a choice) = none := by
    rw [returned?, if_neg (Ne.symm hb)]
  obtain ⟨more, hmore, -, hsender⟩ := hm.sent_step a choice
  have hletters : framesOf b (c.letter? (.agent a choice)).toList = [] :=
    framesOf_eq_nil fun l hl => by
      rw [sender_of_letter? (Option.mem_toList.mp hl)]
      exact Ne.symm hb
  have hsent : framesOf b more = [] := framesOf_eq_nil fun l hl => by
    rw [hsender l hl]
    exact Ne.symm hb
  rw [hmore, framesOf_append, framesOf_append, hletters, hsent, hoffered, hreturned]
  simpa using h.of_kept hsetup (.inl hkept)

theorem returned?_of_sendStep {stage : SendStage} {e : Channel ω ρ}
    {progress : Progress SendStage (Except ChannelError Unit)} (hs : c.sending? a = some stage)
    (hstep : c.sendStep a stage choice = some (e, events, progress)) :
    c.returned? a (.agent a choice) = progress.result? := by
  rw [returned?, if_pos rfl, hs, Option.bind_some, hstep, Option.bind_some]

theorem Mail.sent_of_not_completes (hm : c.Mail letters count written)
    (h : c.completes (.agent a choice) = false) :
    (letters ++ (c.letter? (.agent a choice)).toList).take
      (count + (c.completes (.agent a choice)).toNat) = letters.take count := by
  obtain ⟨more, hmore, hlength, -⟩ := hm.sent_step a choice
  rw [h, Bool.toNat_false, List.length_eq_zero_iff] at hlength
  rw [hmore, hlength, List.append_nil]

theorem completes_go (a : Agent) : c.completes (.agent a .go) = false := rfl

/-- The last letter of an agent, once it is written as a whole, is the one it was sending. -/
theorem framesOf_take_of_completes (hm : c.Mail letters count written)
    (h : c.completes (.agent a choice) = true) {past : List Frame}
    (hletters : framesOf a letters = past ++ [frame])
    (hsent : framesOf a (letters.take count) = past) :
    framesOf a (letters.take (count + 1)) = past ++ [frame] := by
  obtain ⟨l, hl, rfl⟩ := hm.next_of_completes h
  have htake : letters.take (count + 1) = letters.take count ++ [l] := by
    rw [List.take_add_one, hl]
    rfl
  have hall := congrArg (framesOf l.sender) (List.take_append_drop (count + 1) letters)
  rw [framesOf_append, htake, framesOf_append, hsent, framesOf_singleton_self, hletters,
    List.append_assoc, List.append_right_inj, List.singleton_append, List.cons.injEq] at hall
  rw [htake, framesOf_append, hsent, framesOf_singleton_self, hall.1]

/-- The agent that goes on with a send comes to the next stage of it. -/
theorem Abreast.of_self {stage : SendStage} {e : Channel ω ρ}
    {progress : Progress SendStage (Except ChannelError Unit)} (hm : c.Mail letters count written)
    (h : c.Abreast a offers outcomes (framesOf a letters) (framesOf a (letters.take count)))
    (hs : c.sending? a = some stage)
    (hstep : c.sendStep a stage choice = some (e, events, progress))
    (hforwards : Forwards c a stage choice e events progress) (hsetup : d.setup = c.setup)
    (hnext : d.sending? a = progress.stage? ∨ progress.stage? = none ∧ Begins (d.sending? a)) :
    d.Abreast a (offers ++ (c.offered? a (.agent a choice)).toList)
      (outcomes ++ (c.returned? a (.agent a choice)).toList)
      (framesOf a (letters ++ (c.letter? (.agent a choice)).toList))
      (framesOf a ((letters ++ (c.letter? (.agent a choice)).toList).take
        (count + (c.completes (.agent a choice)).toNat))) := by
  have hreturned := returned?_of_sendStep hs hstep
  cases hforwards with
  | refused frame error hwire =>
    obtain ⟨hlength, haccepted, hletters, hsent⟩ := h.of_encode hs
    have hstay := hm.sent_of_not_completes (completes_go a)
    have hoffered : c.offered? a (.agent a .go) = some frame := by simp [offered?, hs]
    have hletter : c.letter? (.agent a .go) = none := by simp only [letter?, hs, hwire]
    rw [hstay, hoffered, hreturned, hletter]
    refine .idle (hnext.elim .inl And.right) (by simp [hlength]) ?_ ?_ ?_
    · rw [hsetup]
      exact haccepted.concat hlength (.inr ⟨error, rfl, hwire⟩)
    all_goals simp [framesReturned_concat hlength, Except.isOk, Except.toBool, hletters, hsent]
  | joined frame bytes hwire =>
    obtain ⟨hlength, haccepted, hletters, hsent⟩ := h.of_encode hs
    have hstay := hm.sent_of_not_completes (completes_go a)
    have hoffered : c.offered? a (.agent a .go) = some frame := by simp [offered?, hs]
    have hletter : c.letter? (.agent a .go) = some ⟨a, frame, bytes⟩ := by
      simp only [letter?, hs, hwire]
    have hself := hnext.resolve_right (by simp [Progress.stage?])
    rw [hstay, hoffered, hreturned, hletter]
    refine .waiting offers frame (.inl ⟨bytes, hself⟩) rfl (by simpa using hlength)
      (by simpa [hsetup] using haccepted) ?_ ?_
    · rw [framesOf_append, hletters]
      simp [framesOf]
    · simpa using hsent
  | took bytes =>
    obtain ⟨past, frame, hoffers, hlength, haccepted, hletters, hsent⟩ :=
      h.of_waiting (.inl ⟨bytes, hs⟩)
    have hstay := hm.sent_of_not_completes (completes_go a)
    have hoffered : c.offered? a (.agent a .go) = none := by simp [offered?, hs]
    have hletter : c.letter? (.agent a .go) = none := by simp only [letter?, hs]
    have hself := hnext.resolve_right (by simp [Progress.stage?])
    rw [hstay, hoffered, hreturned, hletter]
    simpa using Abreast.waiting past frame (.inr ⟨bytes, hself⟩) hoffers hlength
      (hsetup ▸ haccepted) hletters hsent
  | wrote rest number hmore =>
    obtain ⟨past, frame, hoffers, hlength, haccepted, hletters, hsent⟩ :=
      h.of_waiting (.inr ⟨rest, hs⟩)
    have hgoes : c.completes (.agent a (.write number) : Action ω ρ) = false := by
      simp only [completes, hs, hmore, decide_false]
    have hstay := hm.sent_of_not_completes hgoes
    have hself := hnext.resolve_right (by simp [Progress.stage?])
    rw [hstay, hreturned]
    simpa [offered?, letter?] using Abreast.waiting past frame (.inr ⟨_, hself⟩) hoffers hlength
      (hsetup ▸ haccepted) hletters hsent
  | completed rest number hall =>
    obtain ⟨past, frame, hoffers, hlength, haccepted, hletters, hsent⟩ :=
      h.of_waiting (.inr ⟨rest, hs⟩)
    have hcompletes : c.completes (.agent a (.write number) : Action ω ρ) = true := by
      simp only [completes, hs, hall, decide_true]
    have hself := hnext.resolve_right (by simp [Progress.stage?])
    have hwhole := framesOf_take_of_completes hm hcompletes hletters hsent
    rw [hcompletes, hreturned]
    simp only [offered?, letter?, Progress.result?, Option.toList_none, List.append_nil,
      Bool.toNat_true]
    exact .flushing past frame hself hoffers hlength (hsetup ▸ haccepted) hletters
      (hwhole.trans hletters.symm)
  | flushed =>
    obtain ⟨past, frame, hoffers, hlength, haccepted, hletters, hsent⟩ :=
      h.of_flush hs
    have hstay := hm.sent_of_not_completes (completes_go a)
    have hoffered : c.offered? a (.agent a .go) = none := by simp [offered?, hs]
    have hletter : c.letter? (.agent a .go) = none := by simp only [letter?, hs]
    rw [hstay, hoffered, hreturned, hletter]
    refine .idle (hnext.elim .inl And.right) (by simp [hlength, hoffers]) ?_ ?_ ?_
    · rw [hsetup, hoffers, Option.toList_none, List.append_nil]
      exact haccepted.concat hlength (.inl rfl)
    all_goals
      simp [hoffers, framesReturned_concat hlength, Except.isOk, Except.toBool, hletters, hsent]

theorem offered?_of_silent (h : ∀ a, action.agent? = some a → c.sending? a = none) :
    c.offered? b action = none := by
  unfold offered?
  split
  · split_ifs with hb
    · rw [h b (congrArg some hb)]
    · rfl
  · rfl

theorem returned?_of_silent (h : ∀ a, action.agent? = some a → c.sending? a = none) :
    c.returned? b action = none := by
  unfold returned?
  split
  · split_ifs with hb
    · rw [h b (congrArg some hb), Option.bind_none, Option.bind_none]
    · rfl
  · rfl

/-- **The sends of an agent after a step.** -/
theorem Abreast.step (hm : c.Mail letters count written) (ho : Orderly c)
    (hs : c.step action = some (d, events)) (hd : d.closing = false)
    (hl : ∀ a error, action ≠ .agent a (.fail error))
    (h : c.Abreast b offers outcomes (framesOf b letters) (framesOf b (letters.take count))) :
    d.Abreast b (offers ++ (c.offered? b action).toList)
      (outcomes ++ (c.returned? b action).toList)
      (framesOf b (letters ++ (c.letter? action).toList))
      (framesOf b ((letters ++ (c.letter? action).toList).take
        (count + (c.completes action).toNat))) := by
  have hsetup := (step_others hs).setup
  have hcancelled := ho.not_cancelled (open_of_step hs hd)
  cases step_sends hs ho hd with
  | rest _ _ hsilent hkept =>
    rw [offered?_of_silent hsilent, returned?_of_silent hsilent, letter?_of_silent hsilent,
      completes_of_silent hsilent]
    simpa using h.of_kept hsetup ((hkept b).imp_right fun hb => ⟨.inl hb.1, hb.2⟩)
  | went a choice stage e progress hact hstage hstep _ hnext hkept =>
    subst hact
    have hforwards := sendStep_forwards hcancelled hm.isOpen
      (fun error heq => hl a error (heq ▸ rfl)) hstep
    by_cases hb : b = a
    · subst hb
      exact h.of_self hm hstage hstep hforwards hsetup hnext
    · exact h.of_other hm hb hsetup (hkept b hb)

end Step

/-! ## Runs -/

variable {setup : ChannelSetup ω ρ} {world : ω} {guarded : Bool} {actions : List (Action ω ρ)}

theorem abreast_start (setup : ChannelSetup ω ρ) (world : ω) (guarded : Bool) (a : Agent) :
    (start setup world guarded).Abreast a [] [] [] [] := by
  refine .idle (.inl ?_) rfl (by simp [Accepted]) rfl rfl
  cases a with
  | reader => rfl
  | heartbeat =>
    simp only [sending?, start]
    split
    · split_ifs <;> rfl
    · rfl
  | task number => rfl

/-- **The sends of an agent in a run.** -/
theorem abreast_after (actions : List (Action ω ρ)) (a : Agent)
    (hd : ((start setup world guarded).after actions).closing = false)
    (hl : (start setup world guarded).Unbroken actions) :
    ((start setup world guarded).after actions).Abreast a
      ((start setup world guarded).offers actions a)
      ((start setup world guarded).outcomes actions a)
      (framesOf a ((start setup world guarded).letters actions))
      (framesOf a ((start setup world guarded).sent actions)) := by
  refine open_induction (P := fun past c => c.Abreast a
    (past.filterMap (Moment.offered? a)) (past.filterMap (Moment.returned? a))
    (framesOf a (past.filterMap Moment.letter?))
    (framesOf a ((past.filterMap Moment.letter?).take (past.countP Moment.completes))))
    (abreast_start setup world guarded a)
    (fun first action d events hc hfirst ha h hd haction => ?_) hd hl
  rw [filterMap_concat, filterMap_concat, filterMap_concat, countP_completes_concat]
  exact ha.step (mail_after setup world guarded first hc hfirst)
    (orderly_after setup world guarded first) h hd haction

/-! ## What is written -/

/-- What a run has written, by its letters: the letters that are written as a whole, one after the
other, and part of the next at most. -/
structure WrittenWhole (c : Channel ω ρ) (actions : List (Action ω ρ)) : Prop where
  wire : ∀ l ∈ c.letters actions, l.frame.wire c.setup.frameLimit = .ok l.bytes
  written : ∃ underway part, c.letters actions = c.sent actions ++ underway ∧
    c.written actions = (c.sent actions).flatMap Letter.bytes ++ part ∧
    (part = [] ∨ ∃ l later rest, underway = l :: later ∧ l.bytes = part ++ rest ∧ rest ≠ [])

/-- What the sends of an agent have come to. All but the last have returned, and the last may have.
Those that have returned without an error have their frames among the letters that are written as a
whole, each once and in order; those that have returned with an error were too large, and have left
no letter. -/
structure SendsInOrder (c : Channel ω ρ) (actions : List (Action ω ρ)) (a : Agent) : Prop where
  sequential : (c.outcomes actions a).length ≤ (c.offers actions a).length ∧
    (c.offers actions a).length ≤ (c.outcomes actions a).length + 1
  refused : ∀ (n : ℕ) (frame : Frame) (error : ChannelError),
    (c.offers actions a)[n]? = some frame → (c.outcomes actions a)[n]? = some (.error error) →
    ∃ e, error = .protocol e ∧ frame.wire c.setup.frameLimit = .error e
  letters : framesOf a (c.letters actions) =
    framesReturned (c.offers actions a) (c.outcomes actions a) ++
      (c.offers actions a).drop (c.outcomes actions a).length
  sent : ∃ last, last.IsPrefix ((c.offers actions a).drop (c.outcomes actions a).length) ∧
    framesOf a (c.sent actions) =
      framesReturned (c.offers actions a) (c.outcomes actions a) ++ last

theorem writtenWhole_after (hd : ((start setup world guarded).after actions).closing = false)
    (hl : (start setup world guarded).Unbroken actions) :
    (start setup world guarded).WrittenWhole actions := by
  have hm := mail_after setup world guarded actions hd hl
  obtain ⟨sent, underway, part, hletters, hcount, hwritten, ho⟩ := hm.outgoing
  have hsent : (start setup world guarded).sent actions = sent := by
    rw [Channel.sent, hletters, List.take_left' hcount]
  refine ⟨?_, underway, part, by rw [hsent, hletters], by rw [hsent, hwritten], ?_⟩
  · have hwire := hm.wire
    rwa [setup_after] at hwire
  · cases ho with
    | free => exact .inl rfl
    | writing _ _ hmore hbytes => exact .inr ⟨_, _, _, rfl, hbytes, hmore⟩
    | flushing => exact .inl rfl

theorem Accepted.refused {limit : ℕ} {offers : List Frame}
    {outcomes : List (Except ChannelError Unit)} (h : Accepted limit offers outcomes) {n : ℕ}
    {error : ChannelError} (hoffer : offers[n]? = some frame)
    (hreturned : outcomes[n]? = some (.error error)) :
    ∃ e, error = .protocol e ∧ frame.wire limit = .error e := by
  have hmem : (frame, .error error) ∈ offers.zip outcomes :=
    List.mem_of_getElem? (List.getElem?_zip_eq_some.mpr ⟨hoffer, hreturned⟩)
  rcases h _ hmem with hok | ⟨e, he, hwire⟩
  · cases hok
  · exact ⟨e, Except.error.inj he, hwire⟩

theorem sendsInOrder_after (a : Agent)
    (hd : ((start setup world guarded).after actions).closing = false)
    (hl : (start setup world guarded).Unbroken actions) :
    (start setup world guarded).SendsInOrder actions a := by
  have h := abreast_after actions a hd hl
  have hsetup : ((start setup world guarded).after actions).setup =
      (start setup world guarded).setup := setup_after ..
  -- The last send is all that may not have returned.
  have hpending : ∀ past frame, (start setup world guarded).offers actions a = past ++ [frame] →
      ((start setup world guarded).outcomes actions a).length = past.length →
      Accepted (start setup world guarded).setup.frameLimit past
        ((start setup world guarded).outcomes actions a) →
      framesOf a ((start setup world guarded).letters actions) =
        framesReturned past ((start setup world guarded).outcomes actions a) ++ [frame] →
      (∃ last, last.IsPrefix [frame] ∧ framesOf a ((start setup world guarded).sent actions) =
        framesReturned past ((start setup world guarded).outcomes actions a) ++ last) →
      (start setup world guarded).SendsInOrder actions a := by
    intro past frame hoffers hlength haccepted hletters hsent
    refine ⟨by simp [hoffers, hlength], fun n frame' error hoffer hreturned => ?_, ?_, ?_⟩
    · have hlt : n < past.length := hlength ▸ (List.getElem?_eq_some_iff.mp hreturned).1
      rw [hoffers, List.getElem?_append_left hlt] at hoffer
      exact haccepted.refused hoffer hreturned
    · rw [hletters, hoffers, framesReturned_pending hlength, hlength, List.drop_left]
    · rw [hoffers, framesReturned_pending hlength, hlength, List.drop_left]
      exact hsent
  cases h with
  | idle _ hlength haccepted hletters hsent =>
    rw [hsetup] at haccepted
    refine ⟨by simp [hlength], fun n frame error => haccepted.refused, ?_, [], List.nil_prefix, ?_⟩
    · rw [hletters, hlength, List.drop_length, List.append_nil]
    · rw [hsent, List.append_nil]
  | waiting past frame _ hoffers hlength haccepted hletters hsent =>
    rw [hsetup] at haccepted
    exact hpending past frame hoffers hlength haccepted hletters
      ⟨[], List.nil_prefix, by rw [hsent, List.append_nil]⟩
  | flushing past frame _ hoffers hlength haccepted hletters hsent =>
    rw [hsetup] at haccepted
    exact hpending past frame hoffers hlength haccepted hletters
      ⟨[frame], List.prefix_rfl, hsent.trans hletters⟩

/-- **Frames never interleave.** While a channel is open and its link takes all that is written, the
bytes written so far are those of whole letters, one after the other, and part of at most one more.
For every agent the frames whose sending has returned are written as a whole, once and in the order
of the sends, and at most the one that is being sent besides; a send that has been refused, as its
frame is too large, writes nothing. -/
theorem sends_written_whole (setup : ChannelSetup ω ρ) (world : ω) (guarded : Bool)
    (actions : List (Action ω ρ)) (hd : ((start setup world guarded).after actions).closing = false)
    (hl : (start setup world guarded).Unbroken actions) :
    (start setup world guarded).WrittenWhole actions ∧
      ∀ a, (start setup world guarded).SendsInOrder actions a :=
  ⟨writtenWhole_after hd hl, fun a => sendsInOrder_after a hd hl⟩

/-- A small link without a heartbeat. -/
def smallLink : ChannelSetup Unit Unit := ⟨"link", .direct, 64, 0, Handler.refuseAll⟩

/-- Two routines publish at once. The first writes a part of its frame, the second joins the line
behind it, and the first of its two frames is too large. -/
def crossedPublishers : List (Action Unit Unit) :=
  let first : Routine Unit Unit Unit := do
    let _ ← Routine.publish "a" (.bool true)
    return ()
  let second : Routine Unit Unit Unit := do
    let _ ← Routine.publish "b" (.str (String.ofList (List.replicate 64 'b')))
    let _ ← Routine.publish "b" (.bool false)
    return ()
  let one (choice : Choice) : Action Unit Unit := .agent (.task 0) choice
  let two (choice : Choice) : Action Unit Unit := .agent (.task 1) choice
  [.start first, .start second, one .go, one .go, one .go, one (.write 5), two .go, two .go,
    two .go, two .go, two .go, one (.write 100), one .go, two .go, two (.write 7)]

/-- Of two routines that publish at once the first has its frame written, and the second part of the
one that is not too large. -/
theorem sends_written_whole_crossedPublishers :
    ((start smallLink () false).after crossedPublishers).closing = false ∧
    (start smallLink () false).Unbroken crossedPublishers ∧
    (start smallLink () false).WrittenWhole crossedPublishers ∧
    (start smallLink () false).SendsInOrder crossedPublishers (.task 1) ∧
    ((start smallLink () false).sent crossedPublishers).map Letter.sender = [.task 0] ∧
    ((start smallLink () false).letters crossedPublishers).map Letter.sender =
      [.task 0, .task 1] ∧
    ((start smallLink () false).offers crossedPublishers (.task 1)).length = 2 := by
  have hopen : ((start smallLink () false).after crossedPublishers).closing = false := by
    decide +kernel
  have hunbroken : (start smallLink () false).Unbroken crossedPublishers := by
    intro m hm a error haction
    have hmem := action_mem_of_mem_moments _ hm
    rw [haction] at hmem
    simp [crossedPublishers] at hmem
  have h := sends_written_whole smallLink () false crossedPublishers hopen hunbroken
  exact ⟨hopen, hunbroken, h.1, h.2 (.task 1), by decide +kernel, by decide +kernel,
    by decide +kernel⟩

end Channel

end CommandLink
