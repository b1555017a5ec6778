import CommandLink.Proofs.Channel.Following
import CommandLink.Proofs.Channel.Mail
import CommandLink.Proofs.Channel.Shutdown
import Mathlib.Data.List.Induction

/-!
# The calls of an open channel

Which call an agent is in the middle of can be told from the history, with the identifier that the
call has drawn (`underway`). While a channel is open, its link takes all that is written and no
identifier is drawn twice, a call that waits is never given up: it waits under its identifier, or
it has been answered (`Awaited`). So a call returns because its request is too large, or with its
answer (`concluded_after`).
-/

namespace CommandLink

variable {ω ρ : Type}

/-- A call that has not returned. -/
structure Underway where
  call : Call
  /-- The identifier that it has drawn. -/
  id? : Option CallId
  deriving DecidableEq, Repr

/-- What becomes of the call that an agent is in the middle of. -/
def Note.advance (a : Agent) (u : Option Underway) (note : Note) : Option Underway :=
  if note.caller? = some a then
    match note with
    | .began _ call => some ⟨call, none⟩
    | .drew _ id => u.map fun u => { u with id? := some id }
    | .completed _ _ => none
    | _ => u
  else u

/-- The call that an agent is in the middle of after what has happened. -/
def underway (a : Agent) (h : List Note) : Option Underway := h.foldl (Note.advance a) none

section Underway

variable {a b : Agent} {h later : List Note} {note : Note} {u : Option Underway} {call : Call}
  {id : CallId} {answer : Except Failure Reply}

theorem Note.advance_of_ne (hn : note.caller? ≠ some a) : note.advance a u = u := if_neg hn

theorem Note.advance_began : (Note.began a call).advance a u = some ⟨call, none⟩ := if_pos rfl

theorem Note.advance_drew (id : CallId) :
    (Note.drew a id).advance a u = u.map fun u => { u with id? := some id } := if_pos rfl

theorem Note.advance_registered (id : CallId) : (Note.registered a id).advance a u = u := if_pos rfl

theorem Note.advance_completed (result : Except ChannelError Reply) :
    (Note.completed a result).advance a u = none := if_pos rfl

theorem underway_append (a : Agent) (h later : List Note) :
    underway a (h ++ later) = later.foldl (Note.advance a) (underway a h) := List.foldl_append

theorem underway_concat (a : Agent) (h : List Note) (note : Note) :
    underway a (h ++ [note]) = note.advance a (underway a h) := underway_append a h [note]

/-- What happens to the calls of others does not count. -/
theorem underway_of_apart (hl : Apart a later) : underway a (h ++ later) = underway a h := by
  induction later using List.reverseRecOn with
  | nil => rw [List.append_nil]
  | append_singleton later note ih =>
    rw [← List.append_assoc, underway_concat, Note.advance_of_ne (hl note (by simp))]
    exact ih fun n hn => hl n (List.mem_append_left _ hn)

theorem Opened.underway (ho : Opened a h) : ∃ call, underway a h = some ⟨call, none⟩ := by
  obtain ⟨before, call, later, rfl, hl⟩ := ho
  rw [List.append_cons, underway_of_apart hl, underway_concat, Note.advance_began]
  exact ⟨call, rfl⟩

theorem Drawn.underway (hd : Drawn a id h) : ∃ call, underway a h = some ⟨call, some id⟩ := by
  obtain ⟨before, later, ho, rfl, hl⟩ := hd
  obtain ⟨call, hcall⟩ := ho.underway
  rw [List.append_cons, underway_of_apart hl, underway_concat, Note.advance_drew, hcall]
  exact ⟨call, rfl⟩

theorem Registered.underway {since : List Note} (hr : Registered a id since h) :
    ∃ call, underway a h = some ⟨call, some id⟩ := by
  obtain ⟨before, hd, rfl, hl⟩ := hr
  obtain ⟨call, hcall⟩ := hd.underway
  rw [List.append_cons, underway_of_apart hl, underway_concat, Note.advance_registered, hcall]
  exact ⟨call, rfl⟩

/-- A call that has been answered is still underway, and the answer has its identifier. -/
theorem Answered.underway (ha : Answered a answer h) :
    ∃ call id, underway a h = some ⟨call, some id⟩ ∧ .response id answer (some a) ∈ h := by
  obtain ⟨id, before, since, later, hr, -, rfl, hl⟩ := ha
  obtain ⟨call, hcall⟩ := hr.underway
  rw [List.append_cons, underway_of_apart hl, underway_concat,
    Note.advance_of_ne (by simp [Note.caller?]), hcall]
  exact ⟨call, id, rfl, by simp⟩

end Underway

/-! ## What identifiers have been drawn for -/

/-- An agent has drawn an identifier for a call. -/
def DrawnFor (a : Agent) (id : CallId) (call : Call) (h : List Note) : Prop :=
  ∃ before later, h = before ++ .drew a id :: later ∧ underway a before = some ⟨call, none⟩

/-- Every identifier has been drawn for a call that had none. -/
def Told (h : List Note) : Prop :=
  ∀ before a id later, h = before ++ .drew a id :: later →
    ∃ call, underway a before = some ⟨call, none⟩

/-- An element that a list has once, by a value that is picked out of it, stands in one place. -/
theorem before_eq_of_nodup {α β : Type} {f : α → Option β} {l first first' later later' : List α}
    {x y : α} {v : β} (hn : (l.filterMap f).Nodup) (hx : l = first ++ x :: later)
    (hy : l = first' ++ y :: later') (hfx : f x = some v) (hfy : f y = some v) :
    first = first' ∧ x = y := by
  -- What stands behind an element is not picked out of it.
  have hbehind : ∀ {first later : List α} {x y : α}, l = first ++ x :: later → y ∈ later →
      f x = some v → f y = some v → False := by
    rintro first later x y rfl hmem hfx hfy
    rw [List.filterMap_append, List.filterMap_cons_some hfx, List.nodup_append] at hn
    exact (List.nodup_cons.mp hn.2.1).1 (List.mem_filterMap.mpr ⟨y, hmem, hfy⟩)
  rcases List.append_eq_append_iff.mp (hx.symm.trans hy) with
    ⟨more, hmore, heq⟩ | ⟨more, hmore, heq⟩
  · rcases more with _ | ⟨z, more⟩
    · rw [List.nil_append, List.cons.injEq] at heq
      exact ⟨by rw [hmore, List.append_nil], heq.1⟩
    · rw [List.cons_append, List.cons.injEq] at heq
      exact (hbehind hx (by rw [heq.2]; simp) hfx hfy).elim
  · rcases more with _ | ⟨z, more⟩
    · rw [List.nil_append, List.cons.injEq] at heq
      exact ⟨by rw [hmore, List.append_nil], heq.1.symm⟩
    · rw [List.cons_append, List.cons.injEq] at heq
      exact (hbehind hy (by rw [heq.2]; simp) hfy hfx).elim

section Told

variable {l l' : Ledger} {h later : List Note} {note? : Option Note} {a b : Agent} {id : CallId}
  {call call' : Call}

theorem DrawnFor.append (hd : DrawnFor a id call h) : DrawnFor a id call (h ++ later) := by
  obtain ⟨before, since, rfl, hu⟩ := hd
  exact ⟨before, since ++ later, by simp, hu⟩

theorem DrawnFor.mem_drawnIds (hd : DrawnFor a id call h) : id ∈ drawnIds h := by
  obtain ⟨before, since, rfl, -⟩ := hd
  simp [drawnIds, Note.drawn?]

/-- An identifier that is drawn once is drawn for one call. -/
theorem DrawnFor.unique (hn : (drawnIds h).Nodup) (hd : DrawnFor a id call h)
    (hd' : DrawnFor b id call' h) : a = b ∧ call = call' := by
  obtain ⟨before, since, heq, hu⟩ := hd
  obtain ⟨before', since', heq', hu'⟩ := hd'
  obtain ⟨rfl, hsame⟩ := before_eq_of_nodup hn heq heq' rfl rfl
  cases hsame
  rw [hu, Option.some.injEq, Underway.mk.injEq] at hu'
  exact ⟨rfl, hu'.1⟩

theorem Told.of_append (ht : Told (h ++ later)) : Told h := by
  rintro before a id since rfl
  exact ht before a id (since ++ later) (by simp)

theorem Told.turn (ht : Told h) (hc : ∀ a, Called l h a) (hturn : Turn l note? l') :
    Told (h ++ note?.toList) := by
  rcases note? with _ | note
  · rw [Option.toList_none, List.append_nil]
    exact ht
  · intro before a id later heq
    rcases append_cons_of_concat heq with ⟨rfl, rfl⟩ | ⟨later', heq'⟩
    · cases hturn with
      | drew _ hs => exact ((hc a).opened hs).underway
    · exact ht before a id later' heq'

/-- The identifier of a call that is underway has been drawn for it. -/
theorem Told.drawnFor (ht : Told h) (hu : underway a h = some ⟨call, some id⟩) :
    DrawnFor a id call h := by
  induction h using List.reverseRecOn with
  | nil => cases hu
  | append_singleton h note ih =>
    rw [underway_concat] at hu
    have hkept : note.advance a (underway a h) = underway a h →
        DrawnFor a id call (h ++ [note]) :=
      fun hsame => (ih ht.of_append (hsame ▸ hu)).append
    by_cases hn : note.caller? = some a
    · cases note with
      | began b call' =>
        cases hn
        rw [Note.advance_began] at hu
        cases hu
      | drew b id' =>
        cases hn
        obtain ⟨call', hwas⟩ := ht h a id' [] rfl
        rw [Note.advance_drew, hwas] at hu
        cases hu
        exact ⟨h, [], rfl, hwas⟩
      | registered b id' =>
        cases hn
        exact hkept (Note.advance_registered id')
      | response id' result waiting => cases hn
      | completed b result =>
        cases hn
        rw [Note.advance_completed] at hu
        cases hu
    · exact hkept (Note.advance_of_ne hn)

end Told

/-- What the history says about a call that has come to a stage, on a channel with a limit for
frames that is open and whose link takes what is written. -/
def CallStage.Recorded (limit : ℕ) (u : Option Underway) : CallStage → Prop
  | .check call => u = some ⟨call, none⟩
  | .draw call => u = some ⟨call, none⟩
  | .register id call => u = some ⟨call, some id⟩
  | .recheck id call => u = some ⟨call, some id⟩
  | .send id stage => ∃ call, u = some ⟨call, some id⟩ ∧ stage.Carries (.request id call)
  | .giveUp id error => ∃ call e, u = some ⟨call, some id⟩ ∧
      (Frame.request id call).wire limit = .error e ∧ error = .protocol e
  | .shut _ _ => False
  | .await id => ∃ call, u = some ⟨call, some id⟩

/-! ## Calls that wait -/

/-- Every call that waits waits under its identifier, or it has been answered. -/
def Awaited (l : Ledger) (h : List Note) : Prop :=
  ∀ a id failure, l.standing a = .waiting id failure → .registered a id ∈ h ∧
    (l.pending.get? id = some a ∨ ∃ answer, Answered a answer h)

section Awaited

variable {l l' : Ledger} {h : List Note} {note : Note} {note? : Option Note} {a b : Agent}
  {id : CallId}

theorem Awaited.ends (ha : Awaited l h) (he : Ledger.Ends l l') : Awaited l' h := by
  intro a id failure hs
  rw [he.pending]
  rcases he.standing a with hsame | hended
  · exact ha a id failure (hsame ▸ hs)
  · rw [hs] at hended
    cases hended

/-- What is not noted does not make a call wait. -/
theorem waiting_of_silent (ht : Turn l none l') {failure : Option ChannelError}
    (hs : l'.standing a = .waiting id failure) :
    ∃ failure', l.standing a = .waiting id failure' := by
  cases ht with
  | rest => exact ⟨failure, hs⟩
  | closed id' => exact ⟨failure, (congrFun (Ledger.settle_standing l id' _) a).symm.trans hs⟩
  | failed b id' e hb =>
    by_cases hab : a = b
    · subst hab
      rw [Ledger.stand_standing_self] at hs
      cases hs
      exact ⟨none, hb⟩
    · exact ⟨failure, (Ledger.stand_standing_of_ne hab _).symm.trans hs⟩
  | broke b id' e hb =>
    by_cases hab : a = b
    · subst hab
      rw [Ledger.stand_standing_self] at hs
      cases hs
    · exact ⟨failure, (Ledger.stand_standing_of_ne hab _).symm.trans hs⟩

/-- The call of an agent goes on, and the others wait as before. -/
theorem Awaited.stand (ha : Awaited l h) {s : Standing} (hs : l'.standing = l.standing)
    (hn : note.caller? = some a)
    (hp : ∀ b id failure, b ≠ a → l.standing b = .waiting id failure →
      l.pending.get? id = some b → l'.pending.get? id = some b)
    (hself : ∀ id failure, s = .waiting id failure →
      .registered a id ∈ h ++ [note] ∧ l'.pending.get? id = some a) :
    Awaited (l'.stand a s) (h ++ [note]) := by
  intro b id failure hb
  by_cases hba : b = a
  · subst hba
    rw [Ledger.stand_standing_self] at hb
    exact (hself id failure hb).imp_right .inl
  · rw [Ledger.stand_standing_of_ne hba, hs] at hb
    obtain ⟨hregistered, hwaits⟩ := ha b id failure hb
    refine ⟨List.mem_append_left _ hregistered, hwaits.imp (hp b id failure hba hb) ?_⟩
    rintro ⟨answer, hanswer⟩
    refine ⟨answer, hanswer.concat fun heq => hba ?_⟩
    rw [hn, Option.some.injEq] at heq
    exact heq.symm

/-- The first response with its identifier answers a call that waits. -/
theorem Awaited.response (ha : Awaited l h) {answer : Except Failure Reply}
    (hs : Sound (l.settle id (received answer)) (h ++ [note])) (hn : note.caller? = none) :
    Awaited (l.settle id (received answer)) (h ++ [note]) := by
  intro b id' failure hb
  have hb' := hb
  rw [Ledger.settle_standing] at hb
  obtain ⟨hregistered, hwaits⟩ := ha b id' failure hb
  refine ⟨List.mem_append_left _ hregistered, ?_⟩
  rcases hwaits with hp | ⟨answer', hanswer⟩
  · by_cases hid : id' = id
    · subst hid
      have harrived : (l.settle id' (received answer)).arrived.get? b = some (received answer) :=
        Ledger.get?_arrived_settle hp
      rcases (hs.called b).waiting id' failure hb' with
        ⟨_, -, hnone, -⟩ | ⟨hclosed, -⟩ | ⟨answer', h', -⟩
      · rw [harrived] at hnone
        cases hnone
      · rw [harrived, Option.some.injEq] at hclosed
        rcases answer with f | reply
        · cases hclosed
        · cases hclosed
      · exact .inr ⟨answer', h'⟩
    · left
      unfold Ledger.settle
      split
      · rw [Table.get?_erase, if_neg hid]
        exact hp
      · exact hp
  · exact .inr ⟨answer', hanswer.concat (by simp [hn])⟩

/-- Calls that wait under the same identifier are one, if no identifier is registered twice. -/
theorem agent_eq_of_registered (hn : (registeredIds h).Nodup) (ha : .registered a id ∈ h)
    (hb : .registered b id ∈ h) : a = b := by
  obtain ⟨first, later, heq⟩ := List.append_of_mem ha
  obtain ⟨first', later', heq'⟩ := List.append_of_mem hb
  obtain ⟨-, hsame⟩ := before_eq_of_nodup hn heq heq' rfl rfl
  cases hsame
  rfl

theorem Awaited.turn (ha : Awaited l h) (hs : Sound l' (h ++ note?.toList))
    (hn : (registeredIds (h ++ note?.toList)).Nodup)
    (hquiet : note? = none → l'.pending = l.pending) (ht : Turn l note? l') : Awaited l' (h ++ note?.toList) := by
  rcases note? with _ | note
  · intro a id failure hwaiting
    obtain ⟨failure', hwas⟩ := waiting_of_silent ht hwaiting
    rw [hquiet rfl, Option.toList_none, List.append_nil]
    exact ha a id failure' hwas
  rw [Option.toList_some] at hs hn ⊢
  -- A call that is forgotten is no other's.
  have hforget : ∀ {a id failure}, l.standing a = .waiting id failure → ∀ b id' failure', b ≠ a →
      l.standing b = .waiting id' failure' → l.pending.get? id' = some b →
      (l.forget id).pending.get? id' = some b := by
    intro a id failure hwaiting b id' failure' hb hwaiting' hp
    rw [Ledger.forget, Table.get?_erase, if_neg]
    · exact hp
    · rintro rfl
      exact hb (agent_eq_of_registered hn (List.mem_append_left _ (ha b _ _ hwaiting').1)
        (List.mem_append_left _ (ha a _ _ hwaiting).1))
  cases ht with
  | response id result => exact ha.response hs rfl
  | began a call h => exact ha.stand rfl rfl (fun _ _ _ _ _ hp => hp) (by simp)
  | drew a h => exact ha.stand rfl rfl (fun _ _ _ _ _ hp => hp) (by simp)
  | registered a id h =>
    refine ha.stand rfl rfl (fun b id' failure hb hwaiting hp => ?_) fun id' failure heq => ?_
    · rw [Table.get?_insert, if_neg]
      · exact hp
      · rintro rfl
        exact hb (agent_eq_of_registered hn (List.mem_append_left _ (ha b _ _ hwaiting).1)
          (by simp))
    · cases heq
      exact ⟨by simp, by rw [Table.get?_insert, if_pos rfl]⟩
  | refused a h => exact ha.stand rfl rfl (fun _ _ _ _ _ hp => hp) (by simp)
  | withdrew a id failure h => exact ha.stand rfl rfl (hforget h) (by simp)
  | returned a id result h => exact ha.stand rfl rfl (fun _ _ _ _ _ hp => hp) (by simp)
  | lost a id h => exact ha.stand rfl rfl (fun _ _ _ _ _ hp => hp) (by simp)
  | gaveUp a e h => exact ha.stand rfl rfl (fun _ _ _ _ _ hp => hp) (by simp)

end Awaited

namespace Channel

/-! ## Open channels -/

/-- What is known of an open channel, over a link that has taken all that was written, after what
has happened. -/
structure Running (past : List (Moment ω ρ)) (c : Channel ω ρ) : Prop where
  closing : c.closing = false
  unbroken : ∀ m ∈ past, ∀ a error, m.action ≠ .agent a (.fail error)
  begun : Begun past c
  mail : c.Mail (past.filterMap Moment.letter?) (past.countP Moment.completes)
    (Trace.written (past.flatMap Moment.events))
  sound : Sound c.ledger (past.filterMap Moment.note?)
  delivered : Delivered c.ledger (past.filterMap Moment.note?)
  told : Told (past.filterMap Moment.note?)

variable {c d : Channel ω ρ} {action : Action ω ρ} {events : List (Event ρ)} {number : ℕ}
  {past : List (Moment ω ρ)}

theorem Running.cancelled (hr : Running past c) : c.cancelled = false :=
  hr.begun.orderly.not_cancelled hr.closing

variable {setup : ChannelSetup ω ρ} {world : ω} {guarded : Bool} {actions : List (Action ω ρ)}

theorem told_history (setup : ChannelSetup ω ρ) (world : ω) (guarded : Bool)
    (actions : List (Action ω ρ)) : Told ((start setup world guarded).history actions) := by
  refine (ledger_induction (P := fun l h => Sound l h ∧ Told h) setup world guarded
    ⟨sound_start setup world guarded, fun before a id later heq => absurd heq (by simp)⟩ ?_ ?_
    actions).2
  · rintro l l' h note? ⟨hs, ht⟩ hturn
    exact ⟨hs.turn hturn, ht.turn hs.called hturn⟩
  · rintro l l' h ⟨hs, ht⟩ he
    exact ⟨hs.ends he, ht⟩

theorem running_after (hd : ((start setup world guarded).after actions).closing = false)
    (hl : (start setup world guarded).Unbroken actions) :
    Running ((start setup world guarded).moments actions)
      ((start setup world guarded).after actions) where
  closing := hd
  unbroken := hl
  begun := begun_after setup world guarded actions
  mail := mail_after setup world guarded actions hd hl
  sound := sound_history setup world guarded actions
  delivered := delivered_history setup world guarded actions
  told := told_history setup world guarded actions

/-! ## How far calls have come -/

/-- A call that goes on is recorded. -/
theorem recorded_of_callStep {a : Agent} {choice : Choice} {stage stage' : CallStage}
    {u : Option Underway} (hs : stage.Recorded c.setup.frameLimit u) (hc : c.cancelled = false)
    (hw : c.writer.isOpen = true) (hl : ∀ error, choice ≠ .fail error)
    (h : c.callStep a stage choice = some (d, events, .more stage')) :
    stage'.Recorded c.setup.frameLimit
      ((callNote? a stage (.more stage')).toList.foldl (Note.advance a) u) := by
  cases callStep_iff.mp h with
  | check => exact hs
  | draw =>
    obtain rfl := hs
    exact Note.advance_drew _
  | register =>
    obtain rfl := hs
    exact Note.advance_registered _
  | recheck => exact ⟨_, hs, rfl⟩
  | send hsend =>
    obtain ⟨call, hu, -⟩ := hs
    exact ⟨call, hu, sendStep_carries hsend _⟩
  | sent =>
    obtain ⟨call, hu, -⟩ := hs
    exact ⟨call, hu⟩
  | unsent hsend =>
    obtain ⟨call, hu, hcarries⟩ := hs
    -- On an open channel a request is not sent only because it is too large.
    cases sendStep_forwards hc hw hl hsend with
    | refused frame e hwire =>
      obtain rfl := hcarries
      exact ⟨call, e, hu, hwire, rfl⟩
  | breakOff =>
    obtain ⟨call, e, -, -, herror⟩ := hs
    cases herror
  | shut => exact hs.elim

/-- What the history says about the calls of tasks is right. -/
def Recorded (c : Channel ω ρ) (h : List Note) : Prop :=
  ∀ number stage next, c.stage? number = some (.call stage next) →
    stage.Recorded c.setup.frameLimit (underway (.task number) h)

theorem Recorded.step (hr : Running past c) (hs : c.Recorded (past.filterMap Moment.note?))
    (h : c.step action = some (d, events)) (hl : ∀ a error, action ≠ .agent a (.fail error)) :
    d.Recorded ((past ++ [(⟨c, action, d, events⟩ : Moment ω ρ)]).filterMap Moment.note?) := by
  intro number stage' next hstage'
  rw [filterMap_concat, underway_append, (step_others h).setup]
  change stage'.Recorded c.setup.frameLimit
    ((c.note? action).toList.foldl (Note.advance (.task number)) _)
  rcases call_of_step h hstage' with ⟨hother, hstage⟩ | ⟨choice, rfl, hown⟩
  · -- Others have acted.
    have hkept : (c.note? action).toList.foldl (Note.advance (.task number))
        (underway (.task number) (past.filterMap Moment.note?)) =
          underway (.task number) (past.filterMap Moment.note?) := by
      rcases hnote : c.note? action with _ | note
      · rfl
      · exact Note.advance_of_ne fun hcaller => hother (agent?_of_note hnote hcaller)
    rw [hkept]
    exact hs number stage' next hstage
  rcases hown with ⟨call, rfl, hready⟩ | ⟨stage, e, hstage, hcall⟩
  · have hnote : c.note? (.agent (.task number) choice) = some (.began (.task number) call) := by
      rw [note?, hready]
    rw [hnote]
    exact Note.advance_began
  · have hnote : c.note? (.agent (.task number) choice) =
        callNote? (.task number) stage (.more stage') := by
      simp only [note?, hstage, hcall, Option.bind_some]
    rw [hnote]
    exact recorded_of_callStep (hs number stage next hstage) hr.cancelled hr.mail.isOpen
      (fun error heq => hl (.task number) error (heq ▸ rfl)) hcall

theorem recorded_after (hd : ((start setup world guarded).after actions).closing = false)
    (hl : (start setup world guarded).Unbroken actions) :
    ((start setup world guarded).after actions).Recorded
      ((start setup world guarded).history actions) := by
  refine open_induction (P := fun past c => c.Recorded (past.filterMap Moment.note?))
    (fun number stage next hs => ?_)
    (fun first action d events hc hfirst hs h _ haction => ?_) hd hl
  · cases hs
  · exact hs.step (running_after hc hfirst) h haction

/-! ## Steps that are not noted -/

/-- A step of a call that is not noted leaves the calls that wait, unless the link has failed. -/
theorem quiet_of_callStep {a : Agent} {choice : Choice} {stage : CallStage}
    {progress : Progress CallStage (Except ChannelError Reply)}
    (hs : ∀ id e, stage ≠ .giveUp id (.transport e)) (hc : stage.closing? = none)
    (hnote : callNote? a stage progress = none)
    (h : c.callStep a stage choice = some (d, events, progress)) :
    d.pending = c.pending := by
  cases callStep_iff.mp h with
  | check | recheck => rfl
  | send hsend | sent hsend | unsent hsend =>
    obtain ⟨w, rfl⟩ := sendStep_writer hsend
    rfl
  | breakOff => exact absurd rfl (hs _ _)
  | shut | fail => cases hc
  | refuse | draw | register | withdraw | giveUp | answer | lose => cases hnote

theorem Recorded.quiet_of_taskStep {notes : List Note} (hs : c.Recorded notes)
    {stage stage' : Stage ω ρ} {choice : Choice} (hstage : c.stage? number = some stage)
    (hnone : stage.closing? = none)
    (h : c.taskStep (.task number) stage choice = some (d, events, stage'))
    (hnote : c.note? (.agent (.task number) choice) = none) : d.pending = c.pending := by
  have hcalled : ∀ {s : CallStage} {next} {p : Progress CallStage (Except ChannelError Reply)},
      stage = .call s next → c.callStep (.task number) s choice = some (d, events, p) →
      d.pending = c.pending := by
    rintro s next p rfl hcall
    refine quiet_of_callStep (fun id error hgiveUp => ?_) hnone ?_ hcall
    · subst hgiveUp
      obtain ⟨call, e', -, -, herror⟩ := hs number _ next hstage
      cases herror
    · simpa only [note?, hstage, hcall, Option.bind_some] using hnote
  cases taskStep_iff.mp h with
  | @ask op next => exact congrArg Ledger.pending (c.begin_ledger op next).1
  | call hcall | called hcall => exact hcalled rfl hcall
  | publish hsend | published hsend | respond hsend | replace hsend | responded hsend =>
    obtain ⟨w, rfl⟩ := sendStep_writer hsend
    rfl
  | close | closed => cases hnone
  | stop | wait | waited | told | slept | resume => rfl

theorem quiet_of_readerStep {choice : Choice} {stage : ReaderStage}
    (hnone : c.closing? .reader = none)
    (h : c.readerStep c.reader choice = some (d, events, stage))
    (hnote : c.note? (.agent .reader choice) = none) : d.pending = c.pending := by
  obtain ⟨reader, hreader⟩ : ∃ reader, c.reader = reader := ⟨_, rfl⟩
  rw [hreader] at h
  cases readerStep_iff.mp h with
  | ended | stumble | read | abandon => rfl
  | @take _ _ frame _ _ htake =>
    cases frame with
    | response id result =>
      simp [note?, incoming?, hreader, htake, frameNote?] at hnote
    | request id call =>
      simp only [dispatch]
      split_ifs
      · rfl
      · rfl
    | property name value => rfl
    | ping => rfl
  | close | closed =>
    rw [closing?, hreader] at hnone
    cases hnone

/-- A step that is not noted leaves the calls that wait, on an open channel whose link has not
failed. -/
theorem Running.quiet_of_step (hr : Running past c) (hs : c.Recorded (past.filterMap Moment.note?))
    (h : c.step action = some (d, events)) (hd : d.closing = false)
    (hnote : c.note? action = none) : d.pending = c.pending := by
  have hclose : ∀ {a choice stage e events' progress}, c.closing? a = some stage →
      c.closeStep a stage choice = some (e, events', progress) → e.closing = false → False := by
    intro a choice stage e events' progress hstage hstep he
    rw [hr.begun.orderly.closing_of_closeStep hstage hstep] at he
    cases he
  cases step_iff.mp h with
  | @reader _ e _ _ hstep =>
    rcases readerStep_closes hstep with ⟨s, p, hstage, hstep', -⟩ | ⟨hnone, -⟩
    · exact (hclose (a := .reader) hstage hstep' hd).elim
    change e.pending = c.pending
    exact quiet_of_readerStep hnone hstep hnote
  | heartbeat hstep => exact congrArg Ledger.pending (heartbeatStep_ledger hstep)
  | @task _ _ _ e _ _ ht hstep =>
    rcases taskStep_closes hstep with ⟨s, p, hs', hstep', -⟩ | ⟨hnone, -⟩
    · exact (hclose ((closing?_task ht).trans hs') hstep' hd).elim
    change e.pending = c.pending
    exact hs.quiet_of_taskStep (stage?_task ht) hnone hstep hnote
  | deliver | endInput | start | elapse => rfl

/-! ## Why calls return -/

/-- Why a call of an agent returns with a result on an open channel, by what has happened before:
its request is too large, or it has been answered. -/
def Concluded (limit : ℕ) (a : Agent) (result : Except ChannelError Reply) (h : List Note) : Prop :=
  ∃ call id, underway a h = some ⟨call, some id⟩ ∧
    ((∃ e, (Frame.request id call).wire limit = .error e ∧ result = .error (.protocol e)) ∨
      ∃ answer, Answered a answer h ∧ result = received answer)

theorem Running.concluded (hr : Running past c) (hs : c.Recorded (past.filterMap Moment.note?))
    (ha : Awaited c.ledger (past.filterMap Moment.note?)) {a : Agent}
    {result : Except ChannelError Reply} (hnote : c.note? action = some (.completed a result)) :
    Concluded c.setup.frameLimit a result (past.filterMap Moment.note?) := by
  obtain ⟨number, stage, next, rfl, hstage, hwhy⟩ := stage_of_completed_cases hnote
  have hrecorded := hs number stage next hstage
  rcases hwhy with ⟨-, hc⟩ | ⟨error, herror, rfl⟩ | ⟨id, rfl, hresult⟩
  · rw [hr.closing] at hc
    cases hc
  · cases stage with
    | giveUp id e =>
      cases herror
      obtain ⟨call, e, hu, hwire, rfl⟩ := hrecorded
      exact ⟨call, id, hu, .inl ⟨e, hwire, rfl⟩⟩
    | shut e s => exact hrecorded.elim
    | _ => cases herror
  · obtain ⟨call, hu⟩ := hrecorded
    have hwaiting : c.ledger.standing (.task number) = .waiting id none :=
      standing_task_of_stage? hstage
    refine ⟨call, id, hu, .inr ?_⟩
    rcases (ha _ id none hwaiting).2 with hp | ⟨answer, hanswer⟩
    · -- A call that still waits does not return.
      rcases hresult with harrived | ⟨-, -, hnone⟩
      · refine absurd hp (hr.sound.waits.arrived _ id none hwaiting ?_)
        rw [show c.ledger.arrived.get? (.task number) = some result from harrived]
        rfl
      · exact absurd hp hnone
    · have harrived : c.arrived.get? (.task number) = some (received answer) :=
        (hr.delivered _ answer id none hanswer hwaiting).1
      refine ⟨answer, hanswer, ?_⟩
      rcases hresult with hsome | ⟨-, hnone, -⟩
      · rw [harrived, Option.some.injEq] at hsome
        exact hsome.symm
      · rw [harrived] at hnone
        cases hnone

/-- The calls of a run wait or have been answered, and those that have returned were concluded. -/
structure Settled (past : List (Moment ω ρ)) (c : Channel ω ρ) : Prop where
  awaited : Awaited c.ledger (past.filterMap Moment.note?)
  concluded : ∀ before a result later,
    past.filterMap Moment.note? = before ++ .completed a result :: later →
      Concluded c.setup.frameLimit a result before

theorem Settled.step (hr : Running past c) (hs : c.Recorded (past.filterMap Moment.note?))
    (hset : Settled past c) (h : c.step action = some (d, events)) (hd : d.closing = false)
    (hn : (registeredIds ((past ++ [(⟨c, action, d, events⟩ : Moment ω ρ)]).filterMap
      Moment.note?)).Nodup) : Settled (past ++ [⟨c, action, d, events⟩]) d := by
  have hnotes := filterMap_concat Moment.note? past (⟨c, action, d, events⟩ : Moment ω ρ)
  obtain ⟨l, hturn, hends⟩ := step_turn h
  refine ⟨?_, fun before a result later heq => ?_⟩
  · rw [hnotes] at hn ⊢
    refine (hset.awaited.turn (hr.sound.turn hturn) hn (fun hnone => ?_) hturn).ends hends
    exact hends.pending.symm.trans (hr.quiet_of_step hs h hd hnone)
  · rw [(step_others h).setup]
    rw [hnotes] at heq
    rcases hnote : c.note? action with _ | note
    · rw [Moment.note?, hnote, Option.toList_none, List.append_nil] at heq
      exact hset.concluded before a result later heq
    · rw [Moment.note?, hnote, Option.toList_some] at heq
      rcases append_cons_of_concat heq with ⟨rfl, rfl⟩ | ⟨later', heq'⟩
      · exact hr.concluded hs hset.awaited hnote
      · exact hset.concluded before a result later' heq'

/-- **Why calls return.** On a channel that has stayed open, over a link that has taken all that was
written, where no identifier has been registered twice, every call that has returned was too large
to be sent, or has returned with its answer. -/
theorem concluded_after (hd : ((start setup world guarded).after actions).closing = false)
    (hl : (start setup world guarded).Unbroken actions)
    (hn : (registeredIds ((start setup world guarded).history actions)).Nodup)
    {before later : List Note} {a : Agent} {result : Except ChannelError Reply}
    (heq : (start setup world guarded).history actions = before ++ .completed a result :: later) :
    Concluded setup.frameLimit a result before := by
  have hsettled : Settled ((start setup world guarded).moments actions)
      ((start setup world guarded).after actions) := by
    refine open_induction (P := fun past c =>
      (registeredIds (past.filterMap Moment.note?)).Nodup → Settled past c)
      (fun _ => ?_) ?_ hd hl hn
    · refine ⟨fun a id failure hs => ?_, fun before a result later heq => ?_⟩
      · exact absurd ((standing_start setup world guarded a).symm.trans hs) (by simp)
      · exact absurd heq (by simp)
    · intro first action d events hc hfirst hset h hd' _ hn
      refine (hset ?_).step (running_after hc hfirst) (recorded_after hc hfirst) h hd' hn
      rw [filterMap_concat, registeredIds, List.filterMap_append] at hn
      exact hn.of_append_left
  have hsetup : ((start setup world guarded).after actions).setup = setup := setup_after _ actions
  have hconcluded := hsettled.concluded before a result later heq
  rwa [hsetup] at hconcluded

end Channel

end CommandLink
