import CommandLink.Server.Draining
import CommandLink.Proofs.Server.Slots

/-!
# A drain reports exactly what is left

However the loop of a drain, the slots that are taken back and the notices of them come one after
another, the loop sleeps without notice only while a slot is held or a notice of one is still to
come (`Sound.awake`). So it is never asleep at a time later than that of the last slot, and what it
returns can be read off the times at which the slots are given back (`Outcome`). It does return:
every step before that takes something away from `Drain.toGo`, and one is always possible. But there
is a loop only if the clock gets to the deadline (`brokenDown_after_iff`). What `Connections.drain`
computes is how one of these runs ends (`exists_run_drain`). The main result is
`Connections.drain_reports`.
-/

namespace CommandLink.Connections

variable {c : Connections} {schedule : Schedule} {now : ClockTime} {timeout : ℕ}

/-! ## What a drain may return -/

/-- When the last of the slots that are held is given back, or at once if none is held. -/
def lastRelease (c : Connections) (schedule : Schedule) : ℕ :=
  (c.held.filterMap schedule).max?.getD 0

/-- The slots that may be left at the deadline: every one that is given back later or never, and
some that are given back just then. -/
structure Leaves (c : Connections) (schedule : Schedule) (timeout : ℕ) (left : List ℕ) : Prop where
  sublist : left.Sublist c.held
  late : ∀ slot ∈ c.held, (∀ due ∈ schedule slot, timeout < due) → slot ∈ left
  due : ∀ slot ∈ left, ∀ due ∈ schedule slot, timeout ≤ due

/-- What a drain may return, and when. -/
def Outcome (c : Connections) (schedule : Schedule) (timeout : ℕ) : DrainResult → ℕ → Prop
  | .complete, time => time ≤ timeout ∧ time = c.lastRelease schedule ∧
      ∀ slot ∈ c.held, ∃ due ∈ schedule slot, due ≤ time
  | .timeout remaining, time => time = timeout ∧ remaining ≠ 0 ∧
      ∃ left, c.Leaves schedule timeout left ∧ left.length = remaining

theorem lastRelease_eq {time : ℕ} (hle : ∀ slot ∈ c.held, ∃ due ∈ schedule slot, due ≤ time)
    (hge : time = 0 ∨ ∃ slot ∈ c.held, ∀ due ∈ schedule slot, time ≤ due) :
    c.lastRelease schedule = time := by
  have hbound : ∀ due ∈ c.held.filterMap schedule, due ≤ time := by
    intro due hdue
    obtain ⟨slot, hslot, hsome⟩ := List.mem_filterMap.mp hdue
    obtain ⟨other, hother, hle⟩ := hle slot hslot
    rw [Option.mem_def, hsome] at hother
    exact Option.some.inj hother ▸ hle
  rcases hge with rfl | ⟨slot, hslot, hge⟩
  · unfold lastRelease
    rcases hmax : (c.held.filterMap schedule).max? with _ | due
    · rfl
    · exact Nat.le_zero.mp (hbound due (List.max?_mem hmax))
  · obtain ⟨due, hdue, hle⟩ := hle slot hslot
    have heq : due = time := Nat.le_antisymm hle (hge due hdue)
    have hmem : time ∈ c.held.filterMap schedule :=
      List.mem_filterMap.mpr ⟨slot, hslot, heq ▸ hdue⟩
    rw [lastRelease, List.max?_eq_some_iff.mpr ⟨hmem, hbound⟩, Option.getD_some]

namespace Outcome

variable {result : DrainResult} {time : ℕ}

/-- If every slot is given back before the deadline, none is left. -/
theorem eq_complete (h : c.Outcome schedule timeout result time)
    (hearly : ∀ slot ∈ c.held, ∃ due ∈ schedule slot, due < timeout) : result = .complete := by
  cases result with
  | complete => rfl
  | timeout remaining =>
    obtain ⟨-, hne, left, hleft, rfl⟩ := h
    obtain ⟨slot, hslot⟩ := List.exists_mem_of_length_pos (Nat.pos_of_ne_zero hne)
    obtain ⟨due, hdue, hlt⟩ := hearly slot (hleft.sublist.subset hslot)
    exact absurd (hleft.due slot hslot due hdue) (by omega)

/-- A slot that is given back after the deadline or never is left. -/
theorem ne_complete (h : c.Outcome schedule timeout result time)
    (hlate : ∃ slot ∈ c.held, ∀ due ∈ schedule slot, timeout < due) : result ≠ .complete := by
  rintro rfl
  obtain ⟨slot, hslot, hlate⟩ := hlate
  obtain ⟨hle, -, hall⟩ := h
  obtain ⟨due, hdue, hdone⟩ := hall slot hslot
  exact absurd (hlate due hdue) (by omega)

theorem time_of_complete (h : c.Outcome schedule timeout result time) (hr : result = .complete) :
    time = c.lastRelease schedule := by
  cases hr
  exact h.2.1

theorem of_timeout (h : c.Outcome schedule timeout result time) (remaining : ℕ)
    (hr : result = .timeout remaining) : time = timeout ∧ remaining ≠ 0 ∧ remaining ≤ c.active ∧
      ∃ left, c.Leaves schedule timeout left ∧ left.length = remaining := by
  cases hr
  obtain ⟨htime, hne, left, hleft, hlength⟩ := h
  exact ⟨htime, hne, hlength ▸ hleft.sublist.length_le, left, hleft, hlength⟩

end Outcome

/-- Whether a drain has come to its end: the loop has returned, or there was none. -/
def DrainStage.isOver : DrainStage → Bool
  | .brokenDown => true
  | .returned .. => true
  | _ => false

namespace Drain

variable {d d' : Drain} {action : DrainAction} {actions : List DrainAction}

/-! ## What a step does -/

/-- Whether the drain has come to its end. -/
def HasEnded (d : Drain) : Prop := d.stage.isOver = true

theorem not_hasEnded_of_eq {stage : DrainStage} (h : d.stage = stage)
    (hstage : stage.isOver = false) : ¬ d.HasEnded := by
  rw [HasEnded, h, hstage]
  exact Bool.false_ne_true

theorem isOver_notice (stage : DrainStage) : stage.notice.isOver = stage.isOver := by
  cases stage <;> rfl

/-- A loop that has nothing to do for a while is asleep. -/
theorem Rests.asleep {time : ℕ} (h : d.Rests time) (hd : ¬ d.HasEnded) :
    d.stage = .asleep false ∧ time ≤ d.deadline := by
  unfold Rests at h
  split at h
  next hs => exact ⟨hs, h⟩
  next result at' hs => exact absurd (by rw [HasEnded, hs]; rfl) hd
  next hs => exact absurd (by rw [HasEnded, hs]; rfl) hd
  next => exact h.elim

/-- What one step can do. -/
inductive Turn (schedule : Schedule) (d : Drain) : Drain → Prop
  | register (h : d.stage = .registering) : Turn schedule d { d with stage := .counting false }
  | finish {noticed : Bool} (h : d.stage = .counting noticed) (hnone : d.slots.active = 0) :
    Turn schedule d { d with stage := .returned .complete d.clock }
  | sleep {noticed : Bool} (h : d.stage = .counting noticed) (hsome : d.slots.active ≠ 0) :
    Turn schedule d { d with stage := .asleep noticed }
  | wake (h : d.stage = .asleep true) : Turn schedule d { d with stage := .registering }
  | expire {noticed : Bool} (h : d.stage = .asleep noticed) (hdeadline : d.deadline ≤ d.clock) :
    Turn schedule d { d with
      stage := .returned (if d.slots.active = 0 then .complete else .timeout d.slots.active)
        d.clock }
  | release {slot : ℕ} (h : d.IsDue schedule slot) :
    Turn schedule d { d with slots := d.slots.release slot, unnoticed := d.unnoticed + 1 }
  | notify {unnoticed : ℕ} (h : d.unnoticed = unnoticed + 1) :
    Turn schedule d { d with unnoticed, stage := d.stage.notice }
  | elapse {time : ℕ} (h : d.IsQuiet schedule time) : Turn schedule d { d with clock := time }

theorem step_turn (h : d.step schedule action = some d') : d.Turn schedule d' := by
  cases action with
  | go =>
    obtain ⟨stage, hstage, rfl⟩ := Option.map_eq_some_iff.mp h
    unfold advance at hstage
    split at hstage
    next hd =>
      cases hstage
      exact .register hd
    next noticed hd =>
      cases hstage
      split
      next hnone => exact .finish hd hnone
      next hsome => exact .sleep hd hsome
    next hd =>
      cases hstage
      exact .wake hd
    next => cases hstage
  | expire =>
    obtain ⟨stage, hstage, rfl⟩ := Option.map_eq_some_iff.mp h
    unfold expired at hstage
    split at hstage
    next noticed hd =>
      obtain ⟨hdeadline, heq⟩ := Option.ite_none_right_eq_some.mp hstage
      cases heq
      exact .expire hd hdeadline
    next => cases hstage
  | release slot =>
    obtain ⟨hdue, heq⟩ := Option.ite_none_right_eq_some.mp h
    cases heq
    exact .release hdue
  | notify =>
    unfold step at h
    dsimp only at h
    split at h
    next => cases h
    next unnoticed hd =>
      cases h
      exact .notify hd
  | elapse time =>
    obtain ⟨hquiet, heq⟩ := Option.ite_none_right_eq_some.mp h
    cases heq
    exact .elapse hquiet

theorem after_concat : d.after schedule (actions ++ [action]) =
    (d.after schedule actions).bind fun d => d.step schedule action := by
  simp [after, List.foldlM_append]

/-- What holds at the start and is kept by every turn holds after every run. -/
theorem after_induction {P : Drain → Prop} (hstart : P d)
    (hturn : ∀ d d', d.Turn schedule d' → P d → P d') (h : d.after schedule actions = some d') :
    P d' := by
  induction actions using List.reverseRecOn generalizing d' with
  | nil => exact Option.some.inj h ▸ hstart
  | append_singleton actions action ih =>
    obtain ⟨d₁, hd₁, hstep⟩ := Option.bind_eq_some_iff.mp (after_concat ▸ h)
    exact hturn d₁ d' (step_turn hstep) (ih hd₁)

/-! ## What a run keeps -/

/-- What the loop knows of slots and times on its way. -/
structure Sound (c : Connections) (schedule : Schedule) (timeout : ℕ) (d : Drain) : Prop where
  draining : d.slots.draining = true
  deadline : d.deadline = timeout
  sublist : d.slots.held.Sublist c.held
  released : ∀ slot ∈ c.held, slot ∉ d.slots.held → ∃ due ∈ schedule slot, due ≤ d.clock
  pending : ∀ slot ∈ d.slots.held, ∀ due ∈ schedule slot, d.clock ≤ due
  /-- No notice is lost. -/
  awake : d.stage = .asleep false → d.slots.active ≠ 0 ∨ d.unnoticed ≠ 0
  inTime : ¬ d.HasEnded → d.clock ≤ timeout
  /-- Time has passed only because of a slot that was still held. -/
  reason : ¬ d.HasEnded → d.clock = 0 ∨ ∃ slot ∈ c.held, ∀ due ∈ schedule slot, d.clock ≤ due
  outcome : ∀ result time, d.stage = .returned result time → c.Outcome schedule timeout result time

theorem sound_start : (start c now timeout).Sound c schedule timeout where
  draining := rfl
  deadline := rfl
  sublist := .refl _
  released _ hslot hnot := absurd hslot hnot
  pending _ _ _ _ := Nat.zero_le _
  awake h := by
    unfold start at h
    split_ifs at h
  inTime _ := Nat.zero_le _
  reason _ := .inl rfl
  outcome _ _ h := by
    unfold start at h
    split_ifs at h

/-- Where no slot is held any more, the loop returns as it should. -/
theorem Sound.complete (h : d.Sound c schedule timeout) (hd : ¬ d.HasEnded)
    (hnone : d.slots.active = 0) : c.Outcome schedule timeout .complete d.clock := by
  have hheld : d.slots.held = [] := List.eq_nil_of_length_eq_zero hnone
  have hall : ∀ slot ∈ c.held, ∃ due ∈ schedule slot, due ≤ d.clock := fun slot hslot =>
    h.released slot hslot (hheld ▸ List.not_mem_nil)
  exact ⟨h.inTime hd, (lastRelease_eq hall (h.reason hd)).symm, hall⟩

/-- What is held at the deadline is what may be left then. -/
theorem Sound.leaves (h : d.Sound c schedule timeout) (hclock : d.clock = timeout) :
    c.Leaves schedule timeout d.slots.held where
  sublist := h.sublist
  late slot hslot hlate := by
    by_contra hnot
    obtain ⟨due, hdue, hle⟩ := h.released slot hslot hnot
    exact absurd (hlate due hdue) (by omega)
  due slot hslot due hdue := hclock ▸ h.pending slot hslot due hdue

/-- A step of the loop that does not return. -/
theorem Sound.withStage (h : d.Sound c schedule timeout) {stage : DrainStage}
    (hd : ¬ d.HasEnded) (hstage : ∀ result time, stage ≠ .returned result time)
    (hawake : stage = .asleep false → d.slots.active ≠ 0) :
    ({ d with stage } : Drain).Sound c schedule timeout :=
  { h with
    awake := fun hs => .inl (hawake hs)
    inTime := fun _ => h.inTime hd
    reason := fun _ => h.reason hd
    outcome := fun result time hr => absurd hr (hstage result time) }

/-- A step with which the loop returns. -/
theorem Sound.return (h : d.Sound c schedule timeout) {result : DrainResult} {time : ℕ}
    (hr : c.Outcome schedule timeout result time) :
    ({ d with stage := .returned result time } : Drain).Sound c schedule timeout :=
  { h with
    awake := fun hs => by cases hs
    inTime := fun hd => absurd rfl hd
    reason := fun hd => absurd rfl hd
    outcome := fun _ _ hs => by
      cases hs
      exact hr }

theorem returned_of_notice {result : DrainResult} {time : ℕ} :
    d.stage.notice = .returned result time ↔ d.stage = .returned result time := by
  cases d.stage <;> simp [DrainStage.notice]

theorem Sound.turn (h : d.Sound c schedule timeout) (ht : d.Turn schedule d') :
    d'.Sound c schedule timeout := by
  cases ht with
  | register hd =>
    exact h.withStage (not_hasEnded_of_eq hd rfl) (by simp) (by simp)
  | finish hd hnone =>
    exact h.return (h.complete (not_hasEnded_of_eq hd rfl) hnone)
  | sleep hd hsome =>
    exact h.withStage (not_hasEnded_of_eq hd rfl) (by simp) fun _ => hsome
  | wake hd => exact h.withStage (not_hasEnded_of_eq hd rfl) (by simp) (by simp)
  | expire hd hdeadline =>
    have hnot : ¬ d.HasEnded := not_hasEnded_of_eq hd rfl
    have hclock : d.clock = timeout :=
      Nat.le_antisymm (h.inTime hnot) (h.deadline ▸ hdeadline)
    refine h.return ?_
    split
    next hnone => exact h.complete hnot hnone
    next hsome => exact ⟨hclock, hsome, _, h.leaves hclock, rfl⟩
  | @release slot hdue =>
    obtain ⟨hmem, due, hsome, hle⟩ := hdue
    exact { h with
      sublist := (List.filter_sublist).trans h.sublist
      released := fun other hother hnot => by
        by_cases heq : other = slot
        · exact ⟨due, heq ▸ hsome, hle⟩
        · exact h.released other hother fun hheld => hnot (mem_held_release.mpr ⟨hheld, heq⟩)
      pending := fun other hother => h.pending other (mem_held_release.mp hother).1
      awake := fun _ => .inr (Nat.succ_ne_zero _) }
  | notify hd =>
    exact { h with
      awake := fun hs => by
        revert hs
        cases d.stage <;> simp [DrainStage.notice]
      inTime := fun hnot => h.inTime fun hd => hnot ((isOver_notice d.stage).trans hd)
      reason := fun hnot => h.reason fun hd => hnot ((isOver_notice d.stage).trans hd)
      outcome := fun result time hr => h.outcome result time (returned_of_notice.mp hr) }
  | @elapse time hquiet =>
    obtain ⟨hlt, hnone, hrests, hpending⟩ := hquiet
    exact { h with
      released := fun slot hslot hnot => by
        obtain ⟨due, hdue, hle⟩ := h.released slot hslot hnot
        exact ⟨due, hdue, by dsimp only; omega⟩
      pending := hpending
      inTime := fun hnot => h.deadline ▸ (hrests.asleep hnot).2
      reason := fun hnot => by
        -- A loop that has not returned is asleep, so there is a slot that it waits for.
        have hactive : d.slots.active ≠ 0 :=
          (h.awake (hrests.asleep hnot).1).resolve_right (not_not_intro hnone)
        obtain ⟨slot, hslot⟩ := List.exists_mem_of_length_pos (Nat.pos_of_ne_zero hactive)
        exact .inr ⟨slot, h.sublist.subset hslot, hpending slot hslot⟩ }

theorem sound_after (h : (start c now timeout).after schedule actions = some d) :
    d.Sound c schedule timeout :=
  after_induction sound_start (fun _ _ ht hs => hs.turn ht) h

theorem Sound.acquire_eq_none (h : d.Sound c schedule timeout) : d.slots.acquire = none :=
  acquire_eq_none_iff.mpr fun hroom => absurd (h.draining ▸ hroom.1) (by simp)

/-! ## A drain returns -/

/-- How many more steps the loop takes by itself before it sleeps or has returned. -/
def stageToGo : DrainStage → ℕ
  | .registering => 2
  | .counting noticed => if noticed then 4 else 1
  | .asleep noticed => if noticed then 3 else 0
  | .returned .. => 0
  | .brokenDown => 0

/-- More steps than this cannot be taken before the loop has returned. -/
def toGo (d : Drain) : ℕ :=
  (d.deadline - d.clock) + 5 * d.slots.active + 4 * d.unnoticed + stageToGo d.stage

theorem stageToGo_notice (stage : DrainStage) : stageToGo stage.notice ≤ stageToGo stage + 3 := by
  cases stage with
  | brokenDown | registering | returned => simp [stageToGo, DrainStage.notice]
  | counting noticed | asleep noticed => cases noticed <;> simp [stageToGo, DrainStage.notice]

/-- Every step that does not make the loop return takes something away. -/
theorem Turn.toGo_lt (ht : d.Turn schedule d') (hd : ¬ d'.HasEnded) : d'.toGo < d.toGo := by
  cases ht with
  | register h => simp [toGo, h, stageToGo]
  | finish h hnone => exact absurd rfl hd
  | @sleep noticed h hsome => cases noticed <;> simp [toGo, h, stageToGo]
  | wake h => simp [toGo, h, stageToGo]
  | expire h hdeadline => exact absurd rfl hd
  | @release slot hdue =>
    have hone := active_release hdue.1
    simp only [toGo]
    omega
  | notify h =>
    have hstage := stageToGo_notice d.stage
    simp only [toGo, h]
    omega
  | @elapse time hquiet =>
    obtain ⟨hlt, -, hrests, -⟩ := hquiet
    have hle : time ≤ d.deadline := (hrests.asleep hd).2
    simp only [toGo]
    omega

theorem Turn.hasEnded (ht : d.Turn schedule d') (hd : d.HasEnded) : d'.HasEnded := by
  cases ht with
  | register h | finish h | sleep h | wake h | expire h => exact absurd hd (not_hasEnded_of_eq h rfl)
  | release | elapse => exact hd
  | notify => exact (isOver_notice d.stage).trans hd

/-- There is a loop from the start or never. -/
theorem Turn.brokenDown_iff (ht : d.Turn schedule d') :
    d'.stage = .brokenDown ↔ d.stage = .brokenDown := by
  cases ht with
  | register h | finish h | sleep h | wake h | expire h => simp [h]
  | release | elapse => rfl
  | notify => cases hd : d.stage <;> simp [DrainStage.notice]

theorem brokenDown_after_iff (h : (start c now timeout).after schedule actions = some d) :
    d.stage = .brokenDown ↔ now.after? (Duration.millis timeout) = none := by
  refine after_induction (P := fun d => d.stage = .brokenDown ↔
    now.after? (Duration.millis timeout) = none) ?_ (fun d d' ht hd => ht.brokenDown_iff.trans hd) h
  simp [start]

/-- A run before the loop has returned is no longer than what there was to go. -/
theorem length_add_toGo_le (h : d.after schedule actions = some d') (hd : ¬ d'.HasEnded) :
    actions.length + d'.toGo ≤ d.toGo := by
  induction actions using List.reverseRecOn generalizing d' with
  | nil =>
    cases Option.some.inj h
    simp
  | append_singleton actions action ih =>
    obtain ⟨d₁, hd₁, hstep⟩ := Option.bind_eq_some_iff.mp (after_concat ▸ h)
    have hturn := step_turn hstep
    have hbefore := ih hd₁ fun hr => hd (hturn.hasEnded hr)
    have hless := hturn.toGo_lt hd
    rw [List.length_append, List.length_singleton]
    omega

theorem toGo_start_le (c : Connections) (now : ClockTime) (timeout : ℕ) :
    (start c now timeout).toGo ≤ timeout + 5 * c.active + 2 := by
  have hstage : stageToGo (start c now timeout).stage ≤ 2 := by
    unfold start
    split_ifs <;> simp [stageToGo]
  exact Nat.add_le_add_left hstage _

/-- Before the loop has returned there is always a step. -/
theorem exists_step (hd : ¬ d.HasEnded) : ∃ action, (d.step schedule action).isSome := by
  cases hstage : d.stage with
  | registering | counting => exact ⟨.go, by simp [step, advance, hstage]⟩
  | asleep noticed =>
    cases noticed with
    | true => exact ⟨.go, by simp [step, advance, hstage]⟩
    | false =>
      by_cases hexpired : d.deadline ≤ d.clock
      · exact ⟨.expire, by simp [step, expired, hstage, hexpired]⟩
      by_cases hnotices : d.unnoticed = 0
      · by_cases hdue : ∃ slot, d.IsDue schedule slot
        · obtain ⟨slot, hdue⟩ := hdue
          exact ⟨.release slot, by simp [step, hdue]⟩
        · have hquiet : d.IsQuiet schedule (d.clock + 1) := by
            refine ⟨Nat.lt_succ_self _, hnotices, ?_, fun slot hslot due hsome => ?_⟩
            · rw [Rests, hstage]
              dsimp only
              omega
            · by_contra hlt
              exact hdue ⟨slot, hslot, due, hsome, by omega⟩
          exact ⟨.elapse (d.clock + 1), by simp [step, hquiet]⟩
      · obtain ⟨unnoticed, hn⟩ := Nat.exists_eq_succ_of_ne_zero hnotices
        exact ⟨.notify, by simp [step, hn]⟩
  | brokenDown | returned => exact absurd (by rw [HasEnded, hstage]; rfl) hd

end Drain

/-! ## What is computed is how a run ends -/

variable {releases : List Release} {r : Release} {slot : ℕ}

theorem Schedule.mem_ofReleases {due : ℕ} : due ∈ Schedule.ofReleases releases slot ↔
    ⟨due, slot⟩ ∈ releases ∧ ∀ r ∈ releases, r.slot = slot → due ≤ r.time := by
  rw [Option.mem_def, Schedule.ofReleases, List.min?_eq_some_iff]
  simp only [List.mem_map, List.mem_filter, decide_eq_true_eq]
  refine and_congr ⟨?_, fun h => ⟨_, ⟨h, rfl⟩, rfl⟩⟩
    ⟨fun h r hr hslot => h r.time ⟨r, ⟨hr, hslot⟩, rfl⟩, ?_⟩
  · rintro ⟨r, ⟨hr, rfl⟩, rfl⟩
    exact hr
  · rintro h _ ⟨r, ⟨hr, hslot⟩, rfl⟩
    exact h r hr hslot

theorem Schedule.ofReleases_cons_of_ne (h : slot ≠ r.slot) :
    Schedule.ofReleases (r :: releases) slot = Schedule.ofReleases releases slot := by
  rw [Schedule.ofReleases, Schedule.ofReleases, List.filter_cons_of_neg]
  simpa using Ne.symm h

theorem Schedule.ofReleases_perm {releases' : List Release} (h : releases.Perm releases') :
    Schedule.ofReleases releases = Schedule.ofReleases releases' := by
  funext slot
  refine Option.ext fun due => ?_
  rw [← Option.mem_def, ← Option.mem_def, Schedule.mem_ofReleases, Schedule.mem_ofReleases]
  simp only [h.mem_iff]

theorem release_of_not_mem (h : slot ∉ c.held) : c.release slot = c := by
  have hheld : (c.release slot).held = c.held := by rw [held_release, List.erase_of_not_mem h]
  obtain ⟨limit, held, issued, draining⟩ := c
  simp only [release] at hheld ⊢
  congr

namespace Drain

variable {d d' d'' : Drain}

/-- One can come from one drain to another. -/
def Reaches (schedule : Schedule) (d d' : Drain) : Prop :=
  ∃ actions, d.after schedule actions = some d'

theorem Reaches.refl : d.Reaches schedule d := ⟨[], rfl⟩

theorem Reaches.trans (h : d.Reaches schedule d') (h' : d'.Reaches schedule d'') :
    d.Reaches schedule d'' := by
  obtain ⟨actions, h⟩ := h
  obtain ⟨actions', h'⟩ := h'
  refine ⟨actions ++ actions', ?_⟩
  rw [after, List.foldlM_append, ← after, h]
  exact h'

/-- Whether the loop sleeps, or is going to, because of a slot that is held. -/
def Waits (d : Drain) : Prop :=
  d.unnoticed = 0 ∧ d.clock ≤ d.deadline ∧
    (d.stage = .registering ∨ d.stage = .asleep false ∧ d.slots.active ≠ 0)

theorem Waits.reaches_complete (h : d.Waits) (hnone : d.slots.active = 0) :
    d.Reaches schedule { d with stage := .returned .complete d.clock } := by
  obtain ⟨-, -, hd⟩ := h
  have hd : d.stage = .registering := hd.resolve_right fun h => h.2 hnone
  exact ⟨[.go, .go], by simp [after, step, advance, hd, hnone]⟩

theorem Waits.reaches_asleep (h : d.Waits) (hsome : d.slots.active ≠ 0) :
    d.Reaches schedule { d with stage := .asleep false } := by
  obtain ⟨-, -, hd | ⟨hd, -⟩⟩ := h
  · exact ⟨[.go, .go], by simp [after, step, advance, hd, hsome]⟩
  · rw [← hd]
    exact .refl

/-- The loop sleeps up to a time by which nothing happens. -/
theorem reaches_time {time : ℕ} (hnone : d.unnoticed = 0) (hle : d.clock ≤ time)
    (hdeadline : time ≤ d.deadline)
    (hpending : ∀ slot ∈ d.slots.held, ∀ due ∈ schedule slot, time ≤ due) :
    ({ d with stage := .asleep false } : Drain).Reaches schedule
      { d with stage := .asleep false, clock := time } := by
  rcases Nat.eq_or_lt_of_le hle with rfl | hlt
  · exact .refl
  · have hquiet : ({ d with stage := .asleep false } : Drain).IsQuiet schedule time :=
      ⟨hlt, hnone, hdeadline, hpending⟩
    exact ⟨[.elapse time], by simp [after, step, hquiet]⟩

/-- The deadline comes while slots are still held. -/
theorem Waits.reaches_timeout (h : d.Waits) (hsome : d.slots.active ≠ 0)
    (hpending : ∀ slot ∈ d.slots.held, ∀ due ∈ schedule slot, d.deadline ≤ due) :
    ∃ d', d.Reaches schedule d' ∧ d'.stage = .returned (.timeout d.slots.active) d.deadline := by
  refine ⟨{ d with stage := .returned (.timeout d.slots.active) d.deadline, clock := d.deadline },
    (h.reaches_asleep hsome).trans ((reaches_time h.1 h.2.1 (Nat.le_refl _) hpending).trans
      ⟨[.expire], ?_⟩), rfl⟩
  simp [after, step, expired, hsome]

/-- A slot is taken back and the loop is told so. -/
theorem reaches_release (hnone : d.unnoticed = 0) (hdue : d.IsDue schedule slot) :
    ({ d with stage := .asleep false } : Drain).Reaches schedule
      { d with stage := .registering, slots := d.slots.release slot } := by
  obtain ⟨slots, clock, deadline, unnoticed, stage⟩ := d
  cases hnone
  have hdue' : (⟨slots, clock, deadline, 0, .asleep false⟩ : Drain).IsDue schedule slot := hdue
  exact ⟨[.release slot, .notify, .go],
    by simp [after, step, hdue', DrainStage.notice, advance]⟩

/-- What is computed from the times at which slots are given back is how a run ends. -/
theorem Waits.reaches_awaitRelease (h : d.Waits)
    (hsorted : releases.Pairwise fun a b => a.time ≤ b.time)
    (hlater : ∀ r ∈ releases, d.clock ≤ r.time)
    (hschedule : ∀ slot ∈ d.slots.held, schedule slot = Schedule.ofReleases releases slot) :
    ∃ d', d.Reaches schedule d' ∧ d'.stage = .returned
      (d.slots.awaitRelease d.clock d.deadline releases).1
      (d.slots.awaitRelease d.clock d.deadline releases).2 := by
  induction releases generalizing d with
  | nil =>
    rw [awaitRelease]
    split
    next hnone => exact ⟨_, h.reaches_complete hnone, rfl⟩
    next hsome =>
      refine h.reaches_timeout hsome fun slot hslot due hdue => ?_
      rw [hschedule slot hslot, Schedule.mem_ofReleases] at hdue
      exact absurd hdue.1 List.not_mem_nil
  | cons r releases ih =>
    obtain ⟨hfirst, hsorted⟩ := List.pairwise_cons.mp hsorted
    obtain ⟨hnow, -⟩ := List.forall_mem_cons.mp hlater
    -- no slot is given back before the first of the times
    have hpending : ∀ slot ∈ d.slots.held, ∀ due ∈ schedule slot, r.time ≤ due := by
      intro slot hslot due hdue
      rw [hschedule slot hslot, Schedule.mem_ofReleases] at hdue
      rcases List.mem_cons.mp hdue.1 with rfl | hmem
      · exact Nat.le_refl _
      · exact hfirst _ hmem
    have hschedule' : ∀ slot ∈ (d.slots.release r.slot).held,
        schedule slot = Schedule.ofReleases releases slot := by
      intro slot hslot
      obtain ⟨hslot, hne⟩ := mem_held_release.mp hslot
      rw [hschedule slot hslot, Schedule.ofReleases_cons_of_ne hne]
    rw [awaitRelease, show d.clock.max r.time = r.time from Nat.max_eq_right hnow]
    split
    next hnone => exact ⟨_, h.reaches_complete hnone, rfl⟩
    next hsome =>
    split
    next hlt =>
      have hreach := (h.reaches_asleep hsome).trans
        (reaches_time h.1 hnow (Nat.le_of_lt hlt) hpending)
      by_cases hheld : r.slot ∈ d.slots.held
      · have hdue : ({ d with clock := r.time } : Drain).IsDue schedule r.slot := by
          refine ⟨hheld, r.time, ?_, Nat.le_refl _⟩
          rw [hschedule r.slot hheld, Schedule.mem_ofReleases]
          exact ⟨List.mem_cons_self, fun other hother _ =>
            (List.mem_cons.mp hother).elim (fun heq => heq ▸ Nat.le_refl r.time) (hfirst other)⟩
        obtain ⟨d', hd', hr⟩ := @ih
          ⟨d.slots.release r.slot, r.time, d.deadline, d.unnoticed, .registering⟩
          ⟨h.1, (Nat.le_of_lt hlt), .inl rfl⟩ hsorted hfirst hschedule'
        have hrelease := reaches_release (d := { d with clock := r.time }) h.1 hdue
        exact ⟨d', (hreach.trans hrelease).trans hd', hr⟩
      · -- the slot has been given back before, and the loop sleeps on
        have hsame : d.slots.release r.slot = d.slots := release_of_not_mem hheld
        rw [hsame] at hschedule' ⊢
        obtain ⟨d', hd', hr⟩ := @ih
          ⟨d.slots, r.time, d.deadline, d.unnoticed, .asleep false⟩
          ⟨h.1, (Nat.le_of_lt hlt), .inr ⟨rfl, hsome⟩⟩ hsorted hfirst hschedule'
        exact ⟨d', hreach.trans hd', hr⟩
    next hge =>
      exact h.reaches_timeout hsome fun slot hslot due hdue =>
        Nat.le_trans (Nat.le_of_not_lt hge) (hpending slot hslot due hdue)

/-- What a drain is computed to return is what a run of it returns. -/
theorem exists_run_drain {result : DrainResult} {time : ℕ}
    (h : c.drain now timeout releases = some (result, time)) :
    ∃ d, (start c now timeout).Reaches (.ofReleases releases) d ∧ d.stage = .returned result time := by
  obtain ⟨deadline, hdeadline, heq⟩ := Option.map_eq_some_iff.mp h
  have hperm := List.mergeSort_perm releases fun a b => a.time ≤ b.time
  have hsorted : (releases.mergeSort fun a b => a.time ≤ b.time).Pairwise
      fun a b => a.time ≤ b.time := by
    have h := @List.pairwise_mergeSort Release (fun a b => decide (a.time ≤ b.time))
      (fun _ _ _ => by simpa using Nat.le_trans)
      (fun a b => by simpa using Nat.le_total a.time b.time) releases
    simpa using h
  have hwaits : (start c now timeout).Waits := by
    refine ⟨rfl, Nat.zero_le _, .inl ?_⟩
    simp [start, hdeadline]
  obtain ⟨d, hreaches, hd⟩ := hwaits.reaches_awaitRelease hsorted (fun _ _ => Nat.zero_le _)
    fun slot _ => congrFun (Schedule.ofReleases_perm hperm.symm) slot
  exact ⟨d, hreaches, hd.trans (congrArg (fun r => DrainStage.returned r.1 r.2) heq)⟩

end Drain

/-- **A drain reports exactly what is left**, unless the clock does not get to its deadline. Let slots
be given back at any times, or never, after the start of a drain, and let it go on in any way.
* No slot is given out any more, also after it has returned.
* It breaks down if the clock does not get to the deadline, and else it returns: up to then there is
  always a step, and there are not more than so many.
* If every slot is given back before the deadline, it returns that the drain is complete. If one is
  given back later or never, it does not.
* It returns so with the last of the slots, or at once if there is none.
* Else it returns at the deadline, with the number of the slots that are left: those that are given
  back later or never, and maybe some that are given back just then. There are some, and not more
  than there were.
* What is computed for a list of releases is what it returns in one of these ways. -/
theorem drain_reports (c : Connections) (now : ClockTime) (timeout : ℕ) :
    (∀ schedule actions d, (Drain.start c now timeout).after schedule actions = some d →
      d.slots.acquire = none ∧
      (d.stage = .brokenDown ↔ now.after? (Duration.millis timeout) = none) ∧
      (¬ d.HasEnded → (∃ action, (d.step schedule action).isSome) ∧
        actions.length ≤ timeout + 5 * c.active + 2) ∧
      ∀ result time, d.stage = .returned result time →
        ((∀ slot ∈ c.held, ∃ due ∈ schedule slot, due < timeout) → result = .complete) ∧
        ((∃ slot ∈ c.held, ∀ due ∈ schedule slot, timeout < due) → result ≠ .complete) ∧
        (result = .complete → time = c.lastRelease schedule) ∧
        ∀ remaining, result = .timeout remaining → time = timeout ∧
          remaining ≠ 0 ∧ remaining ≤ c.active ∧
          ∃ left, c.Leaves schedule timeout left ∧ left.length = remaining) ∧
    ∀ releases,
      (c.drain now timeout releases = none ↔ now.after? (Duration.millis timeout) = none) ∧
      ∀ result time, c.drain now timeout releases = some (result, time) → ∃ actions d,
        (Drain.start c now timeout).after (.ofReleases releases) actions = some d ∧
          d.stage = .returned result time := by
  refine ⟨fun schedule actions d h => ?_, fun releases => ⟨c.drain_eq_none_iff now timeout releases,
    fun result time h => ?_⟩⟩
  · have hsound := Drain.sound_after h
    refine ⟨hsound.acquire_eq_none, Drain.brokenDown_after_iff h,
      fun hd => ⟨Drain.exists_step hd, ?_⟩, fun result time hd => ?_⟩
    · have hlength := Drain.length_add_toGo_le h hd
      have hstart := Drain.toGo_start_le c now timeout
      omega
    · have hout := hsound.outcome result time hd
      exact ⟨hout.eq_complete, hout.ne_complete, hout.time_of_complete, hout.of_timeout⟩
  · obtain ⟨d, ⟨actions, h⟩, hd⟩ := Drain.exists_run_drain h
    exact ⟨actions, d, h, hd⟩

/-- Nobody holds a slot, the machine has just been started, and a drain that may wait for as many
seconds as a word of 64 bits can say reports nothing, ever. -/
theorem exists_drain_without_report :
    ∃ (c : Connections) (now : ClockTime), c.held = [] ∧ now.seconds = 0 ∧
      c.drain now (18446744073709551615 * 1000) [] = none ∧
      ∀ schedule actions d,
        (Drain.start c now (18446744073709551615 * 1000)).after schedule actions = some d →
        ∀ result time, d.stage ≠ .returned result time := by
  have hbeyond : (⟨0, 0, by decide⟩ : ClockTime).after?
      (Duration.millis (18446744073709551615 * 1000)) = none := by decide +kernel
  refine ⟨empty 64, ⟨0, 0, by decide⟩, rfl, rfl, (drain_eq_none_iff _ _ _ _).mpr hbeyond,
    fun schedule actions d h result time hd => ?_⟩
  have hbroken := (Drain.brokenDown_after_iff h).mpr hbeyond
  exact absurd (hbroken.symm.trans hd) (by simp)

end CommandLink.Connections
