import CommandLink.Proofs.Channel.Sending
import CommandLink.Proofs.Frame.Stream
import Mathlib.Data.List.Induction

/-!
# The mail of a channel

A frame that is sent becomes a `Letter`: its bytes wait in line for the writer, and one letter is
written at a time. While a channel stays open and the link takes its bytes, the letters are written
as a whole and in the order in which they have joined the line (`mail_after`).
-/

namespace CommandLink

variable {ω ρ : Type}

/-! ## Letters -/

/-- A frame on its way out, with its bytes and the agent that sends it. -/
structure Letter where
  sender : Agent
  frame : Frame
  bytes : Bytes

namespace Channel

/-- The letter that joins the line with an action. -/
def letter? (c : Channel ω ρ) : Action ω ρ → Option Letter
  | .agent a .go =>
    match c.sending? a with
    | some (.encode frame) =>
      match frame.wire c.setup.frameLimit with
      | .ok bytes => some ⟨a, frame, bytes⟩
      | .error _ => none
    | _ => none
  | _ => none

/-- Whether an action writes the last of the bytes of a letter. -/
def completes (c : Channel ω ρ) : Action ω ρ → Bool
  | .agent a (.write count) =>
    match c.sending? a with
    | some (.write rest) => rest.drop count = []
    | _ => false
  | _ => false

end Channel

/-- The letter that joins the line at a moment. -/
def Moment.letter? (m : Moment ω ρ) : Option Letter := m.before.letter? m.action

/-- Whether the last of the bytes of a letter are written at a moment. -/
def Moment.completes (m : Moment ω ρ) : Bool := m.before.completes m.action

namespace Channel

/-- The letters of a run, in the order in which they have joined the line. -/
def letters (c : Channel ω ρ) (actions : List (Action ω ρ)) : List Letter :=
  (c.moments actions).filterMap Moment.letter?

/-- The letters of a run that are written as a whole. -/
def sent (c : Channel ω ρ) (actions : List (Action ω ρ)) : List Letter :=
  (c.letters actions).take ((c.moments actions).countP Moment.completes)

/-- What is written in a run. -/
def written (c : Channel ω ρ) (actions : List (Action ω ρ)) : Bytes :=
  Trace.written ((c.moments actions).flatMap Moment.events)

variable {c d : Channel ω ρ} {action : Action ω ρ} {events : List (Event ρ)} {a : Agent}

theorem letter?_eq_some {l : Letter} (h : c.letter? action = some l) :
    ∃ frame bytes, l = ⟨l.sender, frame, bytes⟩ ∧ action = .agent l.sender .go ∧
      c.sending? l.sender = some (.encode frame) ∧ frame.wire c.setup.frameLimit = .ok bytes := by
  unfold letter? at h
  split at h
  · split at h
    · rename_i a _ frame hs
      split at h
      · rename_i bytes hwire
        cases h
        exact ⟨frame, bytes, rfl, rfl, hs, hwire⟩
      · cases h
    · cases h
  · cases h

/-! ## The line -/

/-- Letters wait in line for the writer. -/
structure Waiting (c : Channel ω ρ) (letters : List Letter) : Prop where
  line : c.writer.line = letters.map Letter.sender
  nodup : (letters.map Letter.sender).Nodup
  queued : ∀ l ∈ letters, c.sending? l.sender = some (.queued l.bytes)

/-- Letters that are not written yet as a whole: the first may have been begun. -/
inductive Outgoing (c : Channel ω ρ) : List Letter → Bytes → Prop
  | free {letters : List Letter} (holder : c.writer.holder = none) (waiting : c.Waiting letters) :
    Outgoing c letters []
  | writing {l : Letter} {letters : List Letter} {part rest : Bytes}
    (holder : c.writer.holder = some l.sender) (stage : c.sending? l.sender = some (.write rest))
    (more : rest ≠ []) (bytes : l.bytes = part ++ rest) (waiting : c.Waiting letters) :
    Outgoing c (l :: letters) part
  | flushing {a : Agent} {letters : List Letter} (holder : c.writer.holder = some a)
    (stage : c.sending? a = some .flush) (waiting : c.Waiting letters) : Outgoing c letters []

/-- What is written is letters as a whole, as many as a number says, and part of the next. -/
structure Mail (c : Channel ω ρ) (letters : List Letter) (count : ℕ) (written : Bytes) : Prop where
  isOpen : c.writer.isOpen = true
  wire : ∀ l ∈ letters, l.frame.wire c.setup.frameLimit = .ok l.bytes
  inLine : ∀ a bytes, c.sending? a = some (.queued bytes) → a ∈ c.writer.line
  holds : ∀ a stage, c.sending? a = some stage → stage.writes = true → c.writer.holder = some a
  outgoing : ∃ sent underway part, letters = sent ++ underway ∧ sent.length = count ∧
    written = sent.flatMap Letter.bytes ++ part ∧ c.Outgoing underway part

theorem Waiting.frame {letters : List Letter} (hw : c.Waiting letters)
    (hline : d.writer.line = c.writer.line)
    (hs : ∀ l ∈ letters, d.sending? l.sender = c.sending? l.sender) : d.Waiting letters where
  line := hline.trans hw.line
  nodup := hw.nodup
  queued l hl := (hs l hl).trans (hw.queued l hl)

/-- Those who wait in line do nothing else. -/
theorem Waiting.ne {letters : List Letter} (hw : c.Waiting letters) {stage : SendStage}
    (hs : c.sending? a = some stage) (hstage : ∀ bytes, stage ≠ .queued bytes) {l : Letter}
    (hl : l ∈ letters) : l.sender ≠ a := by
  rintro rfl
  rw [hw.queued l hl, Option.some.injEq] at hs
  exact hstage _ hs.symm

section Steps

variable {letters : List Letter} {count : ℕ} {written part : Bytes}

theorem Outgoing.of_kept (ho : c.Outgoing letters part) (hwriter : d.writer = c.writer)
    (hkept : ∀ b, d.sending? b = c.sending? b ∨ Begins (c.sending? b)) :
    d.Outgoing letters part := by
  have hsame : ∀ b stage, (∀ frame, stage ≠ .encode frame) → c.sending? b = some stage →
      d.sending? b = some stage := by
    intro b stage hstage hs
    rcases hkept b with hk | hk
    · exact hk.trans hs
    · exact absurd hs (hk.ne hstage)
  have hwaiting : ∀ {letters : List Letter}, c.Waiting letters → d.Waiting letters := fun hw =>
    ⟨by rw [hwriter, hw.line], hw.nodup, fun l hl => hsame _ _ (by simp) (hw.queued l hl)⟩
  cases ho with
  | free hholder hw => exact .free (by rw [hwriter, hholder]) (hwaiting hw)
  | writing hholder hs hmore hbytes hw =>
    exact .writing (by rw [hwriter, hholder]) (hsame _ _ (by simp) hs) hmore hbytes (hwaiting hw)
  | flushing hholder hs hw =>
    exact .flushing (by rw [hwriter, hholder]) (hsame _ _ (by simp) hs) (hwaiting hw)

/-- Where nobody gets further with sending the letters are left as they are. -/
theorem Mail.of_kept (hm : c.Mail letters count written) (hsetup : d.setup = c.setup)
    (hwriter : d.writer = c.writer)
    (hkept : ∀ b, d.sending? b = c.sending? b ∨ Begins (c.sending? b) ∧ Begins (d.sending? b)) :
    d.Mail letters count written where
  isOpen := by rw [hwriter, hm.isOpen]
  wire l hl := by rw [hsetup, hm.wire l hl]
  inLine b bytes hb := by
    rcases hkept b with hk | ⟨-, hk⟩
    · rw [hwriter]
      exact hm.inLine b bytes (hk.symm.trans hb)
    · exact absurd hb (hk.ne (by simp))
  holds b stage hb hstage := by
    rcases hkept b with hk | ⟨-, hk⟩
    · rw [hwriter]
      exact hm.holds b stage (hk.symm.trans hb) hstage
    · refine absurd hb (hk.ne ?_)
      rintro frame rfl
      cases hstage
  outgoing := by
    obtain ⟨sent, underway, part, hletters, hcount, hwritten, ho⟩ := hm.outgoing
    exact ⟨sent, underway, part, hletters, hcount, hwritten,
      ho.of_kept hwriter fun b => (hkept b).imp_right And.left⟩

theorem Waiting.join (hw : c.Waiting letters) {frame : Frame} {bytes : Bytes}
    (hs : c.sending? a = some (.encode frame)) (hline : d.writer.line = c.writer.line ++ [a])
    (hself : d.sending? a = some (.queued bytes))
    (hkept : ∀ b, b ≠ a → d.sending? b = c.sending? b) :
    d.Waiting (letters ++ [⟨a, frame, bytes⟩]) where
  line := by rw [hline, hw.line, List.map_append, List.map_singleton]
  nodup := by
    rw [List.map_append, List.map_singleton, List.nodup_append]
    refine ⟨hw.nodup, by simp, ?_⟩
    simp only [List.mem_map, List.mem_singleton]
    rintro b ⟨l, hl, rfl⟩ b' rfl
    exact hw.ne hs (by simp) hl
  queued l hl := by
    rcases List.mem_append.mp hl with hl | hl
    · rw [hkept _ (hw.ne hs (by simp) hl), hw.queued l hl]
    · rw [List.mem_singleton.mp hl, hself]

/-- The bytes of a frame join the line. -/
theorem Mail.joined (hm : c.Mail letters count written) {frame : Frame} {bytes : Bytes}
    (hs : c.sending? a = some (.encode frame)) (hwire : frame.wire c.setup.frameLimit = .ok bytes)
    (hsetup : d.setup = c.setup) (hwriter : d.writer = c.writer.enqueue a)
    (hself : d.sending? a = some (.queued bytes))
    (hkept : ∀ b, b ≠ a → d.sending? b = c.sending? b) :
    d.Mail (letters ++ [⟨a, frame, bytes⟩]) count written where
  isOpen := by rw [hwriter, Writer.enqueue, hm.isOpen]
  wire l hl := by
    rw [hsetup]
    rcases List.mem_append.mp hl with hl | hl
    · exact hm.wire l hl
    · rw [List.mem_singleton.mp hl, hwire]
  inLine b bytes' hb := by
    rw [hwriter, Writer.enqueue, List.mem_append, List.mem_singleton]
    by_cases hba : b = a
    · exact .inr hba
    · exact .inl (hm.inLine b bytes' (by rw [← hkept b hba, hb]))
  holds b stage hb hstage := by
    rw [hwriter, Writer.enqueue]
    by_cases hba : b = a
    · subst hba
      rw [hself, Option.some.injEq] at hb
      subst hb
      cases hstage
    · exact hm.holds b stage (by rw [← hkept b hba, hb]) hstage
  outgoing := by
    obtain ⟨sent, underway, part, rfl, hcount, hwritten, ho⟩ := hm.outgoing
    refine ⟨sent, underway ++ [⟨a, frame, bytes⟩], part, List.append_assoc _ _ _, hcount, hwritten,
      ?_⟩
    have hline : d.writer.line = c.writer.line ++ [a] := by rw [hwriter, Writer.enqueue]
    have hholder : d.writer.holder = c.writer.holder := by rw [hwriter, Writer.enqueue]
    have hne : ∀ {b stage}, c.sending? b = some stage → (∀ f, stage ≠ .encode f) → b ≠ a := by
      rintro b stage hb hstage rfl
      rw [hs, Option.some.injEq] at hb
      exact hstage _ hb.symm
    cases ho with
    | free hfree hw =>
      exact .free (hholder.trans hfree) (hw.join hs hline hself hkept)
    | writing hl hstage hmore hbytes hw =>
      exact .writing (hholder.trans hl) ((hkept _ (hne hstage (by simp))).trans hstage) hmore hbytes
        (hw.join hs hline hself hkept)
    | flushing hl hstage hw =>
      exact .flushing (hholder.trans hl) ((hkept _ (hne hstage (by simp))).trans hstage)
        (hw.join hs hline hself hkept)

/-- The writer belongs to the one who writes. -/
theorem Outgoing.writes (ho : c.Outgoing letters part) {rest : Bytes}
    (hholder : c.writer.holder = some a) (hs : c.sending? a = some (.write rest)) :
    ∃ l later, letters = l :: later ∧ l.sender = a ∧ l.bytes = part ++ rest ∧ rest ≠ [] ∧
      c.Waiting later := by
  cases ho with
  | free hfree => rw [hfree] at hholder; cases hholder
  | writing hl hstage hmore hbytes hw =>
    rw [hl, Option.some.injEq] at hholder
    subst hholder
    rw [hstage, Option.some.injEq, SendStage.write.injEq] at hs
    subst hs
    exact ⟨_, _, rfl, rfl, hbytes, hmore, hw⟩
  | flushing hl hstage =>
    rw [hl, Option.some.injEq] at hholder
    subst hholder
    rw [hstage] at hs
    cases hs

/-- The one who flushes has written its letter. -/
theorem Outgoing.flushes (ho : c.Outgoing letters part) (hholder : c.writer.holder = some a)
    (hs : c.sending? a = some .flush) : part = [] ∧ c.Waiting letters := by
  cases ho with
  | free hfree => rw [hfree] at hholder; cases hholder
  | writing hl hstage =>
    rw [hl, Option.some.injEq] at hholder
    subst hholder
    rw [hstage] at hs
    cases hs
  | flushing _ _ hw => exact ⟨rfl, hw⟩

/-- The letter that is first in line gets the writer. -/
theorem Mail.took (hm : c.Mail letters count written) {bytes : Bytes}
    (hs : c.sending? a = some (.queued bytes)) (hholder : c.writer.holder = none)
    (hfirst : c.writer.line.head? = some a) (hsetup : d.setup = c.setup)
    (hwriter : d.writer = c.writer.take a) (hself : d.sending? a = some (.write bytes))
    (hkept : ∀ b, b ≠ a → d.sending? b = c.sending? b) : d.Mail letters count written where
  isOpen := by rw [hwriter, Writer.take, hm.isOpen]
  wire l hl := by rw [hsetup, hm.wire l hl]
  inLine b bytes' hb := by
    have hba : b ≠ a := by
      rintro rfl
      rw [hself] at hb
      cases hb
    rw [hwriter, Writer.take, List.mem_filter]
    exact ⟨hm.inLine b bytes' (by rw [← hkept b hba, hb]), by simpa using hba⟩
  holds b stage hb hstage := by
    by_cases hba : b = a
    · rw [hwriter, Writer.take, hba]
    · have hb' := hm.holds b stage (by rw [← hkept b hba, hb]) hstage
      rw [hholder] at hb'
      cases hb'
  outgoing := by
    obtain ⟨sent, underway, part, hletters, hcount, hwritten, ho⟩ := hm.outgoing
    refine ⟨sent, underway, part, hletters, hcount, hwritten, ?_⟩
    cases ho with
    | free _ hw =>
      rw [hw.line, List.head?_map, Option.map_eq_some_iff] at hfirst
      obtain ⟨l, hl, rfl⟩ := hfirst
      obtain ⟨later, rfl⟩ := List.head?_eq_some_iff.mp hl
      have hnodup := List.nodup_cons.mp hw.nodup
      have hne : ∀ l' ∈ later, l'.sender ≠ l.sender := fun l' hl' heq =>
        hnodup.1 (heq ▸ List.mem_map_of_mem hl')
      rw [hw.queued l (List.mem_cons_self ..), Option.some.injEq, SendStage.queued.injEq] at hs
      subst hs
      refine .writing (by rw [hwriter, Writer.take]) hself ?_ rfl ⟨?_, hnodup.2, fun l' hl' => ?_⟩
      · have hwire := hm.wire l (by rw [hletters]; simp)
        rw [(Frame.wire_eq_ok_iff.mp hwire).2.2]
        simp [Frame.body_ne_nil]
      · rw [hwriter, Writer.take, hw.line, List.map_cons, List.filter_cons_of_neg (by simp),
          List.filter_eq_self]
        simpa using hne
      · rw [hkept _ (hne l' hl'), hw.queued l' (List.mem_cons_of_mem _ hl')]
    | writing hl => rw [hholder] at hl; cases hl
    | flushing hl => rw [hholder] at hl; cases hl

/-- The one who holds the writer goes on. -/
theorem Mail.wrote (hm : c.Mail letters count written) {rest more : Bytes} {stage : SendStage}
    (hs : c.sending? a = some (.write rest)) (hsetup : d.setup = c.setup)
    (hwriter : d.writer = c.writer) (hself : d.sending? a = some stage)
    (hstage : stage.writes = true)
    (hkept : ∀ b, b ≠ a → d.sending? b = c.sending? b) {count' : ℕ}
    (hnext : ∀ sent l later part, letters = sent ++ l :: later → sent.length = count →
      l.bytes = part ++ rest → l.sender = a → d.writer.holder = some a → d.Waiting later →
      ∃ sent' underway part', letters = sent' ++ underway ∧ sent'.length = count' ∧
        sent.flatMap Letter.bytes ++ part ++ more = sent'.flatMap Letter.bytes ++ part' ∧
        d.Outgoing underway part') : d.Mail letters count' (written ++ more) where
  isOpen := by rw [hwriter, hm.isOpen]
  wire l hl := by rw [hsetup, hm.wire l hl]
  inLine b bytes hb := by
    have hba : b ≠ a := by
      rintro rfl
      rw [hself, Option.some.injEq] at hb
      subst hb
      cases hstage
    rw [hwriter]
    exact hm.inLine b bytes (by rw [← hkept b hba, hb])
  holds b stage' hb hstage' := by
    rw [hwriter]
    by_cases hba : b = a
    · rw [hba]
      exact hm.holds a _ hs rfl
    · exact hm.holds b stage' (by rw [← hkept b hba, hb]) hstage'
  outgoing := by
    obtain ⟨sent, underway, part, hletters, hcount, hwritten, ho⟩ := hm.outgoing
    have hholder := hm.holds a _ hs rfl
    obtain ⟨l, later, rfl, hl, hbytes, -, hw⟩ := ho.writes hholder hs
    obtain ⟨sent', underway, part', h₁, h₂, h₃, h₄⟩ :=
      hnext sent l later part hletters hcount hbytes hl
      (by rw [hwriter, hholder])
      (hw.frame (by rw [hwriter]) fun l' hl' => hkept _ (hw.ne hs (by simp) hl'))
    exact ⟨sent', underway, part', h₁, h₂, by rw [hwritten, h₃], h₄⟩

/-- The writer is given back. -/
theorem Mail.flushed (hm : c.Mail letters count written) (hs : c.sending? a = some .flush)
    (hsetup : d.setup = c.setup) (hwriter : d.writer = c.writer.leave a)
    (hself : Begins (d.sending? a)) (hkept : ∀ b, b ≠ a → d.sending? b = c.sending? b) :
    d.Mail letters count written := by
  obtain ⟨sent, underway, part, hletters, hcount, hwritten, ho⟩ := hm.outgoing
  have hholder := hm.holds a _ hs rfl
  obtain ⟨rfl, hw⟩ := ho.flushes hholder hs
  have hline : d.writer.line = c.writer.line := by
    rw [hwriter, Writer.leave, List.filter_eq_self, hw.line]
    simpa using fun l hl => hw.ne hs (by simp) hl
  have hne : ∀ b stage, d.sending? b = some stage → (∀ frame, stage ≠ .encode frame) → b ≠ a := by
    rintro b stage hb hstage rfl
    exact hself.ne hstage hb
  refine ⟨by rw [hwriter, Writer.leave, hm.isOpen], fun l hl => by rw [hsetup, hm.wire l hl],
    fun b bytes hb => ?_, fun b stage hb hstage => ?_,
    sent, underway, [], hletters, hcount, hwritten, .free ?_ ?_⟩
  · rw [hline]
    exact hm.inLine b bytes (by rw [← hkept b (hne b _ hb (by simp)), hb])
  · have hba : b ≠ a := by
      refine hne b stage hb ?_
      rintro frame rfl
      cases hstage
    have hb' := hm.holds b stage (by rw [← hkept b hba, hb]) hstage
    rw [hholder, Option.some.injEq] at hb'
    exact absurd hb'.symm hba
  · rw [hwriter, Writer.leave, if_pos hholder]
  · exact hw.frame hline fun l hl => hkept _ (hw.ne hs (by simp) hl)

theorem letter?_of_silent (h : ∀ a, action.agent? = some a → c.sending? a = none) :
    c.letter? action = none := by
  unfold letter?
  split
  · rename_i a
    rw [h a rfl]
  · rfl

theorem completes_of_silent (h : ∀ a, action.agent? = some a → c.sending? a = none) :
    c.completes action = false := by
  unfold completes
  split
  · rename_i a count
    rw [h a rfl]
  · rfl

/-- **The mail after a step.** What joins the line is behind all the other letters, and what is
written is the next bytes of the first. -/
theorem Mail.step (hm : c.Mail letters count written) (ho : Orderly c)
    (h : c.step action = some (d, events)) (hd : d.closing = false)
    (hl : ∀ a error, action ≠ .agent a (.fail error)) :
    d.Mail (letters ++ (c.letter? action).toList) (count + (c.completes action).toNat)
      (written ++ Trace.written events) := by
  have hsetup := (step_others h).setup
  have hcancelled := ho.not_cancelled (open_of_step h hd)
  cases step_sends h ho hd with
  | rest hwriter hwritten hsilent hkept =>
    rw [letter?_of_silent hsilent, completes_of_silent hsilent, hwritten, Option.toList_none,
      List.append_nil, List.append_nil]
    exact hm.of_kept hsetup hwriter fun b => (hkept b).imp_right fun hb => ⟨.inl hb.1, hb.2⟩
  | went a choice stage e progress hact hs hstep hwriter hnext hkept =>
    subst hact
    have hforwards := sendStep_forwards hcancelled hm.isOpen
      (fun error heq => hl a error (heq ▸ rfl)) hstep
    cases hforwards with
    | refused frame error hwire =>
      have hletter : c.letter? (.agent a .go : Action ω ρ) = none := by
        simp only [letter?, hs, hwire]
      have hmail : d.Mail letters count written := by
        refine hm.of_kept hsetup hwriter fun b => ?_
        by_cases hb : b = a
        · subst hb
          exact .inr ⟨.inr ⟨frame, hs⟩, hnext.elim .inl And.right⟩
        · exact .inl (hkept b hb)
      simpa [hletter, completes, Trace.written] using hmail
    | joined frame bytes hwire =>
      have hletter : c.letter? (.agent a .go : Action ω ρ) = some ⟨a, frame, bytes⟩ := by
        simp only [letter?, hs, hwire]
      have hmail : d.Mail (letters ++ [⟨a, frame, bytes⟩]) count written :=
        hm.joined hs hwire hsetup hwriter (hnext.resolve_right (by simp [Progress.stage?])) hkept
      simpa [hletter, completes, Trace.written] using hmail
    | took bytes hholder hfirst =>
      have hletter : c.letter? (.agent a .go : Action ω ρ) = none := by
        simp only [letter?, hs]
      have hmail : d.Mail letters count written := hm.took hs hholder hfirst hsetup hwriter
        (hnext.resolve_right (by simp [Progress.stage?])) hkept
      simpa [hletter, completes, Trace.written] using hmail
    | wrote rest number hmore =>
      have hcompletes : c.completes (.agent a (.write number) : Action ω ρ) = false := by
        simp only [completes, hs, hmore, decide_false]
      have hmail : d.Mail letters count (written ++ rest.take number) := by
        refine hm.wrote hs hsetup hwriter (hnext.resolve_right (by simp [Progress.stage?])) rfl hkept
          fun sent l later part hletters hcount hbytes hsender hholder hw =>
            ⟨sent, l :: later, part ++ rest.take number, hletters, hcount,
              List.append_assoc _ _ _, ?_⟩
        subst hsender
        refine .writing hholder (hnext.resolve_right (by simp [Progress.stage?])) hmore ?_ hw
        rw [List.append_assoc, List.take_append_drop, hbytes]
      simpa [letter?, hcompletes, Trace.written, Event.bytes] using hmail
    | completed rest number hall =>
      have hcompletes : c.completes (.agent a (.write number) : Action ω ρ) = true := by
        simp only [completes, hs, hall, decide_true]
      have hmail : d.Mail letters (count + 1) (written ++ rest.take number) := by
        refine hm.wrote hs hsetup hwriter (hnext.resolve_right (by simp [Progress.stage?])) rfl hkept
          fun sent l later part hletters hcount hbytes hsender hholder hw =>
            ⟨sent ++ [l], later, [], by simp [hletters], by simp [hcount], ?_,
              .flushing hholder (hnext.resolve_right (by simp [Progress.stage?])) hw⟩
        have htake : rest.take number = rest := by
          rw [← List.append_nil (rest.take number), ← hall, List.take_append_drop]
        simp [htake, hbytes]
      simpa [letter?, hcompletes, Trace.written, Event.bytes] using hmail
    | flushed =>
      have hletter : c.letter? (.agent a .go : Action ω ρ) = none := by
        simp only [letter?, hs]
      have hmail : d.Mail letters count written :=
        hm.flushed hs hsetup hwriter (hnext.elim .inl And.right) hkept
      simpa [hletter, completes, Trace.written] using hmail

end Steps

/-! ## Runs -/

/-- The link takes all that is written in a run. -/
def Unbroken (c : Channel ω ρ) (actions : List (Action ω ρ)) : Prop :=
  ∀ m ∈ c.moments actions, ∀ a error, m.action ≠ .agent a (.fail error)

variable {setup : ChannelSetup ω ρ} {world : ω} {guarded : Bool} {actions : List (Action ω ρ)}

/-- **Induction over runs of an open channel**, over a link that takes all that is written. -/
theorem open_induction {P : List (Moment ω ρ) → Channel ω ρ → Prop}
    (hstart : P [] (start setup world guarded))
    (hstep : ∀ first action d events, ((start setup world guarded).after first).closing = false →
      (start setup world guarded).Unbroken first →
      P ((start setup world guarded).moments first) ((start setup world guarded).after first) →
      ((start setup world guarded).after first).step action = some (d, events) →
      d.closing = false → (∀ a error, action ≠ .agent a (.fail error)) →
      P ((start setup world guarded).moments first ++
        [⟨(start setup world guarded).after first, action, d, events⟩]) d)
    (hd : ((start setup world guarded).after actions).closing = false)
    (hl : (start setup world guarded).Unbroken actions) :
    P ((start setup world guarded).moments actions)
      ((start setup world guarded).after actions) := by
  induction actions using List.reverseRecOn with
  | nil => exact hstart
  | append_singleton first action ih =>
    have hmoments := moments_append (start setup world guarded) first [action]
    have hafter := after_append (start setup world guarded) first [action]
    rcases hs : ((start setup world guarded).after first).step action with _ | ⟨d, events⟩
    · rw [moments_cons_of_disabled hs, moments_nil, List.append_nil] at hmoments
      rw [after_cons_of_disabled hs, after_nil] at hafter
      rw [Unbroken, hmoments] at hl
      rw [hmoments, hafter]
      exact ih (hafter ▸ hd) hl
    · rw [moments_cons_of_step hs, moments_nil] at hmoments
      rw [after_cons_of_step hs, after_nil] at hafter
      rw [Unbroken, hmoments] at hl
      rw [hmoments, hafter]
      rw [hafter] at hd
      have hl' : (start setup world guarded).Unbroken first :=
        fun m hm => hl m (List.mem_append_left _ hm)
      have hd' := open_of_step hs hd
      exact hstep first action d events hd' hl' (ih hd' hl') hs hd
        (hl _ (List.mem_append_right _ (List.mem_singleton_self _)))

theorem mail_start (setup : ChannelSetup ω ρ) (world : ω) (guarded : Bool) :
    (start setup world guarded).Mail [] 0 [] := by
  have hnone : ∀ a, (start setup world guarded).sending? a = none := by
    rintro (_ | _ | number)
    · rfl
    · simp only [sending?, start]
      split
      · split_ifs
        · rfl
        · rfl
      · rfl
    · rfl
  refine ⟨rfl, by simp, fun a bytes h => ?_, fun a stage h => ?_,
    [], [], [], rfl, rfl, rfl, .free rfl ⟨rfl, .nil, by simp⟩⟩
  · rw [hnone] at h
    cases h
  · rw [hnone] at h
    cases h

theorem countP_completes_concat (past : List (Moment ω ρ)) (m : Moment ω ρ) :
    (past ++ [m]).countP Moment.completes =
      past.countP Moment.completes + (m.before.completes m.action).toNat := by
  rw [List.countP_append, List.countP_singleton, Moment.completes]
  cases m.before.completes m.action <;> rfl

/-- **The mail of a run.** On a channel that has stayed open, over a link that has taken all that
was written, the letters are written as a whole and in the order in which they have joined the
line. -/
theorem mail_after (setup : ChannelSetup ω ρ) (world : ω) (guarded : Bool)
    (actions : List (Action ω ρ)) (hd : ((start setup world guarded).after actions).closing = false)
    (hl : (start setup world guarded).Unbroken actions) :
    ((start setup world guarded).after actions).Mail ((start setup world guarded).letters actions)
      (((start setup world guarded).moments actions).countP Moment.completes)
      ((start setup world guarded).written actions) := by
  refine open_induction (P := fun past c => c.Mail (past.filterMap Moment.letter?)
    (past.countP Moment.completes) (Trace.written (past.flatMap Moment.events)))
    (mail_start setup world guarded) (fun first action d events _ _ hm h hd haction => ?_) hd hl
  rw [filterMap_concat, countP_completes_concat, List.flatMap_append, Trace.written_append,
    List.flatMap_singleton]
  exact hm.step (orderly_after setup world guarded first) h hd haction

end Channel

end CommandLink
