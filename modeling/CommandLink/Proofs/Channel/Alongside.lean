import CommandLink.Proofs.Channel.Renumbering
import CommandLink.Proofs.Channel.Correlation

/-!
# Runs alongside each other

Two channels that are alike are driven in the same way: corresponding actions are done in both
(`Alongside`). Then the runs differ in nothing but the identifiers of calls (`SameRun`): the calls
return the same, the same frames are sent in the same order, and the same is logged and reported.
The identifiers correspond as if one of them had been left out (`Renumbering.skipping`).
-/

namespace CommandLink

variable {ω ρ : Type}

/-! ## An identifier that is left out -/

/-- The identifiers of calls where one has been left out: those before it stay, and every other is
the next one. The first is 1, and the last of them is 0. -/
def Renumbering.skipping (skipped : CallId) : Renumbering where
  toFun id := if id = 0 then skipped else if id < skipped ∨ skipped = 0 then id else id + 1
  injective := by
    intro i j h
    have hi := i.toNat_lt
    have hj := j.toNat_lt
    have hs := skipped.toNat_lt
    dsimp only at h
    simp only [UInt64.lt_iff_toNat_lt, ← UInt64.toNat_inj] at h ⊢
    split_ifs at h <;> simp only [UInt64.toNat_add, UInt64.reduceToNat] at * <;> omega
  ahead := 1

/-- What happens to calls under other identifiers. -/
def Note.rename (f : CallId → CallId) : Note → Note
  | .drew a id => .drew a (f id)
  | .registered a id => .registered a (f id)
  | .response id result waiting => .response (f id) result waiting
  | note => note

/-- Who sends a letter and which frame it is. -/
def Letter.heading (l : Letter) : Agent × Frame := (l.sender, l.frame)

/-- A heading under another identifier of the call. -/
def renameHeading (f : CallId → CallId) (heading : Agent × Frame) : Agent × Frame :=
  (heading.1, heading.2.renameRequest f)

namespace Channel

variable {r : Renumbering} {c₁ c₂ d₁ d₂ : Channel ω ρ} {a : Agent} {choice₁ choice₂ : Choice}
  {action₁ action₂ : Action ω ρ}

/-! ## What corresponding steps do -/

/-- What the reader comes upon, under other identifiers of calls. -/
def Intake.rename (f : CallId → CallId) : Intake → Intake
  | .frame taken => .frame (taken.renameResponse f)
  | other => other

theorem Alike.sending? (h : c₁.Alike r c₂) (a : Agent) :
    Option.Rel (SendStage.Alike r) (c₁.sending? a) (c₂.sending? a) := by
  cases a with
  | reader => exact .none
  | heartbeat =>
    have hbeat := h.heartbeat
    rw [Channel.sending?, Channel.sending?]
    generalize c₁.heartbeat = stage₁ at hbeat ⊢
    generalize c₂.heartbeat = stage₂ at hbeat ⊢
    cases hbeat with
    | send hs time => exact .some hs
    | _ => exact .none
  | task number =>
    have hstage := h.stage? number
    rw [Channel.sending?, Channel.sending?]
    generalize c₁.stage? number = stage₁ at hstage ⊢
    generalize c₂.stage? number = stage₂ at hstage ⊢
    cases hstage with
    | none => exact .none
    | some hs =>
      cases hs with
      | call hs next =>
        cases hs with
        | send id hs => exact .some hs
        | _ => exact .none
      | publish hs next => exact .some hs
      | respond id last hs next => exact .some hs
      | _ => exact .none

/-- A call does the same for the history, but for its identifier. -/
theorem callNote?_rename {stage₁ stage₂ : CallStage}
    {p₁ p₂ : Progress CallStage (Except ChannelError Reply)} (hs : stage₁.Alike r stage₂)
    (hp : Progress.Alike (CallStage.Alike r) p₁ p₂) :
    callNote? a stage₁ p₁ = (callNote? a stage₂ p₂).map (Note.rename r) := by
  cases hp with
  | finished result => rfl
  | more hmore =>
    cases hmore with
    | register id call => rfl
    | _ => cases hs <;> rfl

/-- A frame from the other end does the same for the history, but for its identifier. -/
theorem Alike.frameNote? (h : c₁.Alike r c₂) (frame : Frame) :
    c₁.frameNote? (frame.renameResponse r) = (c₂.frameNote? frame).map (Note.rename r) := by
  cases frame with
  | response id result =>
    simp only [Frame.renameResponse, Channel.frameNote?, h.pending.get? id]
    rfl
  | _ => rfl

/-- The frame that the reader takes next is the one that it comes upon. -/
theorem incoming?_eq (c : Channel ω ρ) :
    c.incoming? = match c.intake with
      | .frame frame => some frame
      | _ => none := by
  unfold incoming? intake
  cases c.reader with
  | read incomplete =>
    dsimp only
    by_cases hinbox : c.inbox = []
    · simp [hinbox, takeFrame]
    · simp only [hinbox, if_false]
      rcases takeFrame c.setup.frameLimit incomplete c.inbox with e | ⟨_ | frame, _, _⟩ <;> rfl
  | _ => rfl

/-- The reader takes a frame only if it goes on. -/
theorem note?_reader_of_ne {c : Channel ω ρ} {choice : Choice} (h : choice ≠ .go) :
    c.note? (.agent .reader choice) = none := by
  cases choice <;> first | rfl | exact absurd rfl h

/-- A frame joins the line only if its agent goes on. -/
theorem letter?_of_ne {c : Channel ω ρ} {choice : Choice} (h : choice ≠ .go) :
    c.letter? (.agent a choice) = none := by
  cases choice <;> first | rfl | exact absurd rfl h

/-- What happens to the calls of a channel happens to those of the other. -/
theorem Alike.note?_agent (h : c₁.Alike r c₂) (hk : AgentsAlike r c₁ c₂ a choice₁ choice₂)
    (hi : a = .reader → c₁.intake = c₂.intake.rename r) :
    c₁.note? (.agent a choice₁) = (c₂.note? (.agent a choice₂)).map (Note.rename r) := by
  cases a with
  | heartbeat => rfl
  | reader =>
    rcases hk.sends.choice.go_or_ne with ⟨rfl, rfl⟩ | ⟨hgo₁, hgo₂⟩
    · simp only [Channel.note?, incoming?_eq, hi rfl]
      cases c₂.intake with
      | frame frame => exact h.frameNote? frame
      | _ => rfl
    · rw [note?_reader_of_ne hgo₁, note?_reader_of_ne hgo₂]
      rfl
  | task number =>
    have hsends := hk.sends
    have hstage := h.stage? number
    simp only [Channel.note?]
    rcases h₁ : c₁.stage? number with _ | stage₁
    · rcases h₂ : c₂.stage? number with _ | stage₂
      · rfl
      · rw [h₁, h₂] at hstage
        cases hstage
    · rcases h₂ : c₂.stage? number with _ | stage₂
      · rw [h₁, h₂] at hstage
        cases hstage
      rw [h₁, h₂] at hstage
      cases Option.rel_some_some.mp hstage with
      | @call stage₁ stage₂ hs next =>
        simp only [Channel.sending?, h₁, h₂, Option.bind_some] at hsends
        have ha := fun id failure hw =>
          h.arrived (.task number) id failure ((standing_task_of_stage? h₂).trans hw)
        have hdraw := fun call (heq : stage₂ = .draw call) =>
          hk.draws ⟨number, call, next, rfl, heq ▸ h₂⟩
        rcases (h.callStep (.task number) hs hsends ha hdraw).cases with
          ⟨h₁, h₂⟩ | ⟨d₁, events₁, p₁, d₂, events₂, p₂, h₁, h₂, hd, he, hp, -⟩
        · simp only [h₁, h₂]
          rfl
        · simp only [h₁, h₂, Option.bind_some]
          exact callNote?_rename hs hp
      | ready routine =>
        rcases routine with _ | ⟨op, next⟩
        · rfl
        · cases op <;> rfl
      | _ => rfl

/-- The same frame joins the line of both channels, but for its identifier. -/
theorem Alike.letter?_agent (h : c₁.Alike r c₂) (hk : AgentsAlike r c₁ c₂ a choice₁ choice₂) :
    (c₁.letter? (.agent a choice₁)).map Letter.heading =
      (c₂.letter? (.agent a choice₂)).map fun l => renameHeading r l.heading := by
  rcases hk.sends.choice.go_or_ne with ⟨rfl, rfl⟩ | ⟨hgo₁, hgo₂⟩
  · have hsending := h.sending? a
    have hfate := hk.sends.fate
    simp only [letter?]
    generalize c₁.sending? a = sending₁ at hsending ⊢
    generalize c₂.sending? a = sending₂ at hsending hfate ⊢
    cases hsending with
    | none => rfl
    | some hs =>
      cases hs with
      | encode frame =>
        have hwire := hfate frame rfl
        simp only [h.setup]
        rcases hw : frame.wire c₂.setup.frameLimit with e | bytes₂
        · rw [(hwire e).mpr hw]
          rfl
        · rcases hw' : (frame.renameRequest r).wire c₂.setup.frameLimit with e | bytes₁
          · rw [(hwire e).mp hw'] at hw
            cases hw
          · rfl
      | _ => rfl
  · rw [letter?_of_ne hgo₁, letter?_of_ne hgo₂]
    rfl

/-- Both channels come to the end of a letter together. -/
theorem Alike.completes_agent (h : c₁.Alike r c₂) (hk : AgentsAlike r c₁ c₂ a choice₁ choice₂) :
    c₁.completes (.agent a choice₁) = c₂.completes (.agent a choice₂) := by
  have hends : ∀ {count₁ count₂ : ℕ}, choice₁ = .write count₁ → choice₂ = .write count₂ →
      c₁.completes (.agent a choice₁) = c₂.completes (.agent a choice₂) := by
    rintro count₁ count₂ rfl rfl
    have hsending := h.sending? a
    have hends := hk.sends.ends
    simp only [completes]
    generalize c₁.sending? a = sending₁ at hsending hends ⊢
    generalize c₂.sending? a = sending₂ at hsending hends ⊢
    cases hsending with
    | none => rfl
    | some hs =>
      cases hs with
      | write rest₁ rest₂ =>
        exact decide_eq_decide.mpr (hends rest₁ rest₂ count₁ count₂ rfl rfl rfl rfl)
      | _ => rfl
  cases hk.sends.choice with
  | write => exact hends rfl rfl
  | same =>
    cases choice₁ with
    | write count => exact hends rfl rfl
    | _ => rfl

end Channel

/-! ## Runs -/

/-- Two moments differ in nothing but the identifiers of calls, and bytes. -/
structure Moment.Alike (r : Renumbering) (m₁ m₂ : Moment ω ρ) : Prop where
  note : m₁.note? = m₂.note?.map (Note.rename r)
  letter : m₁.letter?.map Letter.heading = m₂.letter?.map fun l => renameHeading r l.heading
  completes : m₁.completes = m₂.completes
  events : List.Forall₂ Event.Alike m₁.events m₂.events

namespace Channel

variable {r : Renumbering} {c₁ c₂ d₁ d₂ : Channel ω ρ} {a : Agent} {choice₁ choice₂ : Choice}
  {action₁ action₂ : Action ω ρ} {skipped : CallId}

/-- An agent goes on in the same way in two channels of which one has skipped an identifier: it
encodes frames of one fate, comes to the end of its bytes in both together, and takes the same frame
from the other end but for the identifier of the call that is answered. The identifiers have not come
round. -/
structure AgentsMatch (skipped : CallId) (c₁ c₂ : Channel ω ρ) (a : Agent)
    (choice₁ choice₂ : Choice) : Prop where
  sends : InStep (.skipping skipped) c₂.setup.frameLimit (c₁.sending? a) (c₂.sending? a)
    choice₁ choice₂
  intake : a = .reader → c₁.intake = c₂.intake.rename (Renumbering.skipping skipped)
  ids : c₂.Draws a → c₂.nextId ≠ 0

/-- Corresponding actions are done in two channels, one after the other. -/
def Alongside (skipped : CallId) :
    Channel ω ρ → Channel ω ρ → List (Action ω ρ × Action ω ρ) → Prop
  | _, _, [] => True
  | c₁, c₂, pair :: pairs => ActionsAlike (AgentsMatch skipped c₁ c₂) pair.1 pair.2 ∧
      Alongside skipped (c₁.after [pair.1]) (c₂.after [pair.2]) pairs

/-! ## The identifiers to come -/

theorem draws_of_note? {c : Channel ω ρ} {action : Action ω ρ} {id : CallId}
    (h : c.note? action = some (.drew a id)) :
    ∃ choice, action = .agent a choice ∧ c.Draws a := by
  cases noted_of_note? h with
  | drew hs => exact ⟨.go, rfl, _, _, _, rfl, hs⟩

/-- The next identifier changes only where one is drawn. -/
theorem nextId_of_step {c d : Channel ω ρ} {action : Action ω ρ} {events : List (Event ρ)}
    (h : c.step action = some (d, events)) : d.nextId = c.nextId ∨
      ∃ a choice, action = .agent a choice ∧ c.Draws a ∧ d.nextId = c.nextId + 1 := by
  obtain ⟨l, hturn, hends⟩ := step_turn h
  have hnext : d.nextId = l.nextId := hends.nextId
  rw [hnext]
  generalize hnote : c.note? action = note? at hturn
  cases hturn with
  | drew a hs =>
    obtain ⟨choice, haction, hdraws⟩ := draws_of_note? hnote
    exact .inr ⟨a, choice, haction, hdraws, rfl⟩
  | closed id => exact .inl (Ledger.settle_nextId _ _ _)
  | response id result => exact .inl (Ledger.settle_nextId _ _ _)
  | _ => exact .inl rfl

/-- The identifiers that are still to be drawn come after the one that has been skipped. When they
have come round there are none. -/
def Later (skipped id : CallId) : Prop := id = 0 ∨ skipped ≠ 0 ∧ skipped ≤ id

/-- The identifiers after one that has been skipped are the next ones. -/
theorem Later.skipping {id : CallId} (h : Later skipped id) (hid : id ≠ 0) :
    Renumbering.skipping skipped id = id + 1 := by
  obtain ⟨hskipped, hle⟩ := h.resolve_left hid
  change (if id = 0 then skipped else if id < skipped ∨ skipped = 0 then id else id + 1) = id + 1
  rw [if_neg hid, if_neg]
  rintro (hlt | hzero)
  · exact absurd hle (UInt64.not_le.mpr hlt)
  · exact hskipped hzero

theorem Later.succ {id : CallId} (h : Later skipped id) (hid : id ≠ 0) :
    Later skipped (id + 1) := by
  obtain ⟨hskipped, hle⟩ := h.resolve_left hid
  have hmax := id.toNat_lt
  refine (em (id + 1 = 0)).imp_right fun hsucc => ⟨hskipped, ?_⟩
  simp only [UInt64.le_iff_toNat_le, ← UInt64.toNat_inj, UInt64.toNat_add,
    UInt64.reduceToNat] at hle hsucc ⊢
  omega

/-! ## Agents that match -/

theorem intakesAlike_rename (intake : Intake) :
    IntakesAlike r c₁ c₂ (intake.rename r) intake := by
  cases intake with
  | frame taken => exact .frame (.same taken)
  | nothing => exact .nothing
  | part => exact .part
  | fault => exact .fault

theorem AgentsMatch.alike (hk : AgentsMatch skipped c₁ c₂ a choice₁ choice₂)
    (h : c₁.Alike (.skipping skipped) c₂) (hlater : Later skipped c₂.nextId) :
    AgentsAlike (.skipping skipped) c₁ c₂ a choice₁ choice₂ where
  sends := hk.sends
  intake ha _ := by
    rw [hk.intake ha]
    exact intakesAlike_rename _
  draws hd := by
    have hid := hk.ids hd
    rw [h.nextId, hlater.skipping hid]
    rfl

/-- A frame that is to be encoded now can be sent under both identifiers. -/
def fits (skipped : CallId) (c : Channel ω ρ) (a : Agent) : Bool :=
  match c.sending? a with
  | some (.encode frame) => (frame.wire c.setup.frameLimit).isOk &&
      ((frame.renameRequest (Renumbering.skipping skipped)).wire c.setup.frameLimit).isOk
  | _ => true

/-- An agent other than the reader goes on in the same way with what fits. -/
theorem AgentsMatch.go (ha : a ≠ .reader) (hfits : c₂.fits skipped a = true)
    (hid : c₂.nextId ≠ 0) : AgentsMatch skipped c₁ c₂ a .go .go where
  sends := by
    refine ⟨.same .go, nofun, fun frame hframe e => ?_⟩
    rw [fits, hframe, Bool.and_eq_true] at hfits
    obtain ⟨hok, hok'⟩ := hfits
    constructor
    · intro h
      rw [h] at hok'
      cases hok'
    · intro h
      rw [h] at hok
      cases hok
  intake hreader := absurd hreader ha
  ids _ := hid

/-- An agent writes the last of its bytes in both. -/
theorem AgentsMatch.write {count : ℕ} (ha : a ≠ .reader)
    (h₁ : c₁.completes (.agent a (.write count)) = true)
    (h₂ : c₂.completes (.agent a (.write count)) = true) (hid : c₂.nextId ≠ 0) :
    AgentsMatch skipped c₁ c₂ a (.write count) (.write count) where
  sends := by
    refine ⟨.same _, ?_, fun frame hframe => ?_⟩
    · rintro rest₁ rest₂ _ _ hrest₁ hrest₂ ⟨⟩ ⟨⟩
      simp only [completes, hrest₁, hrest₂, decide_eq_true_eq] at h₁ h₂
      exact iff_of_true h₁ h₂
    · simp [completes, hframe] at h₂
  intake hreader := absurd hreader ha
  ids _ := hid

/-! ## Channels alongside each other -/

theorem ActionsAlike.imp {P Q : Agent → Choice → Choice → Prop}
    (h : ActionsAlike P action₁ action₂) (hpq : ∀ a choice₁ choice₂, P a choice₁ choice₂ →
      Q a choice₁ choice₂) : ActionsAlike Q action₁ action₂ := by
  cases h with
  | agent h => exact .agent (hpq _ _ _ h)
  | deliver bytes₁ bytes₂ => exact .deliver bytes₁ bytes₂
  | endInput => exact .endInput
  | start routine => exact .start routine
  | elapse millis => exact .elapse millis

/-- Corresponding actions make moments that differ in nothing but identifiers. -/
theorem Alike.moment (h : c₁.Alike (.skipping skipped) c₂)
    (hm : ActionsAlike (AgentsMatch skipped c₁ c₂) action₁ action₂)
    (hk : ActionsAlike (AgentsAlike (.skipping skipped) c₁ c₂) action₁ action₂)
    {events₁ events₂ : List (Event ρ)} (he : List.Forall₂ Event.Alike events₁ events₂) :
    Moment.Alike (.skipping skipped) ⟨c₁, action₁, d₁, events₁⟩ ⟨c₂, action₂, d₂, events₂⟩ := by
  cases hk with
  | agent hk =>
    cases hm with
    | agent hm => exact ⟨h.note?_agent hk hm.intake, h.letter?_agent hk, h.completes_agent hk, he⟩
  | _ => exact ⟨rfl, rfl, rfl, he⟩

/-- Channels that are alike stay so alongside each other, and differ in nothing but identifiers at
each moment. -/
theorem Alike.alongside {pairs : List (Action ω ρ × Action ω ρ)}
    (h : c₁.Alike (.skipping skipped) c₂) (hlater : Later skipped c₂.nextId)
    (hp : Alongside skipped c₁ c₂ pairs) :
    (c₁.after (pairs.map Prod.fst)).Alike (.skipping skipped) (c₂.after (pairs.map Prod.snd)) ∧
      List.Forall₂ (Moment.Alike (.skipping skipped)) (c₁.moments (pairs.map Prod.fst))
        (c₂.moments (pairs.map Prod.snd)) := by
  induction pairs generalizing c₁ c₂ with
  | nil => exact ⟨h, .nil⟩
  | cons pair pairs ih =>
    obtain ⟨action₁, action₂⟩ := pair
    obtain ⟨hm, hp⟩ := hp
    have hk := hm.imp fun a _ _ hk => hk.alike h hlater
    have hstep := h.step hk
    simp only [List.map_cons]
    rcases h₁ : c₁.step action₁ with _ | ⟨d₁, events₁⟩
    · rcases h₂ : c₂.step action₂ with _ | ⟨d₂, events₂⟩
      · simp only [after_cons_of_disabled h₁, after_cons_of_disabled h₂, after_nil,
          moments_cons_of_disabled h₁, moments_cons_of_disabled h₂] at hp ⊢
        exact ih h hlater hp
      · rw [h₁, h₂] at hstep
        cases hstep
    · rcases h₂ : c₂.step action₂ with _ | ⟨d₂, events₂⟩
      · rw [h₁, h₂] at hstep
        cases hstep
      rw [h₁, h₂] at hstep
      obtain ⟨hd, he⟩ := Option.rel_some_some.mp hstep
      simp only [after_cons_of_step h₁, after_cons_of_step h₂, after_nil,
        moments_cons_of_step h₁, moments_cons_of_step h₂] at hp ⊢
      have hlater' : Later skipped d₂.nextId := by
        rcases nextId_of_step h₂ with hnext | ⟨a, choice, haction, hdraws, hnext⟩
        · rwa [hnext]
        · rw [hnext]
          subst haction
          cases hm with
          | agent hm => exact hlater.succ (hm.ids hdraws)
      obtain ⟨hafter, hmoments⟩ := ih hd hlater' hp
      exact ⟨hafter, .cons (h.moment hm hk he) hmoments⟩

/-- What a run shows. -/
def shownIn (c : Channel ω ρ) (actions : List (Action ω ρ)) : Trace ρ :=
  (c.moments actions).flatMap Moment.events

/-- Two runs differ in nothing but the identifiers of calls, and bytes: calls do and return the same,
the same frames join the line and are sent as a whole, the same is logged and reported, and everybody
has come equally far in the end. -/
structure SameRun (r : Renumbering) (c₁ c₂ : Channel ω ρ) (actions₁ actions₂ : List (Action ω ρ)) :
    Prop where
  history : c₁.history actions₁ = (c₂.history actions₂).map (Note.rename r)
  letters : (c₁.letters actions₁).map Letter.heading =
    (c₂.letters actions₂).map fun l => renameHeading r l.heading
  sent : (c₁.sent actions₁).map Letter.heading =
    (c₂.sent actions₂).map fun l => renameHeading r l.heading
  entries : (c₁.shownIn actions₁).entries = (c₂.shownIn actions₂).entries
  reports : (c₁.shownIn actions₁).reports = (c₂.shownIn actions₂).reports
  after : (c₁.after actions₁).Alike r (c₂.after actions₂)

theorem filterMap_of_forall₂ {α β γ δ ε : Type} {R : α → β → Prop} {f : α → Option γ}
    {g : β → Option δ} {k : γ → ε} {l : δ → ε} {as : List α} {bs : List β}
    (h : List.Forall₂ R as bs) (hfg : ∀ a b, R a b → (f a).map k = (g b).map l) :
    (as.filterMap f).map k = (bs.filterMap g).map l := by
  rw [← List.forall₂_eq_eq_eq, List.forall₂_map_left_iff, List.forall₂_map_right_iff]
  refine List.rel_filterMap (fun a b hab => ?_) h
  have heq := hfg a b hab
  rcases hf : f a with _ | x
  · rw [hf] at heq
    rw [Option.map_eq_none_iff.mp heq.symm]
    exact .none
  · rw [hf] at heq
    obtain ⟨y, hy, hxy⟩ := Option.map_eq_some_iff.mp heq.symm
    rw [hy]
    exact .some hxy.symm

theorem countP_of_forall₂ {α β : Type} {R : α → β → Prop} {p : α → Bool} {q : β → Bool}
    {as : List α} {bs : List β} (h : List.Forall₂ R as bs) (hpq : ∀ a b, R a b → p a = q b) :
    as.countP p = bs.countP q := by
  induction h with
  | nil => rfl
  | cons hab _ ih => rw [List.countP_cons, List.countP_cons, ih, hpq _ _ hab]

/-- Channels that are alike, driven alongside each other, make the same run. -/
theorem Alike.sameRun {pairs : List (Action ω ρ × Action ω ρ)}
    (h : c₁.Alike (.skipping skipped) c₂) (hlater : Later skipped c₂.nextId)
    (hp : Alongside skipped c₁ c₂ pairs) :
    SameRun (.skipping skipped) c₁ c₂ (pairs.map Prod.fst) (pairs.map Prod.snd) := by
  obtain ⟨hafter, hmoments⟩ := h.alongside hlater hp
  have hshown : List.Forall₂ Event.Alike (c₁.shownIn (pairs.map Prod.fst))
      (c₂.shownIn (pairs.map Prod.snd)) :=
    List.rel_flatMap hmoments fun _ _ hm => hm.events
  have hletters : (c₁.letters (pairs.map Prod.fst)).map Letter.heading =
      (c₂.letters (pairs.map Prod.snd)).map fun l =>
        renameHeading (Renumbering.skipping skipped) l.heading :=
    filterMap_of_forall₂ hmoments fun _ _ hm => hm.letter
  refine ⟨?_, hletters, ?_, ?_, ?_, hafter⟩
  · have hnotes : (c₁.history (pairs.map Prod.fst)).map id =
        (c₂.history (pairs.map Prod.snd)).map (Note.rename (Renumbering.skipping skipped)) :=
      filterMap_of_forall₂ hmoments fun m₁ m₂ hm => (Option.map_id_apply).trans hm.note
    rwa [List.map_id] at hnotes
  · rw [sent, sent, List.map_take, List.map_take, hletters,
      countP_of_forall₂ hmoments fun _ _ hm => hm.completes]
  · have hentries := filterMap_of_forall₂ (f := Event.entry?) (g := Event.entry?) (k := id) (l := id)
      hshown fun _ _ he => by cases he <;> rfl
    simpa [Trace.entries] using hentries
  · have hreports := filterMap_of_forall₂ (f := Event.report?) (g := Event.report?) (k := id)
      (l := id) hshown fun _ _ he => by cases he <;> rfl
    simpa [Trace.reports] using hreports

end Channel

end CommandLink
