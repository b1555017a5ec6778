import CommandLink.Proofs.Channel.Correlation

/-!
# Responses that have been taken from the stream

A call that has been answered has its result until it returns (`delivered_history`): the first
response with its identifier is kept for it, and nothing that comes after that can take its place.
-/

namespace CommandLink

variable {ω ρ : Type}

/-- An answer of a longer history is its last note, or it was there before. -/
theorem answered_of_concat {a : Agent} {answer : Except Failure Reply} {h : List Note} {note : Note}
    (ha : Answered a answer (h ++ [note])) :
    (∃ id since, note = .response id answer (some a) ∧ Registered a id since h) ∨
      (note.caller? ≠ some a ∧ Answered a answer h) := by
  obtain ⟨id, before, since, later, hreg, hfirst, heq, hapart⟩ := ha
  rcases append_cons_of_concat heq with ⟨rfl, rfl⟩ | ⟨later', rfl⟩
  · exact .inl ⟨id, since, rfl, hreg⟩
  · have hlater : later = later' ++ [note] := by simpa using heq.symm
    subst hlater
    refine .inr ⟨hapart note (by simp), id, before, since, later', hreg, hfirst, rfl,
      fun n hn => hapart n (List.mem_append_left _ hn)⟩

/-- A call that has been answered has its result, and waits for no other. -/
def Delivered (l : Ledger) (h : List Note) : Prop :=
  ∀ a answer id failure, Answered a answer h → l.standing a = .waiting id failure →
    l.arrived.get? a = some (received answer) ∧ ∀ id', l.pending.get? id' ≠ some a

section Invariant

variable {l l' : Ledger} {h : List Note} {note? : Option Note}

theorem Delivered.ends (hd : Delivered l h) (he : Ledger.Ends l l') : Delivered l' h := by
  intro a answer id failure ha hs
  rw [he.arrived, he.pending]
  rcases he.standing a with hsame | hended
  · exact hd a answer id failure ha (hsame ▸ hs)
  · rw [hs] at hended
    cases hended

/-- What is left of what every call has, when one goes on and the others are left as they are. -/
theorem Delivered.stand (hd : Delivered l h) {a : Agent} {s : Standing}
    (hs : l'.standing = l.standing)
    (hp : ∀ id b, b ≠ a → l'.pending.get? id = some b → l.pending.get? id = some b)
    (harr : ∀ b, b ≠ a → l'.arrived.get? b = l.arrived.get? b)
    (hn : ∀ note ∈ note?, note.caller? = some a)
    (hself : note? = none → ∀ answer id failure, Answered a answer h → s = .waiting id failure →
      l'.arrived.get? a = some (received answer) ∧ ∀ id', l'.pending.get? id' ≠ some a) :
    Delivered (l'.stand a s) (h ++ note?.toList) := by
  intro b answer id failure hb hwaiting
  have hold : note? = none ∨ b ≠ a → Answered b answer h := by
    intro hcase
    rcases note? with _ | note
    · rwa [Option.toList_none, List.append_nil] at hb
    · rcases answered_of_concat hb with ⟨id', since, rfl, -⟩ | ⟨-, hwas⟩
      · cases hn _ rfl
      · exact hwas
  by_cases hba : b = a
  · subst hba
    rcases note? with _ | note
    · rw [Ledger.stand_standing_self] at hwaiting
      exact hself rfl answer id failure (hold (.inl rfl)) hwaiting
    · -- The call has gone on, so it has not been answered since.
      rcases answered_of_concat hb with ⟨id', since, rfl, -⟩ | ⟨hcaller, -⟩
      · cases hn _ rfl
      · exact absurd (hn note rfl) hcaller
  · rw [Ledger.stand_standing_of_ne hba, hs] at hwaiting
    obtain ⟨harrived, hpending⟩ := hd b answer id failure (hold (.inr hba)) hwaiting
    exact ⟨(harr b hba).trans harrived, fun id' hp' => hpending id' (hp id' b hba hp')⟩

/-- The call that waits under an identifier gets its result, and it is the one that it has been
answered with. -/
theorem Delivered.settle (hw : Waits l) (hd : Delivered l h) {id : CallId}
    {result : Except ChannelError Reply}
    (hnote : note? = none ∨ ∃ answer, note? = some (.response id answer (l.pending.get? id)) ∧
      result = received answer) : Delivered (l.settle id result) (h ++ note?.toList) := by
  intro a answer id' failure ha hs
  rw [Ledger.settle_standing] at hs
  have hkept : Answered a answer h → (l.settle id result).arrived.get? a = some (received answer) ∧
      ∀ id', (l.settle id result).pending.get? id' ≠ some a := by
    intro hwas
    obtain ⟨harrived, hpending⟩ := hd a answer id' failure hwas hs
    exact ⟨(Ledger.get?_arrived_of_settle (hpending id)).trans harrived,
      fun id'' hp => hpending id'' (Ledger.get?_pending_of_settle hp).1⟩
  rcases hnote with rfl | ⟨answer', rfl, rfl⟩
  · rw [Option.toList_none, List.append_nil] at ha
    exact hkept ha
  · rcases answered_of_concat ha with ⟨id'', since, heq, -⟩ | ⟨-, hwas⟩
    · rw [Note.response.injEq] at heq
      obtain ⟨rfl, rfl, hp⟩ := heq
      refine ⟨Ledger.get?_arrived_settle hp, fun id'' hp'' => ?_⟩
      obtain ⟨hp'', hne⟩ := Ledger.get?_pending_of_settle hp''
      exact hne ((hw.id_eq hs hp'').trans (hw.id_eq hs hp).symm)
    · exact hkept hwas

theorem Delivered.turn (hw : Waits l) (hd : Delivered l h) (ht : Turn l note? l') :
    Delivered l' (h ++ note?.toList) := by
  cases ht with
  | rest => rwa [Option.toList_none, List.append_nil]
  | closed id => exact Delivered.settle hw hd (.inl rfl)
  | response id result => exact Delivered.settle hw hd (.inr ⟨result, rfl, rfl⟩)
  | registered a id hs =>
    refine hd.stand rfl (fun id' b hb hp => ?_) (fun b hb => ?_) (by simp [Note.caller?]) (by simp)
    · rw [Table.get?_insert] at hp
      split_ifs at hp
      · exact absurd (Option.some.inj hp).symm hb
      · exact hp
    · rw [Table.get?_erase, if_neg hb]
  | failed a id e hs he =>
    refine hd.stand rfl (fun _ _ _ hp => hp) (fun _ _ => rfl) (by simp) ?_
    rintro - answer id' failure ha heq
    cases heq
    exact hd a answer id none ha hs
  | broke a id e hs =>
    refine hd.stand rfl (fun _ _ _ hp => Ledger.get?_pending_of_forget hp) (fun _ _ => rfl)
      (by simp) ?_
    rintro - answer id' failure - heq
    cases heq
  | withdrew =>
    exact hd.stand rfl (fun _ _ _ hp => Ledger.get?_pending_of_forget hp) (fun _ _ => rfl)
      (by simp [Note.caller?]) (by simp)
  | returned =>
    refine hd.stand rfl (fun _ _ _ hp => hp) (fun b hb => ?_) (by simp [Note.caller?]) (by simp)
    rw [Table.get?_erase, if_neg hb]
  | began | drew | refused | lost | gaveUp =>
    exact hd.stand rfl (fun _ _ _ hp => hp) (fun _ _ => rfl) (by simp [Note.caller?]) (by simp)

end Invariant

/-- **A call that has been answered keeps its result**, in every run. -/
theorem Channel.delivered_history (setup : ChannelSetup ω ρ) (world : ω) (guarded : Bool)
    (actions : List (Action ω ρ)) :
    Delivered ((start setup world guarded).after actions).ledger
      ((start setup world guarded).history actions) := by
  refine (ledger_induction (P := fun l h => Waits l ∧ Delivered l h) setup world guarded
    ⟨(sound_start setup world guarded).waits, ?_⟩ ?_ ?_ actions).2
  · rintro a answer id failure ⟨_, before, since, later, -, -, heq, -⟩
    exact absurd heq (by simp)
  · exact fun l l' h note? ⟨hw, hd⟩ ht => ⟨hw.turn ht, hd.turn hw ht⟩
  · exact fun l l' h ⟨hw, hd⟩ he => ⟨hw.ends he, hd.ends he⟩

end CommandLink
