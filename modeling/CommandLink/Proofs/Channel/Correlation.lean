import CommandLink.Proofs.Channel.History

/-!
# Calls and their responses

What identifiers are for (`calls_correlated`). Whatever the other end sends, in whatever order the
agents of a channel act: no two calls have one identifier, as long as there are identifiers; a call
returns what the other end says only if that is the first response with its identifier since it
waits; it returns once; and a response that no call waits for changes nothing.

The proof follows the turns of the ledger. `Numbered`, `Waits`, `Balanced`, `Called` and `Paid` are
what every turn preserves, each with what it says about the history so far.
-/

namespace CommandLink

variable {ω ρ : Type}

/-! ## Identifiers -/

/-- The identifiers have been drawn one after the other, and each is registered once at most. -/
structure Numbered (l : Ledger) (h : List Note) : Prop where
  next : l.nextId = UInt64.ofNat ((drawnIds h).length + 1)
  drawn : drawnIds h = (List.range (drawnIds h).length).map fun i => UInt64.ofNat (i + 1)
  registered : (drawnIds h).Nodup → (registeredIds h).Nodup ∧ registeredIds h ⊆ drawnIds h ∧
    (∀ a id, l.standing a = .drawn id → id ∈ drawnIds h ∧ id ∉ registeredIds h) ∧
    ∀ a b id, l.standing a = .drawn id → l.standing b = .drawn id → a = b

/-- There are as many identifiers as words of 64 bits. -/
theorem Numbered.nodup {l : Ledger} {h : List Note} (hn : Numbered l h)
    (hlen : (drawnIds h).length ≤ UInt64.size) : (drawnIds h).Nodup := by
  rw [UInt64.size] at hlen
  rw [hn.drawn]
  refine List.Nodup.map_on ?_ List.nodup_range
  intro i hi j hj heq
  rw [List.mem_range] at hi hj
  have hnat := congrArg UInt64.toNat heq
  rw [UInt64.toNat_ofNat', UInt64.toNat_ofNat'] at hnat
  omega

section Invariants

variable {l l' : Ledger} {h : List Note} {note? : Option Note}

theorem drawnIds_append (note? : Option Note) (hd : note?.bind Note.drawn? = none) :
    drawnIds (h ++ note?.toList) = drawnIds h := by
  rcases note? with _ | note
  · exact congrArg drawnIds (List.append_nil h)
  · rw [Option.bind_some] at hd
    simp [drawnIds, hd]

theorem registeredIds_append (note? : Option Note) (hr : note?.bind Note.registered? = none) :
    registeredIds (h ++ note?.toList) = registeredIds h := by
  rcases note? with _ | note
  · exact congrArg registeredIds (List.append_nil h)
  · rw [Option.bind_some] at hr
    simp [registeredIds, hr]

/-- A turn that neither draws nor registers an identifier leaves the identifiers as they are. -/
theorem Numbered.frame (hn : Numbered l h) (hd : note?.bind Note.drawn? = none)
    (hr : note?.bind Note.registered? = none) (hnext : l'.nextId = l.nextId)
    (hs : ∀ a id, l'.standing a = .drawn id → l.standing a = .drawn id) :
    Numbered l' (h ++ note?.toList) where
  next := by rw [drawnIds_append note? hd, hnext, hn.next]
  drawn := by rw [drawnIds_append note? hd, ← hn.drawn]
  registered := by
    rw [drawnIds_append note? hd, registeredIds_append note? hr]
    intro hnodup
    obtain ⟨honce, hsub, hdrawn, hunique⟩ := hn.registered hnodup
    exact ⟨honce, hsub, fun a id ha => hdrawn a id (hs a id ha),
      fun a b id ha hb => hunique a b id (hs a id ha) (hs b id hb)⟩

theorem Numbered.drew (hn : Numbered l h) (a : Agent) :
    Numbered ({ l with nextId := l.nextId + 1 }.stand a (.drawn l.nextId))
      (h ++ [.drew a l.nextId]) := by
  have hd : drawnIds (h ++ [.drew a l.nextId]) = drawnIds h ++ [l.nextId] := by
    simp [drawnIds, Note.drawn?]
  have hr : registeredIds (h ++ [.drew a l.nextId]) = registeredIds h :=
    registeredIds_append (some _) rfl
  refine ⟨?_, ?_, ?_⟩
  · rw [hd, List.length_append, List.length_singleton, Ledger.stand_nextId, UInt64.ofNat_add,
      ← hn.next]
    rfl
  · rw [hd, List.length_append, List.length_singleton, List.range_succ, List.map_append, ← hn.drawn,
      hn.next]
    rfl
  · rw [hd, hr, List.nodup_append]
    rintro ⟨hnodup, -, hfresh⟩
    obtain ⟨honce, hsub, hdrawn, hunique⟩ := hn.registered hnodup
    have hnew : l.nextId ∉ drawnIds h := fun hmem =>
      hfresh _ hmem _ (List.mem_singleton_self _) rfl
    have hother : ∀ {b id}, b ≠ a →
        ({ l with nextId := l.nextId + 1 }.stand a (.drawn l.nextId)).standing b = .drawn id →
        l.standing b = .drawn id := by
      intro b id hb hs
      rwa [Ledger.stand_standing_of_ne hb] at hs
    have hself : ∀ {id},
        ({ l with nextId := l.nextId + 1 }.stand a (.drawn l.nextId)).standing a = .drawn id →
        id = l.nextId := by
      intro id hs
      rw [Ledger.stand_standing_self] at hs
      cases hs
      rfl
    refine ⟨honce, fun id hid => List.mem_append_left _ (hsub hid), ?_, ?_⟩
    · intro b id hs
      by_cases hb : b = a
      · subst hb
        rw [hself hs]
        exact ⟨by simp, fun hmem => hnew (hsub hmem)⟩
      · obtain ⟨hmem, hnot⟩ := hdrawn b id (hother hb hs)
        exact ⟨List.mem_append_left _ hmem, hnot⟩
    · intro b b' id hs hs'
      by_cases hb : b = a
      · subst hb
        by_cases hb' : b' = b
        · exact hb'.symm
        · rw [hself hs] at hs'
          exact absurd (hdrawn b' _ (hother hb' hs')).1 hnew
      · by_cases hb' : b' = a
        · subst hb'
          rw [hself hs'] at hs
          exact absurd (hdrawn b _ (hother hb hs)).1 hnew
        · exact hunique b b' id (hother hb hs) (hother hb' hs')

theorem Numbered.register (hn : Numbered l h) {a : Agent} {id : CallId}
    (hs : l.standing a = .drawn id) (hnext : l'.nextId = l.nextId)
    (hs' : ∀ b id', l'.standing b = .drawn id' → b ≠ a ∧ l.standing b = .drawn id') :
    Numbered l' (h ++ [.registered a id]) := by
  have hd : drawnIds (h ++ [.registered a id]) = drawnIds h :=
    drawnIds_append (some _) rfl
  have hr : registeredIds (h ++ [.registered a id]) = registeredIds h ++ [id] := by
    simp [registeredIds, Note.registered?]
  refine ⟨by rw [hd, hnext, hn.next], by rw [hd, ← hn.drawn], ?_⟩
  rw [hd, hr]
  intro hnodup
  obtain ⟨honce, hsub, hdrawn, hunique⟩ := hn.registered hnodup
  obtain ⟨hmem, hnot⟩ := hdrawn a id hs
  refine ⟨?_, ?_, ?_, ?_⟩
  · rw [List.nodup_append]
    refine ⟨honce, List.nodup_singleton id, ?_⟩
    rintro x hx y hy rfl
    rw [List.mem_singleton] at hy
    exact hnot (hy ▸ hx)
  · intro x hx
    rw [List.mem_append, List.mem_singleton] at hx
    rcases hx with hx | rfl
    · exact hsub hx
    · exact hmem
  · intro b id' hb
    obtain ⟨hne, hb⟩ := hs' b id' hb
    obtain ⟨hmem', hnot'⟩ := hdrawn b id' hb
    refine ⟨hmem', fun hx => ?_⟩
    rw [List.mem_append, List.mem_singleton] at hx
    rcases hx with hx | rfl
    · exact hnot' hx
    · exact hne (hunique b a _ hb hs)
  · intro b b' id' hb hb'
    exact hunique b b' id' (hs' b id' hb).2 (hs' b' id' hb').2

/-! ## Who waits -/

/-- Only a call that has come this far waits for a response, and none does that has a result. -/
structure Waits (l : Ledger) : Prop where
  standing : ∀ id a, l.pending.get? id = some a →
    (∃ failure, l.standing a = .waiting id failure) ∨ l.standing a = .ended
  arrived : ∀ a id failure, l.standing a = .waiting id failure → (l.arrived.get? a).isSome →
    l.pending.get? id ≠ some a

theorem Waits.not_pending (hw : Waits l) {a : Agent}
    (hs : ∀ id failure, l.standing a ≠ .waiting id failure) (he : l.standing a ≠ .ended)
    (id : CallId) : l.pending.get? id ≠ some a := by
  intro hp
  rcases hw.standing id a hp with ⟨failure, hf⟩ | hended
  · exact hs id failure hf
  · exact he hended

theorem Waits.id_eq (hw : Waits l) {a : Agent} {id id' : CallId} {failure : Option ChannelError}
    (hs : l.standing a = .waiting id failure) (hp : l.pending.get? id' = some a) : id' = id := by
  rcases hw.standing id' a hp with ⟨failure', hf⟩ | hended
  · rw [hs] at hf
    cases hf
    rfl
  · rw [hs] at hended
    cases hended

theorem Waits.ends (hw : Waits l) (he : Ledger.Ends l l') : Waits l' where
  standing id a hp := by
    rw [he.pending] at hp
    rcases he.standing a with hs | hs
    · rw [hs]
      exact hw.standing id a hp
    · exact .inr hs
  arrived a id failure hs ha := by
    rw [he.pending]
    rw [he.arrived] at ha
    rcases he.standing a with hs' | hs'
    · exact hw.arrived a id failure (hs'.symm.trans hs) ha
    · rw [hs] at hs'
      cases hs'

/-- The call of an agent goes on, and the others are left as they are. -/
theorem Waits.stand (hw : Waits l) {a : Agent} {s : Standing} (hs : l'.standing = l.standing)
    (hp : ∀ id b, b ≠ a → l'.pending.get? id = some b → l.pending.get? id = some b)
    (harr : ∀ b, b ≠ a → l'.arrived.get? b = l.arrived.get? b)
    (hself : ∀ id, l'.pending.get? id = some a →
      (∃ failure, s = .waiting id failure) ∧ (l'.arrived.get? a).isSome = false) :
    Waits (l'.stand a s) where
  standing id b hb := by
    by_cases hba : b = a
    · subst hba
      obtain ⟨failure, hf⟩ := (hself id hb).1
      exact .inl ⟨failure, (Ledger.stand_standing_self l' b s).trans hf⟩
    · rw [Ledger.stand_standing_of_ne hba, hs]
      exact hw.standing id b (hp id b hba hb)
  arrived b id failure hb ha hp' := by
    by_cases hba : b = a
    · subst hba
      exact absurd ha (by simp [(hself id hp').2])
    · rw [Ledger.stand_standing_of_ne hba, hs] at hb
      rw [Ledger.stand_arrived, harr b hba] at ha
      exact hw.arrived b id failure hb ha (hp id b hba hp')

/-- The call of an agent that does not wait goes on. -/
theorem Waits.stand_of_not_pending (hw : Waits l) {a : Agent} {s : Standing}
    (hs : l'.standing = l.standing) (hp : l'.pending = l.pending) (harr : l'.arrived = l.arrived)
    (hnot : ∀ id, l.pending.get? id ≠ some a) : Waits (l'.stand a s) := by
  refine hw.stand hs (fun id b _ hb => ?_) (fun b _ => by rw [harr]) fun id hb => ?_
  · rwa [hp] at hb
  · rw [hp] at hb
    exact absurd hb (hnot id)

/-- A call that has waited is forgotten and goes on. -/
theorem Waits.stand_forget (hw : Waits l) {a : Agent} {id : CallId}
    {failure : Option ChannelError} {s : Standing} (hs : l.standing a = .waiting id failure) :
    Waits ((l.forget id).stand a s) := by
  refine hw.stand rfl (fun id' b _ hp => ?_) (fun _ _ => rfl) fun id' hp => ?_
  · simp only [Ledger.forget, Table.get?_erase] at hp
    split_ifs at hp
    exact hp
  · simp only [Ledger.forget, Table.get?_erase] at hp
    split_ifs at hp with hid
    exact absurd (hw.id_eq hs hp) hid

theorem Ledger.get?_pending_of_settle {id id' : CallId} {result : Except ChannelError Reply}
    {a : Agent} (hp : (l.settle id result).pending.get? id' = some a) :
    l.pending.get? id' = some a ∧ id' ≠ id := by
  unfold Ledger.settle at hp
  split at hp
  · rw [Table.get?_erase] at hp
    split_ifs at hp with hid
    exact ⟨hp, hid⟩
  · rename_i hnone
    refine ⟨hp, ?_⟩
    rintro rfl
    rw [hnone] at hp
    cases hp

theorem Ledger.get?_arrived_of_settle {id : CallId} {result : Except ChannelError Reply} {a : Agent}
    (hp : l.pending.get? id ≠ some a) : (l.settle id result).arrived.get? a = l.arrived.get? a := by
  unfold Ledger.settle
  split
  · rename_i b hb
    rw [Table.get?_insert, if_neg]
    rintro rfl
    exact hp hb
  · rfl

theorem Ledger.get?_arrived_settle {id : CallId} {result : Except ChannelError Reply} {a : Agent}
    (hp : l.pending.get? id = some a) : (l.settle id result).arrived.get? a = some result := by
  unfold Ledger.settle
  simp [hp]

theorem Waits.settle (hw : Waits l) (id : CallId) (result : Except ChannelError Reply) :
    Waits (l.settle id result) where
  standing id' a hp := by
    rw [Ledger.settle_standing]
    exact hw.standing id' a (Ledger.get?_pending_of_settle hp).1
  arrived a id' failure hs ha hp := by
    rw [Ledger.settle_standing] at hs
    obtain ⟨hp', hne⟩ := Ledger.get?_pending_of_settle hp
    have hother : l.pending.get? id ≠ some a := fun hid => hne (hw.id_eq hs hid).symm
    rw [Ledger.get?_arrived_of_settle hother] at ha
    exact hw.arrived a id' failure hs ha hp'

theorem Waits.turn (hw : Waits l) (ht : Turn l note? l') : Waits l' := by
  cases ht with
  | rest => exact hw
  | closed id => exact hw.settle id _
  | response id => exact hw.settle id _
  | began a call h =>
    exact hw.stand_of_not_pending rfl rfl rfl (hw.not_pending (by simp [h]) (by simp [h]))
  | drew a h =>
    exact hw.stand_of_not_pending rfl rfl rfl (hw.not_pending (by simp [h]) (by simp [h]))
  | registered a id h =>
    refine hw.stand rfl (fun id' b hb hp => ?_) (fun b hb => ?_) fun id' hp => ?_
    · rw [Table.get?_insert] at hp
      split_ifs at hp
      · exact absurd (Option.some.inj hp).symm hb
      · exact hp
    · rw [Table.get?_erase, if_neg hb]
    · rw [Table.get?_insert] at hp
      split_ifs at hp with hid
      · exact ⟨⟨none, by rw [hid]⟩, by simp⟩
      · exact absurd hp (hw.not_pending (by simp [h]) (by simp [h]) id')
  | failed a id e h he =>
    refine hw.stand rfl (fun _ _ _ hb => hb) (fun _ _ => rfl) fun id' hp => ?_
    obtain rfl := hw.id_eq h hp
    refine ⟨⟨some e, rfl⟩, ?_⟩
    by_contra ha
    rw [Bool.not_eq_false] at ha
    exact hw.arrived a _ none h ha hp
  | broke a id e h => exact hw.stand_forget h
  | refused a h =>
    exact hw.stand_of_not_pending rfl rfl rfl (hw.not_pending (by simp [h]) (by simp [h]))
  | withdrew a id failure h => exact hw.stand_forget h
  | returned a id result h hr =>
    refine hw.stand rfl (fun _ _ _ hb => hb) (fun b hb => ?_) fun id' hp => ?_
    · rw [Table.get?_erase, if_neg hb]
    · obtain rfl := hw.id_eq h hp
      exact absurd hp (hw.arrived a _ none h (by simp [hr]))
  | lost a id h hp =>
    refine hw.stand_of_not_pending rfl rfl rfl fun id' hp' => ?_
    obtain rfl := hw.id_eq h hp'
    exact hp hp'
  | gaveUp a e h =>
    exact hw.stand_of_not_pending rfl rfl rfl (hw.not_pending (by simp [h]) (by simp [h]))

/-! ## How often calls return -/

/-- Whether an agent is in the middle of a call. -/
def Standing.calls : Standing → Bool
  | .idle => false
  | .ended => false
  | _ => true

/-- The calls of an agent return one after the other, but for one that it may be in the middle
of. -/
structure Balanced (l : Ledger) (h : List Note) : Prop where
  le : ∀ a, h.countP (Note.completes a) ≤ h.countP (Note.begins a)
  le_succ : ∀ a, h.countP (Note.begins a) ≤ h.countP (Note.completes a) + 1
  eq : ∀ a, l.standing a ≠ .ended →
    h.countP (Note.begins a) = h.countP (Note.completes a) + (l.standing a).calls.toNat

theorem Balanced.ends (hb : Balanced l h) (he : Ledger.Ends l l') : Balanced l' h where
  le := hb.le
  le_succ := hb.le_succ
  eq a ha := by
    rcases he.standing a with hs | hs
    · rw [hs]
      exact hb.eq a (hs ▸ ha)
    · exact absurd hs ha

/-- What happens to the calls of others does not count. -/
theorem countP_append_of_apart {a : Agent} (hn : ∀ note ∈ note?, note.caller? ≠ some a) :
    (h ++ note?.toList).countP (Note.begins a) = h.countP (Note.begins a) ∧
      (h ++ note?.toList).countP (Note.completes a) = h.countP (Note.completes a) := by
  rcases note? with _ | note
  · rw [Option.toList_none, List.append_nil]
    exact ⟨rfl, rfl⟩
  · have hcaller : note.caller? ≠ some a := hn note rfl
    simp [Note.begins_eq_false hcaller, Note.completes_eq_false hcaller]

/-- A turn in which no agent's call goes on does not count. -/
theorem Balanced.frame (hb : Balanced l h) (hs : l'.standing = l.standing)
    (hn : ∀ a, ∀ note ∈ note?, note.caller? ≠ some a) : Balanced l' (h ++ note?.toList) where
  le a := by
    rw [(countP_append_of_apart (hn a)).1, (countP_append_of_apart (hn a)).2]
    exact hb.le a
  le_succ a := by
    rw [(countP_append_of_apart (hn a)).1, (countP_append_of_apart (hn a)).2]
    exact hb.le_succ a
  eq a ha := by
    rw [(countP_append_of_apart (hn a)).1, (countP_append_of_apart (hn a)).2, hs]
    exact hb.eq a (by rwa [hs] at ha)

/-- The call of one agent goes on, and the count with it. -/
theorem Balanced.stand (hb : Balanced l h) {a : Agent} {s : Standing}
    (hs : l'.standing = l.standing) (hne : l.standing a ≠ .ended)
    (hn : ∀ b, b ≠ a → ∀ note ∈ note?, note.caller? ≠ some b)
    (hcount : note?.toList.countP (Note.begins a) + (l.standing a).calls.toNat =
      note?.toList.countP (Note.completes a) + s.calls.toNat) :
    Balanced (l'.stand a s) (h ++ note?.toList) := by
  have hself : (h ++ note?.toList).countP (Note.begins a) =
      (h ++ note?.toList).countP (Note.completes a) + s.calls.toNat := by
    rw [List.countP_append, List.countP_append, hb.eq a hne]
    omega
  have hle := Bool.toNat_le s.calls
  refine ⟨fun b => ?_, fun b => ?_, fun b hended => ?_⟩
  · by_cases hba : b = a
    · subst hba
      omega
    · rw [(countP_append_of_apart (hn b hba)).1, (countP_append_of_apart (hn b hba)).2]
      exact hb.le b
  · by_cases hba : b = a
    · subst hba
      omega
    · rw [(countP_append_of_apart (hn b hba)).1, (countP_append_of_apart (hn b hba)).2]
      exact hb.le_succ b
  · by_cases hba : b = a
    · subst hba
      rw [Ledger.stand_standing_self]
      exact hself
    · rw [Ledger.stand_standing_of_ne hba, hs] at hended ⊢
      rw [(countP_append_of_apart (hn b hba)).1, (countP_append_of_apart (hn b hba)).2]
      exact hb.eq b hended

theorem Balanced.turn (hb : Balanced l h) (ht : Turn l note? l') :
    Balanced l' (h ++ note?.toList) := by
  cases ht with
  | rest => exact hb.frame rfl (by simp)
  | closed id => exact hb.frame (Ledger.settle_standing l id _) (by simp)
  | response id => exact hb.frame (Ledger.settle_standing l id _) (by simp [Note.caller?])
  | began a call hs | drew a hs | registered a id hs | failed a id e hs | broke a id e hs
  | refused a hs | withdrew a id failure hs | returned a id result hs | lost a id hs
  | gaveUp a e hs =>
    refine hb.stand rfl (by simp [hs]) ?_ ?_
    · simp +contextual [Note.caller?, eq_comm]
    · simp [hs, Standing.calls, Note.begins, Note.completes]

/-! ## Where calls get their results from -/

/-- What has become of the result of a call that waits. -/
inductive Slot (l : Ledger) (h : List Note) (a : Agent) (id : CallId) : Prop
  /-- There is none, and there has been no response while the call waits. -/
  | empty (since : List Note) (registered : Registered a id since h)
    (arrived : l.arrived.get? a = none)
    (first : l.pending.get? id = some a → ∀ note ∈ since, note.respondsTo id = false)
  /-- The channel has closed. -/
  | closed (arrived : l.arrived.get? a = some (.error .closed))
    (pending : l.pending.get? id ≠ some a)
  | answered (result : Except Failure Reply) (answered : Answered a result h)
    (arrived : l.arrived.get? a = some (received result)) (pending : l.pending.get? id ≠ some a)

/-- How far the call of an agent has come, by the history and by the ledger. -/
structure Called (l : Ledger) (h : List Note) (a : Agent) : Prop where
  opened : l.standing a = .opened → Opened a h
  drawn : ∀ id, l.standing a = .drawn id → Drawn a id h
  waiting : ∀ id failure, l.standing a = .waiting id failure → Slot l h a id
  failed : ∀ id e message, l.standing a = .waiting id (some e) → e ≠ .remote message
  closing : ∀ e message, l.standing a = .closing e → e ≠ .remote message

theorem Slot.ends {a : Agent} {id : CallId} (hslot : Slot l h a id) (he : Ledger.Ends l l') :
    Slot l' h a id := by
  rcases hslot with ⟨since, hr, ha, hf⟩ | ⟨ha, hp⟩ | ⟨result, hr, ha, hp⟩
  · exact .empty since hr (by rw [he.arrived, ha]) (by rw [he.pending]; exact hf)
  · exact .closed (by rw [he.arrived, ha]) (by rw [he.pending]; exact hp)
  · exact .answered result hr (by rw [he.arrived, ha]) (by rw [he.pending]; exact hp)

theorem Called.ends {a : Agent} (hc : Called l h a) (he : Ledger.Ends l l') : Called l' h a := by
  rcases he.standing a with hs | hs
  · exact {
      opened := fun ho => hc.opened (hs ▸ ho)
      drawn := fun id hd => hc.drawn id (hs ▸ hd)
      waiting := fun id failure hw => (hc.waiting id failure (hs ▸ hw)).ends he
      failed := fun id e message hw => hc.failed id e message (hs ▸ hw)
      closing := fun e message hw => hc.closing e message (hs ▸ hw) }
  · refine ⟨?_, ?_, ?_, ?_, ?_⟩
    all_goals simp [hs]

/-- What happens to the call of an agent while others act: nothing, but that the call may no longer
wait. -/
theorem Slot.frame {a : Agent} {id : CallId} (hslot : Slot l h a id)
    (ha : l'.arrived.get? a = l.arrived.get? a)
    (hp : l'.pending.get? id = some a → l.pending.get? id = some a)
    (hn : ∀ note ∈ note?, note.caller? ≠ some a)
    (hr : ∀ note ∈ note?, note.respondsTo id = true → l'.pending.get? id ≠ some a) :
    Slot l' (h ++ note?.toList) a id := by
  rcases note? with _ | note
  · rw [Option.toList_none, List.append_nil]
    rcases hslot with ⟨since, hreg, harr, hfirst⟩ | ⟨harr, hpend⟩ | ⟨result, hans, harr, hpend⟩
    · exact .empty since hreg (ha.trans harr) fun hp' => hfirst (hp hp')
    · exact .closed (ha.trans harr) fun hp' => hpend (hp hp')
    · exact .answered result hans (ha.trans harr) fun hp' => hpend (hp hp')
  · have hcaller : note.caller? ≠ some a := hn note rfl
    rcases hslot with ⟨since, hreg, harr, hfirst⟩ | ⟨harr, hpend⟩ | ⟨result, hans, harr, hpend⟩
    · refine .empty (since ++ [note]) (hreg.concat hcaller) (ha.trans harr) fun hp' n hmem => ?_
      rw [List.mem_append, List.mem_singleton] at hmem
      rcases hmem with hmem | rfl
      · exact hfirst (hp hp') n hmem
      · rw [← Bool.not_eq_true]
        exact fun hres => hr n rfl hres hp'
    · exact .closed (ha.trans harr) fun hp' => hpend (hp hp')
    · exact .answered result (hans.concat hcaller) (ha.trans harr) fun hp' => hpend (hp hp')

/-- What happens to an agent while others act. -/
theorem Called.frame {a : Agent} (hc : Called l h a) (hs : l'.standing a = l.standing a)
    (ha : l'.arrived.get? a = l.arrived.get? a)
    (hp : ∀ id, l'.pending.get? id = some a → l.pending.get? id = some a)
    (hn : ∀ note ∈ note?, note.caller? ≠ some a)
    (hr : ∀ id, ∀ note ∈ note?, note.respondsTo id = true → l'.pending.get? id ≠ some a) :
    Called l' (h ++ note?.toList) a where
  opened ho := by
    rw [hs] at ho
    rcases note? with _ | note
    · rw [Option.toList_none, List.append_nil]
      exact hc.opened ho
    · exact (hc.opened ho).concat (hn note rfl)
  drawn id hd := by
    rw [hs] at hd
    rcases note? with _ | note
    · rw [Option.toList_none, List.append_nil]
      exact hc.drawn id hd
    · exact (hc.drawn id hd).concat (hn note rfl)
  waiting id failure hw := by
    rw [hs] at hw
    exact (hc.waiting id failure hw).frame ha (hp id) hn (hr id)
  failed id e message hw := hc.failed id e message (hs ▸ hw)
  closing e message hw := hc.closing e message (hs ▸ hw)

/-- The call that waits under an identifier gets its result; other calls do not. -/
theorem Called.settle (hw : Waits l) (hc : ∀ a, Called l h a) {id : CallId}
    {result : Except ChannelError Reply} {note? : Option Note}
    (hnote : (note? = none ∧ result = .error .closed) ∨
      ∃ answer, note? = some (.response id answer (l.pending.get? id)) ∧ result = received answer)
    (a : Agent) : Called (l.settle id result) (h ++ note?.toList) a := by
  have hcaller : ∀ note ∈ note?, note.caller? ≠ some a := by
    rcases hnote with ⟨rfl, -⟩ | ⟨answer, rfl, -⟩
    · simp
    · simp [Note.caller?]
  by_cases hp : l.pending.get? id = some a
  · -- This is the call that waits: until now there was nothing for it.
    have hslot : ∀ id' failure, l.standing a = .waiting id' failure →
        Slot (l.settle id result) (h ++ note?.toList) a id' := by
      intro id' failure hs
      obtain rfl := hw.id_eq hs hp
      have hgone : (l.settle id result).pending.get? id ≠ some a := fun hp' =>
        (Ledger.get?_pending_of_settle hp').2 rfl
      have harrived : (l.settle id result).arrived.get? a = some result :=
        Ledger.get?_arrived_settle hp
      rcases (hc a).waiting id failure hs with ⟨since, hreg, -, hfirst⟩ | ⟨-, hnot⟩ | ⟨_, -, -, hnot⟩
      · rcases hnote with ⟨rfl, rfl⟩ | ⟨answer, rfl, rfl⟩
        · exact .closed harrived hgone
        · refine .answered answer ?_ harrived hgone
          rw [hp]
          exact hreg.answered (hfirst hp)
      · exact absurd hp hnot
      · exact absurd hp hnot
    rcases hw.standing id a hp with ⟨failure, hs⟩ | hs
    · refine ⟨?_, ?_, ?_, ?_, ?_⟩
      · simp [Ledger.settle_standing, hs]
      · simp [Ledger.settle_standing, hs]
      · rw [Ledger.settle_standing]
        exact hslot
      · rw [Ledger.settle_standing]
        exact (hc a).failed
      · simp [Ledger.settle_standing, hs]
    · refine ⟨?_, ?_, ?_, ?_, ?_⟩
      all_goals simp [Ledger.settle_standing, hs]
  · refine (hc a).frame (congrFun (Ledger.settle_standing l id result) a)
      (Ledger.get?_arrived_of_settle hp) (fun id' hp' => (Ledger.get?_pending_of_settle hp').1)
      hcaller fun id' note hmem hres hp' => ?_
    -- A response with the identifier of a call that waits is for that call.
    have hid : id' ≠ id := (Ledger.get?_pending_of_settle hp').2
    rcases hnote with ⟨rfl, -⟩ | ⟨answer, rfl, -⟩
    · exact absurd hmem (by simp)
    · obtain rfl := Option.mem_some.mp hmem
      exact hid (of_decide_eq_true hres).symm

/-- The call of one agent goes on, and others are left as they are. -/
theorem Called.stand {a : Agent} {s : Standing} (b : Agent) (hc : ∀ b, Called l h b)
    (hs : l'.standing = l.standing) (harr : ∀ b, b ≠ a → l'.arrived.get? b = l.arrived.get? b)
    (hp : ∀ id b, b ≠ a → l'.pending.get? id = some b → l.pending.get? id = some b)
    (hn : ∀ note ∈ note?, note.caller? = some a)
    (hself : Called (l'.stand a s) (h ++ note?.toList) a) :
    Called (l'.stand a s) (h ++ note?.toList) b := by
  by_cases hba : b = a
  · subst hba
    exact hself
  · refine (hc b).frame ?_ (harr b hba) (fun id => hp id b hba) ?_ ?_
    · rw [Ledger.stand_standing_of_ne hba, hs]
    · intro note hmem heq
      rw [hn note hmem, Option.some.injEq] at heq
      exact hba heq.symm
    · intro id note hmem hres
      have hcaller := hn note hmem
      cases note
      case response => exact absurd hcaller (by simp [Note.caller?])
      all_goals exact absurd hres (by simp [Note.respondsTo])

/-- The call of one agent returns, and others are left as they are. -/
theorem Called.stand_idle {a : Agent} (b : Agent) (hc : ∀ b, Called l h b)
    (hs : l'.standing = l.standing) (harr : ∀ b, b ≠ a → l'.arrived.get? b = l.arrived.get? b)
    (hp : ∀ id b, b ≠ a → l'.pending.get? id = some b → l.pending.get? id = some b)
    (hn : ∀ note ∈ note?, note.caller? = some a) :
    Called (l'.stand a .idle) (h ++ note?.toList) b := by
  refine Called.stand b hc hs harr hp hn ⟨?_, ?_, ?_, ?_, ?_⟩
  all_goals simp

theorem Ledger.get?_pending_of_forget {id id' : CallId} {a : Agent}
    (hp : (l.forget id).pending.get? id' = some a) : l.pending.get? id' = some a := by
  simp only [Ledger.forget, Table.get?_erase] at hp
  split_ifs at hp
  exact hp

theorem Called.turn (hw : Waits l) (hc : ∀ a, Called l h a) (ht : Turn l note? l') (b : Agent) :
    Called l' (h ++ note?.toList) b := by
  cases ht with
  | rest =>
    rw [Option.toList_none, List.append_nil]
    exact hc b
  | closed id => exact Called.settle hw hc (.inl ⟨rfl, rfl⟩) b
  | response id result => exact Called.settle hw hc (.inr ⟨result, rfl, rfl⟩) b
  | began a call hs =>
    refine Called.stand b hc rfl (fun _ _ => rfl) (fun _ _ _ hp => hp) ?_
      ⟨fun _ => opened_concat call, ?_, ?_, ?_, ?_⟩
    all_goals simp [Note.caller?]
  | drew a hs =>
    refine Called.stand b hc rfl (fun _ _ => rfl) (fun _ _ _ hp => hp) ?_
      ⟨?_, fun id hid => ?_, ?_, ?_, ?_⟩
    · simp [Note.caller?]
    · simp
    · rw [Ledger.stand_standing_self] at hid
      cases hid
      exact ((hc a).opened hs).drawn
    all_goals simp
  | registered a id hs =>
    refine Called.stand b hc rfl (fun b hb => ?_) (fun id' b hb hp => ?_) ?_
      ⟨?_, ?_, fun id' failure hid => ?_, ?_, ?_⟩
    · rw [Table.get?_erase, if_neg hb]
    · rw [Table.get?_insert] at hp
      split_ifs at hp
      · exact absurd (Option.some.inj hp).symm hb
      · exact hp
    · simp [Note.caller?]
    · simp
    · simp
    · rw [Ledger.stand_standing_self] at hid
      cases hid
      exact .empty [] ((hc a).drawn id hs).registered (by simp) fun _ => by simp
    all_goals simp
  | failed a id e hs he =>
    refine Called.stand b hc rfl (fun _ _ => rfl) (fun _ _ _ hp => hp) ?_
      ⟨?_, ?_, fun id' failure hid => ?_, fun id' e' message hid => ?_, ?_⟩
    · simp
    · simp
    · simp
    · rw [Ledger.stand_standing_self] at hid
      cases hid
      exact ((hc a).waiting id none hs).frame rfl (fun hp => hp) (by simp) (by simp)
    · rw [Ledger.stand_standing_self] at hid
      cases hid
      exact he message
    · simp
  | broke a id e hs =>
    refine Called.stand b hc rfl (fun _ _ => rfl)
      (fun _ _ _ hp => Ledger.get?_pending_of_forget hp) ?_
      ⟨?_, ?_, ?_, ?_, fun e' message hid => ?_⟩
    · simp
    · simp
    · simp
    · simp
    · simp
    · rw [Ledger.stand_standing_self] at hid
      cases hid
      exact (hc a).failed id e message hs
  | withdrew =>
    refine Called.stand_idle b hc rfl (fun _ _ => rfl)
      (fun _ _ _ hp => Ledger.get?_pending_of_forget hp) ?_
    simp [Note.caller?]
  | returned =>
    refine Called.stand_idle b hc rfl (fun b hb => ?_) (fun _ _ _ hp => hp) ?_
    · rw [Table.get?_erase, if_neg hb]
    · simp [Note.caller?]
  | refused | lost | gaveUp =>
    refine Called.stand_idle b hc rfl (fun _ _ => rfl) (fun _ _ _ hp => hp) ?_
    simp [Note.caller?]

/-! ## What calls return -/

/-- A result that only the other end can have given. -/
def FromPeer (result : Except ChannelError Reply) : Prop :=
  (∃ reply, result = .ok reply) ∨ ∃ message, result = .error (.remote message)

/-- A call that returns with a result of the other end has been answered with it. -/
theorem Turn.answered {a : Agent} {result : Except ChannelError Reply}
    (hc : ∀ a, Called l h a) (ht : Turn l (some (.completed a result)) l')
    (hr : FromPeer result) : ∃ answer, Answered a answer h ∧ result = received answer := by
  have hlocal : ∀ e : ChannelError, (∀ message, e ≠ .remote message) → ¬ FromPeer (.error e) := by
    rintro e he (⟨reply, hreply⟩ | ⟨message, hmessage⟩)
    · cases hreply
    · exact he message (Except.error.inj hmessage)
  cases ht with
  | refused _ hs => exact absurd hr (hlocal _ (by simp))
  | withdrew _ id failure hs =>
    refine absurd hr (hlocal _ ?_)
    rcases failure with _ | e
    · simp
    · exact fun message => (hc a).failed id e message hs
  | returned _ id _ hs harrived =>
    rcases (hc a).waiting id none hs with ⟨since, -, hnone, -⟩ | ⟨hclosed, -⟩ | ⟨answer, ha, hsome, -⟩
    · rw [harrived] at hnone
      cases hnone
    · rw [harrived, Option.some.injEq] at hclosed
      subst hclosed
      exact absurd hr (hlocal _ (by simp))
    · rw [harrived, Option.some.injEq] at hsome
      exact ⟨answer, ha, hsome⟩
  | lost _ id hs hp => exact absurd hr (hlocal _ (by simp))
  | gaveUp _ e hs => exact absurd hr (hlocal _ fun message => (hc a).closing e message hs)

/-- Every result of the other end that a call has returned with was the answer to that call. -/
def Paid (h : List Note) : Prop :=
  ∀ before a result later, h = before ++ .completed a result :: later → FromPeer result →
    ∃ answer, Answered a answer before ∧ result = received answer

theorem Paid.turn (hp : Paid h) (hc : ∀ a, Called l h a) (ht : Turn l note? l') :
    Paid (h ++ note?.toList) := by
  rcases note? with _ | note
  · rw [Option.toList_none, List.append_nil]
    exact hp
  · intro before a result later heq hr
    rcases append_cons_of_concat heq with ⟨rfl, rfl⟩ | ⟨later', heq'⟩
    · exact ht.answered hc hr
    · exact hp before a result later' heq' hr

theorem Numbered.ends (hn : Numbered l h) (he : Ledger.Ends l l') : Numbered l' h := by
  have hs : ∀ a id, l'.standing a = .drawn id → l.standing a = .drawn id := by
    intro a id ha
    rcases he.standing a with hs | hs
    · rwa [hs] at ha
    · rw [hs] at ha
      cases ha
  refine ⟨he.nextId.trans hn.next, hn.drawn, fun hnodup => ?_⟩
  obtain ⟨honce, hsub, hdrawn, hunique⟩ := hn.registered hnodup
  exact ⟨honce, hsub, fun a id ha => hdrawn a id (hs a id ha),
    fun a b id ha hb => hunique a b id (hs a id ha) (hs b id hb)⟩

theorem Numbered.turn (hn : Numbered l h) (ht : Turn l note? l') :
    Numbered l' (h ++ note?.toList) := by
  have hstand : ∀ {l₁ : Ledger} {a : Agent} {s : Standing}, l₁.standing = l.standing →
      (∀ id, s ≠ .drawn id) → ∀ b id, (l₁.stand a s).standing b = .drawn id →
        b ≠ a ∧ l.standing b = .drawn id := by
    intro l₁ a s hs hd b id hb
    by_cases hba : b = a
    · subst hba
      rw [Ledger.stand_standing_self] at hb
      exact absurd hb (hd id)
    · rw [Ledger.stand_standing_of_ne hba, hs] at hb
      exact ⟨hba, hb⟩
  cases ht with
  | rest => exact hn.frame rfl rfl rfl fun _ _ ha => ha
  | closed id | response id =>
    exact hn.frame rfl rfl (Ledger.settle_nextId l id _) fun _ _ ha =>
      (congrFun (Ledger.settle_standing l id _) _).symm.trans ha
  | drew a hs => exact hn.drew a
  | registered a id hs => exact hn.register hs rfl (hstand rfl (by simp))
  | began | failed | broke | refused | withdrew | returned | lost | gaveUp =>
    exact hn.frame rfl rfl rfl fun b id hb => (hstand rfl (by simp) b id hb).2

end Invariants

/-! ## Runs -/

/-- What a ledger and the history of its calls have to do with each other. -/
structure Sound (l : Ledger) (h : List Note) : Prop where
  numbered : Numbered l h
  waits : Waits l
  balanced : Balanced l h
  called : ∀ a, Called l h a
  paid : Paid h

theorem Sound.turn {l l' : Ledger} {h : List Note} {note? : Option Note} (hs : Sound l h)
    (ht : Turn l note? l') : Sound l' (h ++ note?.toList) where
  numbered := hs.numbered.turn ht
  waits := hs.waits.turn ht
  balanced := hs.balanced.turn ht
  called := Called.turn hs.waits hs.called ht
  paid := hs.paid.turn hs.called ht

theorem Sound.ends {l l' : Ledger} {h : List Note} (hs : Sound l h) (he : Ledger.Ends l l') :
    Sound l' h where
  numbered := hs.numbered.ends he
  waits := hs.waits.ends he
  balanced := hs.balanced.ends he
  called a := (hs.called a).ends he
  paid := hs.paid

namespace Channel

variable (setup : ChannelSetup ω ρ) (world : ω) (guarded : Bool)

theorem standing_start (a : Agent) : (start setup world guarded).standing a = .idle := by
  cases a with
  | reader | heartbeat | task => rfl

/-- A channel that has just been opened has no calls. -/
theorem sound_start : Sound (start setup world guarded).ledger [] where
  numbered := by
    refine ⟨rfl, rfl, fun _ => ⟨List.nodup_nil, List.Subset.refl _, fun a id ha => ?_,
      fun a b id ha => ?_⟩⟩
    · exact absurd ((standing_start setup world guarded a).symm.trans ha) (by simp)
    · exact absurd ((standing_start setup world guarded a).symm.trans ha) (by simp)
  waits := by
    refine ⟨fun id a hp => ?_, fun a id failure ha => ?_⟩
    · exact absurd hp (by simp [ledger, start])
    · exact absurd ((standing_start setup world guarded a).symm.trans ha) (by simp)
  balanced := by
    refine ⟨fun a => Nat.le_refl 0, fun a => Nat.zero_le 1, fun a _ => ?_⟩
    rw [show (start setup world guarded).ledger.standing a = .idle from
      standing_start setup world guarded a]
    rfl
  called a := by
    have hidle : (start setup world guarded).ledger.standing a = .idle :=
      standing_start setup world guarded a
    refine ⟨?_, ?_, ?_, ?_, ?_⟩
    all_goals simp [hidle]
  paid := fun before a result later heq => absurd heq (by simp)

/-- The history of a run is sound, whatever the run. -/
theorem sound_history (actions : List (Action ω ρ)) :
    Sound ((start setup world guarded).after actions).ledger
      ((start setup world guarded).history actions) :=
  ledger_induction (P := Sound) setup world guarded (sound_start setup world guarded)
    (fun _ _ _ _ hs ht => hs.turn ht) (fun _ _ _ hs he => hs.ends he) actions

/-- A response comes to the history from the reader. -/
theorem note?_eq_response {c : Channel ω ρ} {action : Action ω ρ} {id : CallId}
    {result : Except Failure Reply} {waiting : Option Agent}
    (hnote : c.note? action = some (.response id result waiting)) :
    action = .agent .reader .go ∧ c.incoming? = some (.response id result) ∧
      c.pending.get? id = waiting := by
  cases noted_of_note? hnote with
  | response hincoming => exact ⟨rfl, hincoming, rfl⟩

/-- A response that no call waits for is taken from the stream, and nothing else happens. -/
theorem step_of_unknown_response {c d : Channel ω ρ} {action : Action ω ρ}
    {events : List (Event ρ)} {id : CallId} {result : Except Failure Reply}
    (hstep : c.step action = some (d, events))
    (hnote : c.note? action = some (.response id result none)) :
    d = { c with inbox := d.inbox, reader := d.reader } ∧ events = [] := by
  obtain ⟨rfl, hincoming, hpending⟩ := note?_eq_response hnote
  obtain ⟨rfl, rest, incomplete, rfl⟩ := step_of_incoming hincoming hstep
  simp only [dispatch, settle, hpending, and_self]

/-- **Calls and their responses.** In every run of a channel, whatever the other end sends and in
whatever order everything happens:

* as long as there are identifiers, no two calls draw one, and no two wait under one;
* a call that returns a reply or a failure of the other end has been answered with it;
* the calls of an agent return one after the other, each once at most;
* a response that no call waits for changes nothing but the place in the incoming stream. -/
theorem calls_correlated (actions : List (Action ω ρ)) :
    let history := (start setup world guarded).history actions
    ((drawnIds history).length ≤ UInt64.size →
      (drawnIds history).Nodup ∧ (registeredIds history).Nodup) ∧
    (∀ before a result later, history = before ++ .completed a result :: later →
      FromPeer result → ∃ answer, Answered a answer before ∧ result = received answer) ∧
    (∀ a, history.countP (Note.completes a) ≤ history.countP (Note.begins a) ∧
      history.countP (Note.begins a) ≤ history.countP (Note.completes a) + 1) ∧
    ∀ m ∈ (start setup world guarded).moments actions, ∀ id result,
      m.note? = some (.response id result none) →
        m.after = { m.before with inbox := m.after.inbox, reader := m.after.reader } := by
  intro history
  have hsound := sound_history setup world guarded actions
  refine ⟨fun hlength => ?_, hsound.paid, fun a => ?_, fun m hm id result hnote => ?_⟩
  · have hnodup := hsound.numbered.nodup hlength
    exact ⟨hnodup, (hsound.numbered.registered hnodup).1⟩
  · exact ⟨hsound.balanced.le a, hsound.balanced.le_succ a⟩
  · exact (step_of_unknown_response (step_of_mem_moments _ hm) hnote).1

end Channel

end CommandLink
