import CommandLink.Server.Admission
import Mathlib.Data.List.Count
import Mathlib.Data.List.Induction
import Mathlib.Data.List.Nodup
import Mathlib.Data.List.Perm.Basic
import Mathlib.Tactic.Common

/-!
# Slots are neither lost nor doubled

What a slot is in use for can be read off what has happened and how it was answered, without looking
at the server: `useAfter` follows one slot through a history. What one event can do to the server is
said once (`Turn`). With every event the server goes on holding just the slots that are in use, each
where its use belongs (`Accounts.turn`, and from it `accounts_after`). So the number of slots held is
that of direct connections, parked downloads and served tunnels (`Admission.slots_conserved`).
-/

namespace CommandLink

/-- The value under a key is that of the entry with the key. -/
theorem Table.get?_eq_some_iff {κ α : Type} [DecidableEq κ] {t : Table κ α} {key : κ} {value : α} :
    t.get? key = some value ↔ (key, value) ∈ t.entries := by
  rw [get?, lookup, Option.map_eq_some_iff]
  constructor
  · rintro ⟨⟨key', value'⟩, hfind, rfl⟩
    have hkey : key' = key := by simpa using List.find?_some hfind
    exact hkey ▸ List.mem_of_find?_eq_some hfind
  · intro hmem
    rcases hfind : t.entries.find? fun e => e.1 = key with _ | e
    · exact absurd (List.find?_eq_none.mp hfind _ hmem) (by simp)
    · have hkey : e.1 = key := by simpa using List.find?_some hfind
      have heq := List.inj_on_of_nodup_map t.nodup (List.mem_of_find?_eq_some hfind) hmem hkey
      exact ⟨e, hfind, by rw [heq]⟩

/-! ## Giving out and taking back -/

namespace Connections

variable {c d : Connections} {slot : ℕ}

theorem acquire_eq_none_iff : c.acquire = none ↔ ¬ c.HasRoom := by
  unfold acquire
  split <;> simp_all

/-- A slot that is given out is a new one. -/
structure GivesOut (c : Connections) (slot : ℕ) (d : Connections) : Prop where
  room : c.HasRoom
  fresh : slot = c.issued
  held : d.held = c.held ++ [slot]
  issued : d.issued = c.issued + 1
  limit : d.limit = c.limit
  draining : d.draining = c.draining

theorem givesOut_of_acquire (h : c.acquire = some (slot, d)) : c.GivesOut slot d := by
  unfold acquire at h
  split at h
  · rename_i hroom
    cases h
    exact ⟨hroom, rfl, rfl, rfl, rfl, rfl⟩
  · cases h

theorem GivesOut.not_mem (h : c.GivesOut slot d) : slot ∉ c.held := by
  intro hmem
  have := c.lt_issued slot hmem
  rw [h.fresh] at this
  omega

theorem held_release (slot : ℕ) : (c.release slot).held = c.held.erase slot := by
  rw [c.nodup.erase_eq_filter]
  exact List.filter_congr fun other _ => by simp [bne, beq_eq_decide]

/-- A slot that is given out and taken back leaves the others. -/
theorem GivesOut.held_release (h : c.GivesOut slot d) : (d.release slot).held = c.held := by
  rw [Connections.held_release, h.held, List.erase_append_right _ h.not_mem, List.erase_cons_head,
    List.append_nil]

theorem mem_held_release {other : ℕ} :
    other ∈ (c.release slot).held ↔ other ∈ c.held ∧ other ≠ slot := by
  rw [held_release, c.nodup.mem_erase_iff, and_comm]

/-- Taking back a slot that is held leaves one less. -/
theorem active_release (h : slot ∈ c.held) : (c.release slot).active + 1 = c.active := by
  rw [active, active, held_release, List.length_erase_of_mem h]
  exact Nat.succ_pred_eq_of_pos (List.length_pos_of_mem h)

end Connections

namespace Server

namespace Admission

variable {c : Connections}

/-- Taking back slots changes nothing but which are held. -/
theorem releaseAll_others (slots : List ℕ) : (releaseAll c slots).limit = c.limit ∧
    (releaseAll c slots).issued = c.issued ∧ (releaseAll c slots).draining = c.draining := by
  induction slots generalizing c with
  | nil => exact ⟨rfl, rfl, rfl⟩
  | cons slot slots ih => exact ih

theorem mem_held_releaseAll {slots : List ℕ} {slot : ℕ} :
    slot ∈ (releaseAll c slots).held ↔ slot ∈ c.held ∧ slot ∉ slots := by
  induction slots generalizing c with
  | nil => simp [releaseAll]
  | cons other slots ih =>
    rw [releaseAll, List.foldl_cons, ← releaseAll, ih, Connections.mem_held_release, List.mem_cons,
      not_or, and_assoc]

/-- Taking back slots that are held, each once, leaves as many less. -/
theorem active_releaseAll {slots : List ℕ} (hn : slots.Nodup) (h : ∀ slot ∈ slots, slot ∈ c.held) :
    (releaseAll c slots).active + slots.length = c.active := by
  induction slots generalizing c with
  | nil => rfl
  | cons slot slots ih =>
    obtain ⟨hslot, hslots⟩ := List.forall_mem_cons.mp h
    obtain ⟨hnew, hn⟩ := List.nodup_cons.mp hn
    have hlater : ∀ other ∈ slots, other ∈ (c.release slot).held := fun other ho =>
      Connections.mem_held_release.mpr ⟨hslots other ho, fun heq => hnew (heq ▸ ho)⟩
    have hone := Connections.active_release hslot
    have hrest := ih hn hlater
    rw [releaseAll, List.foldl_cons, ← releaseAll, List.length_cons]
    omega

end Admission

/-! ## Histories -/

/-- What has happened to a server and how it was answered, in order. -/
abbrev AdmissionHistory := List (AdmissionEvent × AdmissionAnswer)

/-- What a slot is in use for. -/
inductive SlotUse where
  /-- A direct connection whose first line is still to come. -/
  | opening
  | direct
  | parked (session : TunnelSession)
  | served
  deriving DecidableEq, Repr

/-- A direct connection that has not ended. -/
def SlotUse.isDirect : SlotUse → Bool
  | .opening => true
  | .direct => true
  | _ => false

def SlotUse.isParked : SlotUse → Bool
  | .parked _ => true
  | _ => false

namespace AdmissionHistory

/-- The slot that is given out, if one is. -/
def granted? : AdmissionEvent × AdmissionAnswer → Option ℕ
  | (.connect, .admitted slot) => some slot
  | (.download _, .admitted slot) => some slot
  | _ => none

/-- The slots that have been given out. -/
def granted (h : AdmissionHistory) : List ℕ := h.filterMap granted?

/-- What a slot is in use for after one more event, if it was in use as `use` says. -/
def useNext (slot : ℕ) (use : Option SlotUse) : AdmissionEvent × AdmissionAnswer → Option SlotUse
  | (.connect, .admitted s) => if s = slot then some .opening else use
  | (.opened s how, _) =>
    if s = slot ∧ use = some .opening then
      if how = .accepted then some .direct else none
    else use
  | (.disconnect s, _) => if s = slot ∧ use = some .direct then none else use
  | (.download session, .admitted s) => if s = slot then some (.parked session) else use
  | (.upload _, .admitted s) => if s = slot then some .served else use
  | (.finish s, _) => if s = slot ∧ use = some .served then none else use
  | (.expire session, _) => if use = some (.parked session) then none else use
  | (.clear, _) => if use.any SlotUse.isParked then none else use
  | _ => use

/-- What a slot is in use for after a history. -/
def useAfter (h : AdmissionHistory) (slot : ℕ) : Option SlotUse := h.foldl (useNext slot) none

/-- How many of the slots that have been given out are in use for something of a kind. -/
def count (h : AdmissionHistory) (kind : SlotUse → Bool) : ℕ :=
  h.granted.countP fun slot => (h.useAfter slot).any kind

variable (h : AdmissionHistory)

theorem useAfter_concat (x : AdmissionEvent × AdmissionAnswer) (slot : ℕ) :
    useAfter (h ++ [x]) slot = useNext slot (useAfter h slot) x := by
  rw [useAfter, List.foldl_append, List.foldl_cons, List.foldl_nil, useAfter]

theorem granted_concat (x : AdmissionEvent × AdmissionAnswer) :
    granted (h ++ [x]) = granted h ++ (granted? x).toList := by
  rw [granted, List.filterMap_append, granted]
  rcases hx : granted? x with _ | slot <;> simp [hx]

/-- The slots that have been given out are different ones below a number, and only they are in
use. -/
structure Granted (n : ℕ) : Prop where
  nodup : (granted h).Nodup
  lt : ∀ slot ∈ granted h, slot < n
  known : ∀ slot, useAfter h slot ≠ none → slot ∈ granted h

variable {h} {n n' : ℕ} {x : AdmissionEvent × AdmissionAnswer}

/-- Where no slot is given out, none comes into use. -/
theorem Granted.keep (hg : Granted h n) (hle : n ≤ n') (hx : granted? x = none)
    (huse : ∀ slot, useNext slot (useAfter h slot) x ≠ none → useAfter h slot ≠ none) :
    Granted (h ++ [x]) n' := by
  have hsame : granted (h ++ [x]) = granted h := by
    rw [granted_concat, hx, Option.toList_none, List.append_nil]
  refine ⟨hsame ▸ hg.nodup, fun slot hs => ?_, fun slot hs => ?_⟩
  · exact Nat.lt_of_lt_of_le (hg.lt slot (hsame ▸ hs)) hle
  · rw [useAfter_concat] at hs
    exact hsame ▸ hg.known slot (huse slot hs)

theorem useNext_of_granted {slot : ℕ} {use : Option SlotUse} (hx : granted? x = some n)
    (hne : slot ≠ n) : useNext slot use x = use := by
  unfold granted? at hx
  split at hx
  · cases hx
    exact if_neg (Ne.symm hne)
  · cases hx
    exact if_neg (Ne.symm hne)
  · cases hx

/-- A slot that is not given out and not taken over goes out of use when its tunnel is finished. -/
theorem useNext_of_spent {slot : ℕ} {use : Option SlotUse} (hx : granted? x ≠ some slot)
    (hupload : ∀ session, x ≠ (.upload session, .admitted slot))
    (huse : use = some .served ∨ use = none) :
    useNext slot use x = if x.1 = .finish slot then none else use := by
  obtain ⟨event, answer⟩ := x
  unfold useNext
  split <;> rcases huse with rfl | rfl <;> simp_all [granted?, SlotUse.isParked]

/-- The next slot is given out. -/
theorem Granted.give (hg : Granted h n) (hx : granted? x = some n) :
    Granted (h ++ [x]) (n + 1) := by
  have hmore : granted (h ++ [x]) = granted h ++ [n] := by rw [granted_concat, hx]; rfl
  refine ⟨?_, fun slot hs => ?_, fun slot hs => ?_⟩
  · rw [hmore]
    exact hg.nodup.append (List.nodup_singleton n)
      fun slot hs hn => absurd (hg.lt slot hs) (by simp [List.mem_singleton.mp hn])
  · rw [hmore, List.mem_append, List.mem_singleton] at hs
    rcases hs with hs | rfl
    · exact Nat.lt_succ_of_lt (hg.lt slot hs)
    · exact Nat.lt_succ_self _
  · rw [hmore, List.mem_append, List.mem_singleton]
    by_cases hne : slot = n
    · exact .inr hne
    · rw [useAfter_concat, useNext_of_granted hx hne] at hs
      exact .inl (hg.known slot hs)

end AdmissionHistory

namespace Admission

/-- The server after some events. -/
def after (a : Admission) (events : List AdmissionEvent) : Admission :=
  events.foldl (fun a event => (a.step event).1) a

/-- Some events with the answers to them. -/
def history (a : Admission) : List AdmissionEvent → AdmissionHistory
  | [] => []
  | event :: events => (event, (a.step event).2) :: (a.step event).1.history events

theorem after_concat (a : Admission) (events : List AdmissionEvent) (event : AdmissionEvent) :
    a.after (events ++ [event]) = ((a.after events).step event).1 := by
  rw [after, List.foldl_append, List.foldl_cons, List.foldl_nil, after]

theorem history_append (a : Admission) (first later : List AdmissionEvent) :
    a.history (first ++ later) = a.history first ++ (a.after first).history later := by
  induction first generalizing a with
  | nil => rfl
  | cons event first ih => rw [List.cons_append, history, history, ih, List.cons_append]; rfl

/-! ## What an event does -/

/-- An event is about a slot or a download that the server does not have. -/
def Passes (a : Admission) : AdmissionEvent → Prop
  | .opened slot _ => slot ∉ a.opening
  | .disconnect slot => slot ∉ a.direct
  | .finish slot => slot ∉ a.served
  | .expire session => a.parked.get? session = none
  | _ => False

/-- What an event does to a server, and how it is answered. -/
inductive Turn (a : Admission) : AdmissionEvent → AdmissionAnswer → Admission → Prop
  | connected {slot : ℕ} {d : Connections} (acquired : a.connections.acquire = some (slot, d)) :
    Turn a .connect (.admitted slot) { a with connections := d, opening := a.opening ++ [slot] }
  | turnedAway (crowded : a.connections.acquire = none) : Turn a .connect .full a
  | accepted {slot : ℕ} (opening : slot ∈ a.opening) :
    Turn a (.opened slot .accepted) .noted
      { a with opening := a.opening.filter (· ≠ slot), direct := a.direct ++ [slot] }
  | failed {slot : ℕ} {how : Opening} (opening : slot ∈ a.opening) (unaccepted : how ≠ .accepted) :
    Turn a (.opened slot how) .noted
      { a with
        connections := a.connections.release slot, opening := a.opening.filter (· ≠ slot) }
  | disconnected {slot : ℕ} (direct : slot ∈ a.direct) :
    Turn a (.disconnect slot) .noted
      { a with
        connections := a.connections.release slot, direct := a.direct.filter (· ≠ slot) }
  | parked {session : TunnelSession} {slot : ℕ} {d : Connections}
    (acquired : a.connections.acquire = some (slot, d)) (free : a.parked.get? session = none) :
    Turn a (.download session) (.admitted slot)
      { a with connections := d, parked := a.parked.insert session slot }
  | refused {session : TunnelSession} (crowded : a.connections.acquire = none) :
    Turn a (.download session) .full a
  | repeated {session : TunnelSession} {slot : ℕ} {d : Connections}
    (acquired : a.connections.acquire = some (slot, d)) (waiting : a.parked.contains session) :
    Turn a (.download session) .alreadyParked { a with connections := d.release slot }
  | paired {session : TunnelSession} {slot : ℕ} (waiting : a.parked.get? session = some slot) :
    Turn a (.upload session) (.admitted slot)
      { a with parked := a.parked.erase session, served := a.served ++ [slot] }
  | unknown {session : TunnelSession} (absent : a.parked.get? session = none) :
    Turn a (.upload session) .unknownSession a
  | finished {slot : ℕ} (served : slot ∈ a.served) :
    Turn a (.finish slot) .noted
      { a with
        connections := a.connections.release slot, served := a.served.filter (· ≠ slot) }
  | expired {session : TunnelSession} {slot : ℕ} (waiting : a.parked.get? session = some slot) :
    Turn a (.expire session) .noted
      { a with connections := a.connections.release slot, parked := a.parked.erase session }
  | cleared :
    Turn a .clear .noted
      { a with
        connections := releaseAll a.connections (a.parked.entries.map Prod.snd), parked := .empty }
  | draining : Turn a .drain .noted { a with connections := a.connections.startDraining }
  | passed {event : AdmissionEvent} (passes : a.Passes event) : Turn a event .noted a

theorem turn_step (a : Admission) (event : AdmissionEvent) :
    Turn a event (a.step event).2 (a.step event).1 := by
  cases event with
  | connect =>
    rcases hacquire : a.connections.acquire with _ | ⟨slot, d⟩
    · simpa only [step, hacquire] using .turnedAway hacquire
    · simpa only [step, hacquire] using .connected hacquire
  | opened slot how =>
    by_cases hmem : slot ∈ a.opening
    · by_cases haccepted : how = .accepted
      · subst haccepted
        simpa only [step, hmem, if_true] using .accepted hmem
      · simpa only [step, hmem, haccepted, if_true, if_false] using .failed hmem haccepted
    · simpa only [step, hmem, if_false] using .passed hmem
  | disconnect slot =>
    by_cases hmem : slot ∈ a.direct
    · simpa only [step, hmem, if_true] using .disconnected hmem
    · simpa only [step, hmem, if_false] using .passed hmem
  | download session =>
    rcases hacquire : a.connections.acquire with _ | ⟨slot, d⟩
    · simpa only [step, hacquire] using .refused hacquire
    · by_cases hwaiting : a.parked.contains session
      · simpa only [step, hacquire, hwaiting, if_true] using .repeated hacquire hwaiting
      · have hfree : a.parked.get? session = none := by
          rwa [Table.contains, Bool.not_eq_true, Option.isSome_eq_false_iff,
            Option.isNone_iff_eq_none] at hwaiting
        simpa only [step, hacquire, hwaiting, if_false] using .parked hacquire hfree
  | upload session =>
    rcases hparked : a.parked.get? session with _ | slot
    · simpa only [step, hparked] using .unknown hparked
    · simpa only [step, hparked] using .paired hparked
  | finish slot =>
    by_cases hmem : slot ∈ a.served
    · simpa only [step, hmem, if_true] using .finished hmem
    · simpa only [step, hmem, if_false] using .passed hmem
  | expire session =>
    rcases hparked : a.parked.get? session with _ | slot
    · simpa only [step, hparked] using .passed hparked
    · simpa only [step, hparked] using .expired hparked
  | clear => exact .cleared
  | drain => exact .draining

/-! ## What the server holds -/

open AdmissionHistory

/-- The server holds the slots that are in use by a history, each where its use belongs. -/
structure Accounts (h : AdmissionHistory) (a : Admission) : Prop where
  granted : Granted h a.connections.issued
  opening : ∀ slot, slot ∈ a.opening ↔ useAfter h slot = some .opening
  direct : ∀ slot, slot ∈ a.direct ↔ useAfter h slot = some .direct
  parked : ∀ session slot, a.parked.get? session = some slot ↔
    useAfter h slot = some (.parked session)
  served : ∀ slot, slot ∈ a.served ↔ useAfter h slot = some .served
  held : ∀ slot, slot ∈ a.connections.held ↔ useAfter h slot ≠ none

variable {h : AdmissionHistory} {a : Admission}

theorem accounts_empty (max : ℕ) : Accounts [] (empty max) where
  granted := ⟨.nil, by simp [AdmissionHistory.granted], by simp [useAfter]⟩
  opening slot := by simp [empty, useAfter]
  direct slot := by simp [empty, useAfter]
  parked session slot := by simp [empty, useAfter]
  served slot := by simp [empty, useAfter]
  held slot := by simp [empty, useAfter, Connections.empty]

/-- What is in use stays as it is when nothing happens to the slots that are held. -/
theorem Accounts.unchanged {b : Admission} (ha : Accounts h a)
    {x : AdmissionEvent × AdmissionAnswer} (hgranted : granted? x = none)
    (hnext : ∀ slot, useNext slot (useAfter h slot) x = useAfter h slot)
    (hissued : a.connections.issued ≤ b.connections.issued)
    (hheld : b.connections.held = a.connections.held)
    (hsame : b = { a with connections := b.connections }) : Accounts (h ++ [x]) b := by
  have huse : ∀ slot, useAfter (h ++ [x]) slot = useAfter h slot := fun slot =>
    (useAfter_concat h x slot).trans (hnext slot)
  rw [hsame]
  constructor
  · exact ha.granted.keep hissued hgranted fun slot hs => hnext slot ▸ hs
  · simpa only [huse] using ha.opening
  · simpa only [huse] using ha.direct
  · simpa only [huse] using ha.parked
  · simpa only [huse] using ha.served
  · simpa only [huse, hheld] using ha.held

/-- A slot that is given out was not in use. -/
theorem Accounts.useAfter_of_givesOut {d : Connections} {slot : ℕ} (ha : Accounts h a)
    (hg : a.connections.GivesOut slot d) : useAfter h slot = none := by
  by_contra hn
  exact hg.not_mem ((ha.held slot).mpr hn)

/-- The slots of parked downloads are the values of the table. -/
theorem Accounts.mem_parked (ha : Accounts h a) {slot : ℕ} :
    slot ∈ a.parked.entries.map Prod.snd ↔ ∃ session, useAfter h slot = some (.parked session) := by
  simp only [← ha.parked, Table.get?_eq_some_iff, List.mem_map, Prod.exists, exists_eq_right]

/-! ### One event -/

variable {session : TunnelSession} {slot : ℕ} {d : Connections}

theorem Accounts.connected (ha : Accounts h a)
    (acquired : a.connections.acquire = some (slot, d)) :
    Accounts (h ++ [(.connect, .admitted slot)])
      { a with connections := d, opening := a.opening ++ [slot] } := by
  have hg := Connections.givesOut_of_acquire acquired
  have hnone := ha.useAfter_of_givesOut hg
  constructor
  · rw [hg.issued]
    exact ha.granted.give (congrArg some hg.fresh)
  all_goals simp only [useAfter_concat, useNext]
  · grind [ha.opening]
  · grind [ha.direct]
  · grind [ha.parked]
  · grind [ha.served]
  · grind [ha.held, hg.held]

theorem Accounts.accepted (ha : Accounts h a) (opening : slot ∈ a.opening) :
    Accounts (h ++ [(.opened slot .accepted, .noted)])
      { a with opening := a.opening.filter (· ≠ slot), direct := a.direct ++ [slot] } := by
  have huse := (ha.opening slot).mp opening
  constructor
  · exact ha.granted.keep (Nat.le_refl _) rfl (by grind [useNext])
  all_goals simp only [useAfter_concat, useNext]
  · grind [ha.opening]
  · grind [ha.direct]
  · grind [ha.parked]
  · grind [ha.served]
  · grind [ha.held]

theorem Accounts.failed (ha : Accounts h a) {how : Opening} (opening : slot ∈ a.opening)
    (unaccepted : how ≠ .accepted) :
    Accounts (h ++ [(.opened slot how, .noted)])
      { a with
        connections := a.connections.release slot, opening := a.opening.filter (· ≠ slot) } := by
  have huse := (ha.opening slot).mp opening
  constructor
  · exact ha.granted.keep (Nat.le_refl _) rfl (by grind [useNext])
  all_goals simp only [useAfter_concat, useNext]
  · grind [ha.opening]
  · grind [ha.direct]
  · grind [ha.parked]
  · grind [ha.served]
  · grind [ha.held, Connections.mem_held_release]

theorem Accounts.disconnected (ha : Accounts h a) (direct : slot ∈ a.direct) :
    Accounts (h ++ [(.disconnect slot, .noted)])
      { a with
        connections := a.connections.release slot, direct := a.direct.filter (· ≠ slot) } := by
  have huse := (ha.direct slot).mp direct
  constructor
  · exact ha.granted.keep (Nat.le_refl _) rfl (by grind [useNext])
  all_goals simp only [useAfter_concat, useNext]
  · grind [ha.opening]
  · grind [ha.direct]
  · grind [ha.parked]
  · grind [ha.served]
  · grind [ha.held, Connections.mem_held_release]

theorem Accounts.downloaded (ha : Accounts h a)
    (acquired : a.connections.acquire = some (slot, d)) (free : a.parked.get? session = none) :
    Accounts (h ++ [(.download session, .admitted slot)])
      { a with connections := d, parked := a.parked.insert session slot } := by
  have hg := Connections.givesOut_of_acquire acquired
  have hnone := ha.useAfter_of_givesOut hg
  constructor
  · rw [hg.issued]
    exact ha.granted.give (congrArg some hg.fresh)
  all_goals simp only [useAfter_concat, useNext]
  · grind [ha.opening]
  · grind [ha.direct]
  · intro other slot
    rw [Table.get?_insert]
    grind [ha.parked]
  · grind [ha.served]
  · grind [ha.held, hg.held]

/-- The slot that is taken for a session that is parked is given back at once. -/
theorem Accounts.repeated (ha : Accounts h a)
    (acquired : a.connections.acquire = some (slot, d)) :
    Accounts (h ++ [(.download session, .alreadyParked)])
      { a with connections := d.release slot } := by
  have hg := Connections.givesOut_of_acquire acquired
  have hissued : a.connections.issued ≤ d.issued := hg.issued ▸ Nat.le_succ _
  exact ha.unchanged rfl (fun _ => rfl) hissued hg.held_release rfl

theorem Accounts.paired (ha : Accounts h a) (waiting : a.parked.get? session = some slot) :
    Accounts (h ++ [(.upload session, .admitted slot)])
      { a with parked := a.parked.erase session, served := a.served ++ [slot] } := by
  have huse := (ha.parked session slot).mp waiting
  constructor
  · exact ha.granted.keep (Nat.le_refl _) rfl (by grind [useNext])
  all_goals simp only [useAfter_concat, useNext]
  · grind [ha.opening]
  · grind [ha.direct]
  · intro other slot
    rw [Table.get?_erase]
    grind [ha.parked]
  · grind [ha.served]
  · grind [ha.held]

theorem Accounts.finished (ha : Accounts h a) (served : slot ∈ a.served) :
    Accounts (h ++ [(.finish slot, .noted)])
      { a with
        connections := a.connections.release slot, served := a.served.filter (· ≠ slot) } := by
  have huse := (ha.served slot).mp served
  constructor
  · exact ha.granted.keep (Nat.le_refl _) rfl (by grind [useNext])
  all_goals simp only [useAfter_concat, useNext]
  · grind [ha.opening]
  · grind [ha.direct]
  · grind [ha.parked]
  · grind [ha.served]
  · grind [ha.held, Connections.mem_held_release]

theorem Accounts.expired (ha : Accounts h a) (waiting : a.parked.get? session = some slot) :
    Accounts (h ++ [(.expire session, .noted)])
      { a with connections := a.connections.release slot, parked := a.parked.erase session } := by
  have huse : ∀ other, useAfter h other = some (.parked session) ↔ other = slot := fun other => by
    rw [← ha.parked, waiting, Option.some.injEq, eq_comm]
  constructor
  · exact ha.granted.keep (Nat.le_refl _) rfl (by grind [useNext])
  all_goals simp only [useAfter_concat, useNext]
  · grind [ha.opening]
  · grind [ha.direct]
  · intro other slot
    rw [Table.get?_erase]
    grind [ha.parked]
  · grind [ha.served]
  · grind [ha.held, Connections.mem_held_release]

theorem Accounts.cleared (ha : Accounts h a) : Accounts (h ++ [(.clear, .noted)])
    { a with
      connections := releaseAll a.connections (a.parked.entries.map Prod.snd), parked := .empty } := by
  have hissued : a.connections.issued =
      (releaseAll a.connections (a.parked.entries.map Prod.snd)).issued :=
    (releaseAll_others _).2.1.symm
  have hparked : ∀ slot, (useAfter h slot).any SlotUse.isParked = true ↔
      slot ∈ a.parked.entries.map Prod.snd := fun slot => by
    rw [ha.mem_parked]
    rcases useAfter h slot with _ | _ | _ | session | _ <;> simp [SlotUse.isParked]
  constructor
  · exact ha.granted.keep (Nat.le_of_eq hissued) rfl (by grind [useNext])
  all_goals simp only [useAfter_concat, useNext]
  · grind [ha.opening, SlotUse.isParked]
  · grind [ha.direct, SlotUse.isParked]
  · intro session slot
    rw [Table.get?_empty]
    grind [SlotUse.isParked]
  · grind [ha.served, SlotUse.isParked]
  · intro slot
    rw [mem_held_releaseAll, ← hparked]
    grind [ha.held]

/-- An event that is about nothing the server has changes no use. -/
theorem Accounts.passed {event : AdmissionEvent} (ha : Accounts h a) (passes : a.Passes event) :
    Accounts (h ++ [(event, .noted)]) a := by
  have hunused : ∀ {slot : ℕ} {held : List ℕ} {use : SlotUse}, slot ∉ held →
      (∀ slot, slot ∈ held ↔ useAfter h slot = some use) → ∀ other,
      ¬ (slot = other ∧ useAfter h other = some use) := by
    rintro slot held use hmem hheld other ⟨rfl, huse⟩
    exact hmem ((hheld _).mpr huse)
  refine ha.unchanged ?_ (fun other => ?_) (Nat.le_refl _) rfl rfl
  · cases event <;> rfl
  · cases event with
    | opened slot how => exact if_neg (hunused passes ha.opening other)
    | disconnect slot => exact if_neg (hunused passes ha.direct other)
    | finish slot => exact if_neg (hunused passes ha.served other)
    | expire session =>
      refine if_neg fun huse => ?_
      rw [← ha.parked, show a.parked.get? session = none from passes] at huse
      cases huse
    | _ => exact passes.elim

/-- **Every event keeps the accounts.** -/
theorem Accounts.turn {b : Admission} {event : AdmissionEvent} {answer : AdmissionAnswer}
    (ha : Accounts h a) (ht : Turn a event answer b) : Accounts (h ++ [(event, answer)]) b := by
  cases ht with
  | connected acquired => exact ha.connected acquired
  | accepted opening => exact ha.accepted opening
  | failed opening unaccepted => exact ha.failed opening unaccepted
  | disconnected direct => exact ha.disconnected direct
  | parked acquired free => exact ha.downloaded acquired free
  | repeated acquired => exact ha.repeated acquired
  | paired waiting => exact ha.paired waiting
  | finished served => exact ha.finished served
  | expired waiting => exact ha.expired waiting
  | cleared => exact ha.cleared
  | passed passes => exact ha.passed passes
  | turnedAway => exact ha.unchanged rfl (fun _ => rfl) (Nat.le_refl _) rfl rfl
  | refused => exact ha.unchanged rfl (fun _ => rfl) (Nat.le_refl _) rfl rfl
  | unknown => exact ha.unchanged rfl (fun _ => rfl) (Nat.le_refl _) rfl rfl
  | draining => exact ha.unchanged rfl (fun _ => rfl) (Nat.le_refl _) rfl rfl

theorem Accounts.step (ha : Accounts h a) (event : AdmissionEvent) :
    Accounts (h ++ [(event, (a.step event).2)]) (a.step event).1 :=
  ha.turn (turn_step a event)

theorem accounts_after (max : ℕ) (events : List AdmissionEvent) :
    Accounts ((empty max).history events) ((empty max).after events) := by
  induction events using List.reverseRecOn with
  | nil => exact accounts_empty max
  | append_singleton events event ih =>
    rw [history_append, after_concat]
    exact ih.step event

variable {event : AdmissionEvent}

/-! ## Numbers -/

theorem Accounts.active_eq (ha : Accounts h a) :
    a.connections.active = h.granted.countP fun slot => (useAfter h slot).isSome := by
  have hfilter := ha.granted.nodup.filter fun slot => (useAfter h slot).isSome
  have hperm : a.connections.held.Perm
      (h.granted.filter fun slot => (useAfter h slot).isSome) := by
    refine (List.perm_ext_iff_of_nodup a.connections.nodup hfilter).mpr fun slot => ?_
    rw [ha.held, List.mem_filter, Option.isSome_iff_ne_none]
    exact ⟨fun huse => ⟨ha.granted.known slot huse, huse⟩, fun hs => hs.2⟩
  rw [Connections.active, hperm.length_eq, List.countP_eq_length_filter]

/-- Every use is of one of three kinds. -/
theorem count_kinds (h : AdmissionHistory) :
    (h.granted.countP fun slot => (useAfter h slot).isSome) =
      h.count SlotUse.isDirect + h.count SlotUse.isParked + h.count (· = .served) := by
  unfold AdmissionHistory.count
  induction h.granted with
  | nil => rfl
  | cons slot slots ih =>
    simp only [List.countP_cons, ih]
    rcases useAfter h slot with _ | _ | _ | session | _ <;>
      simp [SlotUse.isDirect, SlotUse.isParked] <;> omega

/-- No event changes how many slots there are, and only draining stops giving them out. -/
theorem Turn.connections {b : Admission} {answer : AdmissionAnswer} (ht : Turn a event answer b) :
    b.connections.limit = a.connections.limit ∧
      b.connections.draining = (a.connections.draining || event = .drain) := by
  cases ht with
  | connected acquired =>
    have hg := Connections.givesOut_of_acquire acquired
    simp [hg.limit, hg.draining]
  | parked acquired =>
    have hg := Connections.givesOut_of_acquire acquired
    simp [hg.limit, hg.draining]
  | repeated acquired =>
    have hg := Connections.givesOut_of_acquire acquired
    simp [Connections.release, hg.limit, hg.draining]
  | cleared => simp [releaseAll_others]
  | draining => simp [Connections.startDraining]
  | passed passes =>
    have hdrain : event ≠ .drain := by
      rintro rfl
      exact passes
    simp [hdrain]
  | _ => simp [Connections.release]

theorem limit_after (max : ℕ) (events : List AdmissionEvent) :
    ((empty max).after events).connections.limit = Nat.max max 1 := by
  induction events using List.reverseRecOn with
  | nil => rfl
  | append_singleton events event ih => rw [after_concat, (turn_step _ _).connections.1, ih]

theorem draining_after (max : ℕ) (events : List AdmissionEvent) :
    ((empty max).after events).connections.draining = true ↔ .drain ∈ events := by
  induction events using List.reverseRecOn with
  | nil => simp [empty, after, Connections.empty]
  | append_singleton events event ih =>
    rw [after_concat, (turn_step _ _).connections.2, Bool.or_eq_true, ih, List.mem_append,
      List.mem_singleton, decide_eq_true_eq, @eq_comm _ event]

/-! ## Slots that are given back -/

/-- The slot that an event takes, if it takes one. -/
def taken (a : Admission) : AdmissionEvent → List ℕ
  | .connect => (a.connections.acquire.map Prod.fst).toList
  | .download _ => (a.connections.acquire.map Prod.fst).toList
  | _ => []

/-- The slots that an event gives back. -/
def givenBack (a : Admission) : AdmissionEvent → List ℕ
  | .opened slot how => if slot ∈ a.opening ∧ how ≠ .accepted then [slot] else []
  | .disconnect slot => if slot ∈ a.direct then [slot] else []
  | .download session => if a.parked.contains session then a.taken (.download session) else []
  | .finish slot => if slot ∈ a.served then [slot] else []
  | .expire session => (a.parked.get? session).toList
  | .clear => a.parked.entries.map Prod.snd
  | _ => []

/-- An event gives back slots that are held, each once, and the number of slots held goes down by as
many. -/
structure Balanced (a : Admission) (event : AdmissionEvent) : Prop where
  once : (a.givenBack event).Nodup
  held : ∀ slot ∈ a.givenBack event, slot ∈ a.connections.held ++ a.taken event
  active : (a.step event).1.connections.active + (a.givenBack event).length =
    a.connections.active + (a.taken event).length

/-- An event that takes nothing and gives back one slot that is held. -/
theorem balanced_of_release {slot : ℕ} (htaken : a.taken event = [])
    (hback : a.givenBack event = [slot]) (hheld : slot ∈ a.connections.held)
    (hstep : (a.step event).1.connections = a.connections.release slot) : Balanced a event where
  once := hback ▸ List.nodup_singleton slot
  held other ho := by
    rw [hback, List.mem_singleton] at ho
    rw [htaken, List.append_nil, ho]
    exact hheld
  active := by
    rw [hstep, hback, htaken]
    exact Connections.active_release hheld

/-- An event that takes nothing and gives nothing back. -/
theorem balanced_of_same (htaken : a.taken event = []) (hback : a.givenBack event = [])
    (hstep : (a.step event).1.connections.held = a.connections.held) : Balanced a event where
  once := hback ▸ .nil
  held other ho := by
    rw [hback] at ho
    cases ho
  active := by rw [Connections.active, hstep, htaken, hback, Connections.active]

/-- An event that takes a slot and keeps it. -/
theorem balanced_of_taken {slot : ℕ} {d : Connections} (hg : a.connections.GivesOut slot d)
    (htaken : a.taken event = [slot]) (hback : a.givenBack event = [])
    (hstep : (a.step event).1.connections = d) : Balanced a event where
  once := hback ▸ .nil
  held other ho := by
    rw [hback] at ho
    cases ho
  active := by
    rw [hstep, htaken, hback, Connections.active, hg.held, List.length_append]
    rfl

theorem Accounts.nodup_parked (ha : Accounts h a) : (a.parked.entries.map Prod.snd).Nodup := by
  refine (List.Nodup.of_map Prod.fst a.parked.nodup).map_on fun x hx y hy hslot => ?_
  have hx' := (ha.parked x.1 x.2).mp (Table.get?_eq_some_iff.mpr hx)
  have hy' := (ha.parked y.1 y.2).mp (Table.get?_eq_some_iff.mpr hy)
  rw [hslot, hy', Option.some.injEq, SlotUse.parked.injEq] at hx'
  exact Prod.ext hx'.symm hslot

/-- **No slot is given back twice.** -/
theorem Accounts.balanced (ha : Accounts h a) (event : AdmissionEvent) : Balanced a event := by
  have hheld : ∀ slot use, useAfter h slot = some use → slot ∈ a.connections.held :=
    fun slot use huse => (ha.held slot).mpr (by simp [huse])
  have ht := turn_step a event
  generalize hstep : (a.step event).1 = b at ht
  generalize (a.step event).2 = answer at ht
  cases ht with
  | connected acquired =>
    exact balanced_of_taken (Connections.givesOut_of_acquire acquired) (by simp [taken, acquired])
      rfl (by rw [hstep])
  | turnedAway crowded =>
    exact balanced_of_same (by simp [taken, crowded]) rfl (by rw [hstep])
  | accepted opening => exact balanced_of_same rfl (by simp [givenBack]) (by rw [hstep])
  | failed opening unaccepted =>
    exact balanced_of_release rfl (by simp [givenBack, opening, unaccepted])
      (hheld _ _ ((ha.opening _).mp opening)) (by rw [hstep])
  | disconnected direct =>
    exact balanced_of_release rfl (by simp [givenBack, direct])
      (hheld _ _ ((ha.direct _).mp direct)) (by rw [hstep])
  | parked acquired free =>
    exact balanced_of_taken (Connections.givesOut_of_acquire acquired) (by simp [taken, acquired])
      (by simp [givenBack, Table.contains, free]) (by rw [hstep])
  | refused crowded =>
    exact balanced_of_same (by simp [taken, crowded]) (by simp [givenBack, taken, crowded])
      (by rw [hstep])
  | @repeated session slot d acquired waiting =>
    have hg := Connections.givesOut_of_acquire acquired
    have htaken : a.taken (.download session) = [slot] := by simp [taken, acquired]
    have hback : a.givenBack (.download session) = [slot] := by
      rw [givenBack, if_pos waiting, htaken]
    refine ⟨hback ▸ List.nodup_singleton slot, fun other ho => ?_, ?_⟩
    · rw [hback] at ho
      rw [htaken]
      exact List.mem_append_right _ ho
    · rw [hstep, hback, htaken, Connections.active, hg.held_release, Connections.active]
  | paired waiting => exact balanced_of_same rfl rfl (by rw [hstep])
  | unknown absent => exact balanced_of_same rfl rfl (by rw [hstep])
  | finished served =>
    exact balanced_of_release rfl (by simp [givenBack, served])
      (hheld _ _ ((ha.served _).mp served)) (by rw [hstep])
  | expired waiting =>
    exact balanced_of_release rfl (by simp [givenBack, waiting])
      (hheld _ _ ((ha.parked _ _).mp waiting)) (by rw [hstep])
  | cleared =>
    have hslots : ∀ slot ∈ a.parked.entries.map Prod.snd, slot ∈ a.connections.held :=
      fun slot hs => by
        obtain ⟨session, huse⟩ := ha.mem_parked.mp hs
        exact hheld slot _ huse
    refine ⟨ha.nodup_parked, fun slot hs => List.mem_append_left _ (hslots slot hs), ?_⟩
    rw [hstep]
    exact active_releaseAll ha.nodup_parked hslots
  | draining => exact balanced_of_same rfl rfl (by rw [hstep]; rfl)
  | passed passes =>
    refine balanced_of_same ?_ ?_ (by rw [hstep])
    · cases event <;> first | rfl | exact passes.elim
    · cases event with
      | opened slot how => exact if_neg fun h => passes h.1
      | disconnect slot => exact if_neg passes
      | finish slot => exact if_neg passes
      | expire session => exact congrArg Option.toList passes
      | _ => exact passes.elim

/-- What is refused changes neither what is held nor what it is held for. -/
theorem Turn.of_refusal {b : Admission} {answer : AdmissionAnswer} (ht : Turn a event answer b)
    (hr : answer.refusal?.isSome) :
    b.connections.held = a.connections.held ∧ b = { a with connections := b.connections } := by
  cases ht with
  | turnedAway => exact ⟨rfl, rfl⟩
  | refused => exact ⟨rfl, rfl⟩
  | repeated acquired => exact ⟨(Connections.givesOut_of_acquire acquired).held_release, rfl⟩
  | unknown => exact ⟨rfl, rfl⟩
  | _ => cases hr

/-! ## Downloads that are taken over -/

/-- An upload gets the slot that is parked for its session. -/
theorem Accounts.upload_iff (ha : Accounts h a) {session : TunnelSession} {slot : ℕ} :
    (a.step (.upload session)).2 = .admitted slot ↔ useAfter h slot = some (.parked session) := by
  rw [← ha.parked]
  rcases hparked : a.parked.get? session with _ | other <;> simp [Admission.step, hparked]

/-- A slot whose tunnel is served stays in use until the tunnel is finished, and from then on is not
in use; no upload gets it again. -/
theorem Accounts.served_until (ha : Accounts h a) {slot : ℕ} (hgranted : slot ∈ h.granted)
    (huse : useAfter h slot = some .served ∨ useAfter h slot = none)
    (events : List AdmissionEvent) :
    (∀ session, (.upload session, .admitted slot) ∉ a.history events) ∧
      useAfter (h ++ a.history events) slot =
        if useAfter h slot = some .served ∧ .finish slot ∉ events then some .served else none := by
  induction events generalizing h a with
  | nil => rcases huse with huse | huse <;> simp [history, huse]
  | cons event events ih =>
    have hnext := ha.step event
    have hkept : (h ++ [(event, (a.step event).2)]).granted =
        h.granted ++ (granted? (event, (a.step event).2)).toList := granted_concat _ _
    have hupload : ∀ session, (event, (a.step event).2) ≠ (.upload session, .admitted slot) := by
      intro session heq
      obtain ⟨rfl, hanswer⟩ := Prod.mk.inj heq
      rw [ha.upload_iff.mp hanswer] at huse
      simp at huse
    -- What has been given out is not given out again, and only a parked slot is taken over.
    have hafter : useNext slot (useAfter h slot) (event, (a.step event).2) =
        if event = .finish slot then none else useAfter h slot := by
      have hnew : granted? (event, (a.step event).2) ≠ some slot := by
        intro heq
        have hnodup := hnext.granted.nodup
        rw [hkept, heq] at hnodup
        exact (List.nodup_append.mp hnodup).2.2 slot hgranted slot (List.mem_singleton_self _) rfl
      exact useNext_of_spent hnew hupload huse
    rw [← useAfter_concat] at hafter
    have hgranted' : slot ∈ (h ++ [(event, (a.step event).2)]).granted :=
      hkept ▸ List.mem_append_left _ hgranted
    obtain ⟨hnone, hlater⟩ := ih hnext hgranted' (by rw [hafter]; split_ifs <;> simp [huse])
    rw [history, List.append_cons, hlater, hafter]
    refine ⟨fun session hmem => ?_, by grind⟩
    rcases List.mem_cons.mp hmem with heq | hmem
    · exact hupload session heq.symm
    · exact hnone session hmem

/-! ## Whole runs -/

/-- The slots of a server are accounted for by what has happened to it. -/
structure SlotsKept (max : ℕ) (h : AdmissionHistory) (a : Admission) : Prop where
  /-- The slots that are held are those of direct connections that have not ended, of parked
  downloads and of tunnels that are served. -/
  active : a.connections.active =
    h.count SlotUse.isDirect + h.count SlotUse.isParked + h.count (· = .served)
  limit : a.connections.active ≤ Nat.max max 1
  /-- Whatever happens next gives back only slots that are held, each once. -/
  balanced : ∀ event, Balanced a event
  /-- There is room for a connection as long as the limit is not reached and nothing drains. -/
  admitted : (∃ slot, (a.step .connect).2 = .admitted slot) ↔
    .drain ∉ h.map Prod.fst ∧ a.connections.active < Nat.max max 1
  refused : ∀ event, (a.step event).2.refusal?.isSome →
    (a.step event).1.connections.active = a.connections.active ∧
      (a.step event).1 = { a with connections := (a.step event).1.connections }
  drained : .drain ∈ h.map Prod.fst →
    (a.step .connect).2 = .full ∧ ∀ session, (a.step (.download session)).2 = .full
  parkedOnce : ∀ session slot other, useAfter h slot = some (.parked session) →
    useAfter h other = some (.parked session) → slot = other
  paired : ∀ session slot, (a.step (.upload session)).2 = .admitted slot ↔
    useAfter h slot = some (.parked session)
  /-- A parked download is taken over once, and its slot is that of the served tunnel until the
  tunnel is finished. -/
  takenOver : ∀ first session slot later, h = first ++ (.upload session, .admitted slot) :: later →
    useAfter first slot = some (.parked session) ∧
      (∀ other, (.upload other, .admitted slot) ∉ later) ∧
      useAfter h slot = if .finish slot ∈ later.map Prod.fst then none else some .served

theorem map_fst_history (a : Admission) (events : List AdmissionEvent) :
    (a.history events).map Prod.fst = events := by
  induction events generalizing a with
  | nil => rfl
  | cons event events ih => rw [history, List.map_cons, ih]

theorem split_of_history {events : List AdmissionEvent} {first later : AdmissionHistory}
    {x : AdmissionEvent × AdmissionAnswer} (hx : a.history events = first ++ x :: later) :
    ∃ before rest, events = before ++ x.1 :: rest ∧ a.history before = first ∧
      x = (x.1, ((a.after before).step x.1).2) ∧
      (a.after (before ++ [x.1])).history rest = later := by
  refine ⟨events.take first.length, events.drop (first.length + 1), ?_⟩
  induction first generalizing a events with
  | nil =>
    rcases events with _ | ⟨event, events⟩
    · cases hx
    · obtain ⟨rfl, rfl⟩ := List.cons.inj hx
      exact ⟨rfl, rfl, rfl, rfl⟩
  | cons y first ih =>
    rcases events with _ | ⟨event, events⟩
    · cases hx
    · obtain ⟨rfl, hrest⟩ := List.cons.inj hx
      obtain ⟨hevents, hfirst, hanswer, hlater⟩ := ih hrest
      exact ⟨congrArg (event :: ·) hevents, congrArg ((event, (a.step event).2) :: ·) hfirst,
        hanswer, hlater⟩

/-- **Slots are neither lost nor doubled.** -/
theorem slots_conserved (max : ℕ) (events : List AdmissionEvent) :
    SlotsKept max ((empty max).history events) ((empty max).after events) := by
  have ha := accounts_after max events
  have hlimit := limit_after max events
  have hdrain := draining_after max events
  have hroom : ((empty max).after events).connections.HasRoom ↔
      .drain ∉ events ∧ ((empty max).after events).connections.active < Nat.max max 1 := by
    rw [Connections.HasRoom, ← hdrain, Bool.not_eq_true, hlimit]
  refine ⟨ha.active_eq.trans (count_kinds _), hlimit ▸ Connections.within _, ha.balanced, ?_, ?_,
    ?_, ?_, fun session slot => ha.upload_iff, ?_⟩
  · rw [map_fst_history, ← hroom]
    rcases hacquire : ((empty max).after events).connections.acquire with _ | ⟨slot, d⟩
    · simpa [Admission.step, hacquire] using Connections.acquire_eq_none_iff.mp hacquire
    · simpa [Admission.step, hacquire] using (Connections.givesOut_of_acquire hacquire).room
  · intro event hr
    obtain ⟨hheld, hsame⟩ := (turn_step _ event).of_refusal hr
    exact ⟨congrArg List.length hheld, hsame⟩
  · rw [map_fst_history]
    intro hmem
    have hacquire : ((empty max).after events).connections.acquire = none :=
      Connections.acquire_eq_none_iff.mpr fun h => (hroom.mp h).1 hmem
    exact ⟨by simp [Admission.step, hacquire], fun session => by simp [Admission.step, hacquire]⟩
  · intro session slot other hslot hother
    rw [← ha.parked] at hslot hother
    exact Option.some.inj (hslot.symm.trans hother)
  · intro first session slot later hsplit
    obtain ⟨before, rest, -, hfirst, hanswer, hlater⟩ := split_of_history hsplit
    have hbefore := accounts_after max before
    have hafter := accounts_after max (before ++ [.upload session])
    have hanswer := (Prod.mk.inj hanswer).2.symm
    have hhistory : (empty max).history (before ++ [.upload session]) =
        first ++ [(.upload session, .admitted slot)] := by
      rw [history_append, hfirst, history, history, hanswer]
    rw [hhistory] at hafter
    have hserved : useAfter (first ++ [(.upload session, .admitted slot)]) slot = some .served := by
      rw [useAfter_concat]
      exact if_pos rfl
    obtain ⟨hnone, huntil⟩ := hafter.served_until
      (hafter.granted.known slot (by simp [hserved])) (.inl hserved) rest
    rw [hlater, ← List.append_cons, ← hsplit] at huntil
    refine ⟨hfirst ▸ hbefore.upload_iff.mp hanswer, hlater ▸ hnone, huntil.trans ?_⟩
    rw [← hlater, map_fst_history, hserved]
    simp [ite_not]

end Admission

end Server

end CommandLink
