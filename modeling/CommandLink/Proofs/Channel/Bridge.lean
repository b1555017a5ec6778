import CommandLink.Proofs.Channel.Deeds
import CommandLink.Proofs.Channel.Exchange
import Mathlib.Logic.Function.Basic

/-!
# Bridges

A bridge puts two ends together with two pipes. What one end writes goes into its pipe, as far as
there is room, and what comes out is the same bytes in the same order, in chunks of any size
(`Bridge.Lossless`). As long as neither end closes, every call of either end is handled at the other
exactly once, if it returns (`calls_exactlyOnce`).
-/

namespace CommandLink

/-! ## Pipes -/

/-- The bytes that have been written and not been delivered, with room for some number of them. -/
structure Pipe where
  capacity : ℕ
  bytes : Bytes
  fits : bytes.length ≤ capacity

namespace Pipe

/-- A pipe with nothing in it. -/
def empty (capacity : ℕ) : Pipe := ⟨capacity, [], Nat.zero_le _⟩

/-- Writes to a pipe, where there is room. -/
def put? (p : Pipe) (bytes : Bytes) : Option Pipe :=
  if h : (p.bytes ++ bytes).length ≤ p.capacity then some ⟨p.capacity, p.bytes ++ bytes, h⟩
  else none

/-- What is left of a pipe when some bytes have come out. -/
def drop (p : Pipe) (count : ℕ) : Pipe :=
  ⟨p.capacity, p.bytes.drop count, by
    rw [List.length_drop]
    exact Nat.le_trans (Nat.sub_le _ _) p.fits⟩

theorem bytes_of_put? {p p' : Pipe} {bytes : Bytes} (h : p.put? bytes = some p') :
    p'.bytes = p.bytes ++ bytes := by
  unfold put? at h
  split_ifs at h
  cases h
  rfl

end Pipe

/-! ## Two ends and two pipes -/

/-- The two ends of a bridge. -/
inductive Side where
  | near
  | far
  deriving DecidableEq, Repr

namespace Side

/-- The other end. -/
def other : Side → Side
  | near => far
  | far => near

theorem other_other (s : Side) : s.other.other = s := by
  cases s <;> rfl

theorem other_ne (s : Side) : s.other ≠ s := by
  cases s <;> decide

theorem eq_other_of_ne {s t : Side} (h : t ≠ s) : t = s.other := by
  cases s <;> cases t <;> first | rfl | exact absurd rfl h

end Side

/-- Whether an action is one of an end itself, and not one of its bridge. -/
def Action.isOwn {ω ρ : Type} : Action ω ρ → Bool
  | .agent _ (.fail _) => false
  | .agent _ _ => true
  | .start _ => true
  | .elapse _ => true
  | .deliver _ => false
  | .endInput => false

/-- Something happens at an end. -/
def Endpoint.extend {ω ρ : Type} (e : Endpoint ω ρ) (action : Action ω ρ) : Endpoint ω ρ :=
  { e with actions := e.actions ++ [action] }

/-- A bridge: its ends, and for each the pipe into which it writes. -/
structure Bridge (ω ρ : Side → Type) where
  ends : (s : Side) → Endpoint (ω s) (ρ s)
  pipes : Side → Pipe

namespace Bridge

variable {ω ρ : Side → Type}

/-- Something that happens on a bridge. -/
inductive Move (ω ρ : Side → Type) where
  /-- One of the actions of an end. -/
  | acts (s : Side) (action : Action (ω s) (ρ s))
  /-- Some of the bytes that an end has written arrive at the other. -/
  | carries (s : Side) (count : ℕ)

/-- A bridge whose ends have just been opened. -/
def start (setup : (s : Side) → ChannelSetup (ω s) (ρ s)) (world : (s : Side) → ω s)
    (guarded : Side → Bool) (capacity : Side → ℕ) : Bridge ω ρ :=
  ⟨fun s => ⟨setup s, world s, guarded s, []⟩, fun s => .empty (capacity s)⟩

/-- What a move does to a bridge; none where it is not enabled. -/
def step (b : Bridge ω ρ) : Move ω ρ → Option (Bridge ω ρ)
  | .acts s action =>
    if action.isOwn then
      ((b.ends s).channel.step action).bind fun stepped =>
        ((b.pipes s).put? (Trace.written stepped.2)).map fun pipe =>
          ⟨Function.update b.ends s ((b.ends s).extend action), Function.update b.pipes s pipe⟩
    else none
  | .carries s count =>
    let arriving := Action.deliver ((b.pipes s).bytes.take count)
    ((b.ends s.other).channel.step arriving).map fun _ =>
      ⟨Function.update b.ends s.other ((b.ends s.other).extend arriving),
        Function.update b.pipes s ((b.pipes s).drop count)⟩

/-- The bridge after some moves; those that are not enabled are passed over. -/
def after (b : Bridge ω ρ) : List (Move ω ρ) → Bridge ω ρ
  | [] => b
  | move :: moves =>
    match b.step move with
    | none => b.after moves
    | some b' => b'.after moves

/-- What every move of a run preserves holds after the run. -/
theorem after_induction {P : Bridge ω ρ → Prop} {b : Bridge ω ρ} {moves : List (Move ω ρ)}
    (hb : P b) (hstep : ∀ b b' move, move ∈ moves → P b → b.step move = some b' → P b') :
    P (b.after moves) := by
  induction moves generalizing b with
  | nil => exact hb
  | cons move moves ih =>
    rw [after]
    split
    · exact ih hb fun b b' m hm => hstep b b' m (List.mem_cons_of_mem _ hm)
    · rename_i b' hb'
      exact ih (hstep b b' move List.mem_cons_self hb hb') fun b b' m hm =>
        hstep b b' m (List.mem_cons_of_mem _ hm)

end Bridge

/-! ## Actions of an end -/

namespace Endpoint

variable {ω ρ : Type} {e : Endpoint ω ρ} {action : Action ω ρ} {d : Channel ω ρ}
  {events : List (Event ρ)}

theorem moments_extend (h : e.channel.step action = some (d, events)) :
    (e.extend action).opened.moments (e.extend action).actions =
      e.opened.moments e.actions ++ [⟨e.channel, action, d, events⟩] := by
  change e.opened.moments (e.actions ++ [action]) = _
  rw [Channel.moments_append, Channel.moments_cons_of_step h, Channel.moments_nil]

theorem written_extend (h : e.channel.step action = some (d, events)) :
    (e.extend action).written = e.written ++ Trace.written events := by
  rw [written, Channel.written, moments_extend h, List.flatMap_append, Trace.written_append,
    List.flatMap_singleton]
  rfl

theorem delivered_extend (h : e.channel.step action = some (d, events)) :
    (e.extend action).delivered = e.delivered ++ action.delivered := by
  rw [delivered, Channel.delivered, moments_extend h, List.flatMap_append, List.flatMap_singleton]
  rfl

theorem delivered_of_isOwn (h : action.isOwn = true) : action.delivered = [] := by
  cases action
  case deliver => cases h
  all_goals rfl

theorem not_fail_of_isOwn (h : action.isOwn = true) (a : Agent) (error : IoError) :
    action ≠ .agent a (.fail error) := by
  rintro rfl
  cases h

/-- What arrives is not answered at once. -/
theorem events_of_deliver {bytes : Bytes}
    (h : e.channel.step (.deliver bytes) = some (d, events)) : events = [] := by
  simp only [Channel.step] at h
  split_ifs at h
  cases h
  rfl

end Endpoint

namespace Bridge

variable {ω ρ : Side → Type} {b b' : Bridge ω ρ} {move : Move ω ρ}
  {setup : (s : Side) → ChannelSetup (ω s) (ρ s)} {world : (s : Side) → ω s}
  {guarded : Side → Bool} {capacity : Side → ℕ} {moves : List (Move ω ρ)}

/-! ## Nothing is lost -/

/-- What a move does: an end acts, and its pipe takes what it writes, or a pipe delivers. -/
inductive Moves (b : Bridge ω ρ) : Move ω ρ → Bridge ω ρ → Prop
  | acted (s : Side) (action : Action (ω s) (ρ s)) (d : Channel (ω s) (ρ s))
    (events : List (Event (ρ s))) (pipe : Pipe) (own : action.isOwn = true)
    (step : (b.ends s).channel.step action = some (d, events))
    (bytes : pipe.bytes = (b.pipes s).bytes ++ Trace.written events) :
    Moves b (.acts s action)
      ⟨Function.update b.ends s ((b.ends s).extend action), Function.update b.pipes s pipe⟩
  | carried (s : Side) (count : ℕ) (d : Channel (ω s.other) (ρ s.other))
    (events : List (Event (ρ s.other)))
    (step : (b.ends s.other).channel.step (.deliver ((b.pipes s).bytes.take count)) =
      some (d, events)) :
    Moves b (.carries s count)
      ⟨Function.update b.ends s.other
          ((b.ends s.other).extend (.deliver ((b.pipes s).bytes.take count))),
        Function.update b.pipes s ((b.pipes s).drop count)⟩

theorem step_moves (h : b.step move = some b') : Moves b move b' := by
  cases move with
  | acts s action =>
    simp only [step] at h
    split_ifs at h with hown
    obtain ⟨⟨d, events⟩, hstep, hput⟩ := Option.bind_eq_some_iff.mp h
    obtain ⟨pipe, hpipe, heq⟩ := Option.map_eq_some_iff.mp hput
    cases heq
    exact .acted s action d events pipe hown hstep (Pipe.bytes_of_put? hpipe)
  | carries s count =>
    obtain ⟨⟨d, events⟩, hstep, heq⟩ := Option.map_eq_some_iff.mp h
    cases heq
    exact .carried s count d events hstep

/-- Nothing is lost on a bridge: what an end has written has been delivered to the other, in the
same order, but for what is still in the pipe. Besides, its ends are the ones that have been opened,
and nothing else has happened to them than what they do themselves and what arrives. -/
structure Lossless (setup : (s : Side) → ChannelSetup (ω s) (ρ s)) (moves : List (Move ω ρ))
    (b : Bridge ω ρ) : Prop where
  setup_eq : ∀ s, (b.ends s).setup = setup s
  fifo : ∀ s, (b.ends s).written = (b.ends s.other).delivered ++ (b.pipes s).bytes
  unbroken : ∀ s, ∀ action ∈ (b.ends s).actions, ∀ a error, action ≠ .agent a (.fail error)
  started : ∀ s routine, .start routine ∈ (b.ends s).actions → .acts s (.start routine) ∈ moves

/-- What holds of all the ends of a bridge still does when it holds of the one that has acted. -/
theorem forall_update {P : (s : Side) → Endpoint (ω s) (ρ s) → Prop} {s : Side}
    {e : Endpoint (ω s) (ρ s)} (h : ∀ t, P t (b.ends t)) (he : P s e) (t : Side) :
    P t (Function.update b.ends s e t) := by
  by_cases ht : t = s
  · subst ht
    rw [Function.update_self]
    exact he
  · rw [Function.update_of_ne ht]
    exact h t

theorem Lossless.acted (h : Lossless setup moves b) {s : Side} {action : Action (ω s) (ρ s)}
    {d : Channel (ω s) (ρ s)} {events : List (Event (ρ s))} {pipe : Pipe}
    (hown : action.isOwn = true) (hstep : (b.ends s).channel.step action = some (d, events))
    (hbytes : pipe.bytes = (b.pipes s).bytes ++ Trace.written events)
    (hm : .acts s action ∈ moves) :
    Lossless setup moves
      ⟨Function.update b.ends s ((b.ends s).extend action), Function.update b.pipes s pipe⟩ where
  setup_eq := forall_update (P := fun t e => e.setup = setup t) h.setup_eq (h.setup_eq s)
  fifo t := by
    by_cases ht : t = s
    · subst ht
      simp only [Function.update_self, Function.update_of_ne t.other_ne]
      rw [Endpoint.written_extend hstep, hbytes, h.fifo t, List.append_assoc]
    · obtain rfl := Side.eq_other_of_ne (Ne.symm ht)
      simp only [Function.update_self, Function.update_of_ne ht]
      rw [Endpoint.delivered_extend hstep, Endpoint.delivered_of_isOwn hown, List.append_nil]
      exact h.fifo t
  unbroken := by
    refine forall_update (P := fun t e => ∀ action ∈ e.actions, ∀ a error,
      action ≠ .agent a (.fail error)) h.unbroken fun action' hmem => ?_
    rcases List.mem_append.mp hmem with hmem | hmem
    · exact h.unbroken s action' hmem
    · rw [List.mem_singleton.mp hmem]
      exact Endpoint.not_fail_of_isOwn hown
  started := by
    refine forall_update (P := fun t e => ∀ routine, .start routine ∈ e.actions →
      .acts t (.start routine) ∈ moves) h.started fun routine hmem => ?_
    rcases List.mem_append.mp hmem with hmem | hmem
    · exact h.started s routine hmem
    · rw [List.mem_singleton.mp hmem]
      exact hm

theorem Lossless.carried (h : Lossless setup moves b) {s : Side} {count : ℕ}
    {d : Channel (ω s.other) (ρ s.other)} {events : List (Event (ρ s.other))}
    (hstep : (b.ends s.other).channel.step (.deliver ((b.pipes s).bytes.take count)) =
      some (d, events)) :
    Lossless setup moves
      ⟨Function.update b.ends s.other
          ((b.ends s.other).extend (.deliver ((b.pipes s).bytes.take count))),
        Function.update b.pipes s ((b.pipes s).drop count)⟩ where
  setup_eq := forall_update (P := fun t e => e.setup = setup t) h.setup_eq (h.setup_eq s.other)
  fifo t := by
    by_cases ht : t = s
    · subst ht
      simp only [Function.update_self, Function.update_of_ne t.other_ne.symm]
      rw [Endpoint.delivered_extend hstep, h.fifo t, List.append_assoc]
      exact congrArg _ (List.take_append_drop count _).symm
    · obtain rfl := Side.eq_other_of_ne ht
      simp only [Function.update_self, Function.update_of_ne s.other_ne,
        Function.update_of_ne s.other.other_ne]
      rw [Endpoint.written_extend hstep, Endpoint.events_of_deliver hstep]
      exact (List.append_nil _).trans (h.fifo s.other)
  unbroken := by
    refine forall_update (P := fun t e => ∀ action ∈ e.actions, ∀ a error,
      action ≠ .agent a (.fail error)) h.unbroken fun action' hmem a error => ?_
    rcases List.mem_append.mp hmem with hmem | hmem
    · exact h.unbroken s.other action' hmem a error
    · rw [List.mem_singleton.mp hmem]
      exact fun heq => nomatch heq
  started := by
    refine forall_update (P := fun t e => ∀ routine, .start routine ∈ e.actions →
      .acts t (.start routine) ∈ moves) h.started fun routine hmem => ?_
    rcases List.mem_append.mp hmem with hmem | hmem
    · exact h.started s.other routine hmem
    · cases List.mem_singleton.mp hmem

theorem lossless_start : Lossless setup moves (start setup world guarded capacity) where
  setup_eq _ := rfl
  fifo _ := rfl
  unbroken _ _ hmem := absurd hmem List.not_mem_nil
  started _ _ hmem := absurd hmem List.not_mem_nil

/-- **Nothing is lost on a bridge**, whatever happens. -/
theorem lossless_after (moves : List (Move ω ρ)) :
    Lossless setup moves ((start setup world guarded capacity).after moves) := by
  refine after_induction lossless_start fun b b' move hm h hmove => ?_
  cases step_moves hmove with
  | acted s action d events pipe hown hstep hbytes => exact h.acted hown hstep hbytes hm
  | carried s count d events hstep => exact h.carried hstep

/-! ## Exactly-once calls -/

/-- The ends of a bridge that are open are coupled. -/
theorem Lossless.coupled (h : Lossless setup moves b) {limit : ℕ}
    (hlimit : ∀ s, (setup s).frameLimit = limit) (hfloor : 4096 ≤ limit) (hword : limit ≤ maxWord)
    (hproper : ∀ s, (setup s).handler.Proper)
    (hsilent : ∀ s routine, .acts s (.start routine) ∈ moves → Routine.Silent routine)
    (hopen : ∀ s, (b.ends s).channel.closing = false) (s : Side) :
    Coupled (b.ends s) (b.ends s.other) := by
  have hhealthy : ∀ t, (b.ends t).Healthy := fun t =>
    { floor := by rw [h.setup_eq, hlimit]; exact hfloor
      word := by rw [h.setup_eq, hlimit]; exact hword
      proper := by rw [h.setup_eq]; exact hproper t
      silent := fun m hm routine haction => hsilent t routine
        (h.started t routine (haction ▸ Channel.action_mem_of_mem_moments _ hm))
      closing := hopen t
      unbroken := fun m hm => h.unbroken t m.action (Channel.action_mem_of_mem_moments _ hm) }
  refine ⟨hhealthy s, hhealthy s.other, ?_, ?_, ?_⟩
  · rw [h.setup_eq, h.setup_eq, hlimit, hlimit]
  · rw [h.fifo s]
    exact List.prefix_append _ _
  · have hback := h.fifo s.other
    rw [s.other_other] at hback
    rw [hback]
    exact List.prefix_append _ _

/-- **Exactly-once calls.** Two ends with the same limit for frames are connected by two pipes of
any capacity, and handle calls with any handlers, which may call back. Whatever happens in whatever
order, as long as neither end closes and there are identifiers for its calls, every call of an end
is handled at the other once at most, as the call that it is. A call that returns has been handled
exactly once, and returns the reply or the failure that this has come to, or what stands for a
handler that has broken down or an answer that is too large, unless it was too large to be sent
itself. Both ends may call at once, with the same identifiers. -/
theorem calls_exactlyOnce {limit : ℕ} (hlimit : ∀ s, (setup s).frameLimit = limit)
    (hfloor : 4096 ≤ limit) (hword : limit ≤ maxWord) (hproper : ∀ s, (setup s).handler.Proper)
    (hsilent : ∀ s routine, .acts s (.start routine) ∈ moves → Routine.Silent routine)
    (hopen : ∀ s, (((start setup world guarded capacity).after moves).ends s).channel.closing =
      false) (s : Side) :
    let b := (start setup world guarded capacity).after moves
    (drawnIds (b.ends s).history).length ≤ UInt64.size →
      CallsExactlyOnce (b.ends s) (b.ends s.other) := by
  intro b hlength
  have hb : Lossless setup moves b := lossless_after moves
  have hsound : Sound (b.ends s).channel.ledger (b.ends s).history :=
    Channel.sound_history _ _ _ _
  exact (hb.coupled hlimit hfloor hword hproper hsilent hopen s).callsExactlyOnce
    (hsound.numbered.nodup hlength)

/-- Two ends that accept nothing, and pipes that do not hold a frame. -/
def refusing : Bridge (fun _ => Unit) (fun _ => Unit) :=
  start (fun _ => Channel.refusingLink) (fun _ => ()) (fun _ => false) fun _ => 64

/-- One end calls the other. The request and its response take two chunks each. -/
def refusedCall : List (Move (fun _ => Unit) (fun _ => Unit)) :=
  let caller : Routine Unit Unit Unit := do
    let _ ← Routine.call .readBuildToken
    return ()
  let near (choice : Choice) : Move (fun _ => Unit) (fun _ => Unit) :=
    .acts .near (.agent (.task 0) choice)
  let far (choice : Choice) : Move (fun _ => Unit) (fun _ => Unit) :=
    .acts .far (.agent (.task 0) choice)
  [.acts .near (.start caller), near .go, near .go, near .go, near .go, near .go, near .go,
    near .go, near (.write 40), .carries .near 15, near (.write 40), .carries .near 64, near .go,
    .acts .far (.agent .reader .go), far .go, far .go, far .go, far (.write 64), .carries .far 64,
    far (.write 64), .carries .far 64, far .go, .acts .near (.agent .reader .go), near .go]

/-- The call is handled once, and returns what has come of that. -/
theorem calls_exactlyOnce_refusal :
    (∀ s, ((refusing.after refusedCall).ends s).channel.closing = false) ∧
    CallsExactlyOnce ((refusing.after refusedCall).ends .near)
      ((refusing.after refusedCall).ends .far) ∧
    ((refusing.after refusedCall).ends .far).handled 1 = [.readBuildToken] ∧
    ((refusing.after refusedCall).ends .near).history.filterMap (Note.result? (.task 0)) =
      [.error (.remote "read_build_token is not accepted on this side")] := by
  obtain ⟨hnear, hfar, hlength, hhandled, hresult⟩ :
      ((refusing.after refusedCall).ends .near).channel.closing = false ∧
      ((refusing.after refusedCall).ends .far).channel.closing = false ∧
      (drawnIds ((refusing.after refusedCall).ends .near).history).length = 1 ∧
      ((refusing.after refusedCall).ends .far).handled 1 = [.readBuildToken] ∧
      ((refusing.after refusedCall).ends .near).history.filterMap (Note.result? (.task 0)) =
        [.error (.remote "read_build_token is not accepted on this side")] := by
    decide +kernel
  have hopen : ∀ s, ((refusing.after refusedCall).ends s).channel.closing = false := by
    intro s
    cases s with
    | near => exact hnear
    | far => exact hfar
  refine ⟨hopen, ?_, hhandled, hresult⟩
  refine calls_exactlyOnce (fun _ => rfl) (Nat.le_refl 4096) (by decide)
    (fun _ => Handler.proper_refuseAll) (fun s routine hm => ?_) hopen .near ?_
  · cases s with
    | near =>
      simp only [refusedCall, List.mem_cons, List.not_mem_nil, Move.acts.injEq, Action.start.injEq,
        reduceCtorEq, heq_eq_eq, true_and, and_false, or_false] at hm
      subst hm
      exact ⟨trivial, fun _ => trivial⟩
    | far => simp [refusedCall] at hm
  · exact Nat.le_trans (Nat.le_of_eq hlength) (by decide)

end Bridge

end CommandLink
