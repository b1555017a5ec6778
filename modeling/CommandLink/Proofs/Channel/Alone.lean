import CommandLink.Proofs.Channel.Following

/-!
# Tasks and routines by themselves

A routine by itself gets replies to its calls one after the other and finds a world that nothing
changes (`Routine.alone`). A routine that goes on with another is by itself what the two are, one
after the other (`Routine.alone_bind`). What is left of a routine after some answers does by itself
what the routine has left to do (`Routine.alone_follow`), where it needs no more than replies to its
calls (`Op.Tame`).
-/

namespace CommandLink

variable {ω ρ α β : Type}

/-- What a routine does to the outside. -/
inductive Deed (ρ : Type) where
  | called (call : Call)
  | logged (entry : LogEntry)
  | reported (value : ρ)
  | answered (id : CallId) (result : Except Failure Reply)

/-- What an operation does to the outside. -/
def Op.deed? : Op ω ρ → Option (Deed ρ)
  | .call made => some (.called made)
  | .log entry => some (.logged entry)
  | .report value => some (.reported value)
  | .respond id result => some (.answered id result)
  | _ => none

/-- The replies to calls. -/
abbrev Replies := List (Except ChannelError Reply)

/-- What answers an operation in a world, with the replies that are left after it. A call takes a
reply. -/
def Op.supply (world : ω) : (op : Op ω ρ) → Replies → Option (op.Answer × Replies)
  | .call _, reply :: replies => some (reply, replies)
  | .change _, replies => some (world, replies)
  | .log _, replies => some ((), replies)
  | .report _, replies => some ((), replies)
  | .respond _ _, replies => some ((), replies)
  | _, _ => none

/-- What becomes of a routine by itself. -/
structure Solo (ρ α : Type) where
  deeds : List (Deed ρ)
  /-- The replies that are left. -/
  unused : Replies
  /-- How the routine ends, if it does not stop before. -/
  result : Option α

/-- What becomes of a routine that has done something before. -/
def Solo.since (deeds : List (Deed ρ)) (s : Solo ρ α) : Solo ρ α :=
  { s with deeds := deeds ++ s.deeds }

/-- What becomes of what goes on after the end. -/
def Solo.bind (s : Solo ρ α) (next : α → Replies → Solo ρ β) : Solo ρ β :=
  match s.result with
  | none => ⟨s.deeds, s.unused, none⟩
  | some a => (next a s.unused).since s.deeds

theorem Solo.since_since (first later : List (Deed ρ)) (s : Solo ρ α) :
    (s.since later).since first = s.since (first ++ later) := by
  rw [since, since, since, List.append_assoc]

theorem Solo.since_bind (deeds : List (Deed ρ)) (s : Solo ρ α) (next : α → Replies → Solo ρ β) :
    (s.since deeds).bind next = (s.bind next).since deeds := by
  obtain ⟨later, unused, result⟩ := s
  rcases result with _ | a
  · rfl
  · exact (Solo.since_since deeds later _).symm

/-! ## Routines by themselves -/

namespace Routine

/-- What becomes of a routine in a world that nothing changes, whose calls get some replies one
after the other. It stops at a call for which there is no reply. -/
def alone (world : ω) : Routine ω ρ α → Replies → Solo ρ α
  | .done result, replies => ⟨[], replies, some result⟩
  | .ask op next, replies =>
    match op.supply world replies with
    | none => ⟨op.deed?.toList, replies, none⟩
    | some (a, left) => (alone world (next a) left).since op.deed?.toList

variable {world : ω}

theorem alone_ask {op : Op ω ρ} {next : op.Answer → Routine ω ρ α} {replies left : Replies}
    {a : op.Answer} (h : op.supply world replies = some (a, left)) :
    alone world (.ask op next) replies = (alone world (next a) left).since op.deed?.toList := by
  rw [alone, h]

theorem alone_bind (routine : Routine ω ρ α) (next : α → Routine ω ρ β) (replies : Replies) :
    alone world (routine.bind next) replies =
      (alone world routine replies).bind fun a left => alone world (next a) left := by
  induction routine generalizing replies with
  | done result => rfl
  | ask op f ih =>
    rw [Dialogue.bind, alone, alone]
    rcases h : op.supply world replies with _ | ⟨a, left⟩
    · rfl
    · simp only [ih]
      rw [Solo.since_bind]

/-- What a routine has done to the outside along what it has heard. -/
def deedsAlong : Routine ω ρ α → List (Heard ω) → List (Deed ρ)
  | .ask op next, heard :: later =>
    op.deed?.toList ++ ((op.answer? heard).map fun a => deedsAlong (next a) later).getD []
  | _, _ => []

/-- What the first operation of a routine does to the outside. -/
def firstDeed : Routine ω ρ α → List (Deed ρ)
  | .done _ => []
  | .ask op _ => op.deed?.toList

@[simp]
theorem deedsAlong_nil (routine : Routine ω ρ α) : deedsAlong routine [] = [] := by
  cases routine <;> rfl

theorem deedsAlong_append {routine left : Routine ω ρ α} {heard : List (Heard ω)}
    (h : follow routine heard = some left) (later : List (Heard ω)) :
    deedsAlong routine (heard ++ later) = deedsAlong routine heard ++ deedsAlong left later := by
  induction heard generalizing routine with
  | nil =>
    rw [follow_nil, Option.some.injEq] at h
    rw [h, deedsAlong_nil, List.nil_append, List.nil_append]
  | cons first heard ih =>
    cases routine with
    | done result => cases h
    | ask op next =>
      obtain ⟨a, ha, hleft⟩ := Option.bind_eq_some_iff.mp h
      simp only [List.cons_append, deedsAlong, ha, Option.map_some, Option.getD_some, ih hleft,
        List.append_assoc]

/-- What is heard after the first operation. -/
theorem deedsAlong_singleton {routine left : Routine ω ρ α} {heard : Heard ω}
    (h : follow routine [heard] = some left) : deedsAlong routine [heard] = firstDeed routine := by
  cases routine with
  | done result => cases h
  | ask op next =>
    obtain ⟨a, ha, -⟩ := Option.bind_eq_some_iff.mp h
    simp only [deedsAlong, ha, Option.map_some, Option.getD_some, deedsAlong_nil, List.append_nil,
      firstDeed]

theorem firstDeed_prefix (routine : Routine ω ρ α) (replies : Replies) :
    firstDeed routine <+: (alone world routine replies).deeds := by
  cases routine with
  | done result => exact List.prefix_rfl
  | ask op next =>
    rw [firstDeed, alone]
    split
    · exact List.prefix_rfl
    · exact List.prefix_append _ _

end Routine

/-! ## What a task hears -/

/-- A reply that is heard. -/
def Heard.reply? : Heard ω → Option (Except ChannelError Reply)
  | .reply result => some result
  | _ => none

/-- An operation that needs no more than replies to calls, and leaves the world as it is. -/
def Op.Tame : Op ω ρ → Prop
  | .call _ => True
  | .log _ => True
  | .report _ => True
  | .respond _ _ => True
  | .change f => f = id
  | _ => False

/-- An operation that leaves the world as it is. -/
def Op.Still : Op ω ρ → Prop
  | .change f => f = id
  | _ => True

theorem Op.Tame.still {op : Op ω ρ} (h : op.Tame) : op.Still := by
  cases op
  case change => exact h
  all_goals trivial

theorem Op.Tame.supply {world : ω} {op : Op ω ρ} (ht : op.Tame) {heard : Heard ω} {a : op.Answer}
    (ha : op.answer? heard = some a) (hw : ∀ w, heard = .world w → w = world) (replies : Replies) :
    op.supply world (heard.reply?.toList ++ replies) = some (a, replies) := by
  cases op
  case call =>
    cases heard
    case reply => cases ha; rfl
    all_goals cases ha
  case change =>
    cases heard
    case world w =>
      rw [← hw w rfl]
      cases ha
      rfl
    all_goals cases ha
  case log =>
    cases heard
    case done => rfl
    all_goals cases ha
  case report =>
    cases heard
    case done => rfl
    all_goals cases ha
  case respond =>
    cases heard
    case done => rfl
    all_goals cases ha
  all_goals exact ht.elim

/-- **What is left of a routine** after what it has heard does by itself what the routine has left
to do. -/
theorem Routine.alone_follow {world : ω} {routine left : Routine ω ρ α} {R : α → Prop}
    {heard : List (Heard ω)} (ht : Dialogue.All Op.Tame R routine)
    (h : follow routine heard = some left) (hw : ∀ w, .world w ∈ heard → w = world)
    (replies : Replies) :
    alone world routine (heard.filterMap Heard.reply? ++ replies) =
      (alone world left replies).since (deedsAlong routine heard) := by
  induction heard generalizing routine with
  | nil =>
    rw [follow_nil, Option.some.injEq] at h
    rw [h, deedsAlong_nil]
    rfl
  | cons first heard ih =>
    cases routine with
    | done result => cases h
    | ask op next =>
      obtain ⟨a, ha, hleft⟩ := Option.bind_eq_some_iff.mp h
      have hsupply := ht.1.supply ha (fun w hfirst => hw w (hfirst ▸ List.mem_cons_self))
        (heard.filterMap Heard.reply? ++ replies)
      have hreplies : (first :: heard).filterMap Heard.reply? ++ replies =
          first.reply?.toList ++ (heard.filterMap Heard.reply? ++ replies) := by
        cases first <;> rfl
      rw [hreplies, alone_ask hsupply,
        ih (ht.2 a) hleft fun w hmem => hw w (List.mem_cons_of_mem _ hmem), Solo.since_since,
        deedsAlong, ha]
      rfl

end CommandLink
