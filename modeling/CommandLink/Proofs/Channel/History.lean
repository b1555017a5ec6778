import CommandLink.Proofs.Channel.Ledger
import Mathlib.Data.List.Nodup

/-!
# The history of the calls of a channel

The notes of a run put together are the `history` of its calls. From the history alone one can tell
how far the last call of an agent has come: it has been `Opened`, has `Drawn` an identifier, is
`Registered` under it, has been `Answered`. What happens to the calls of other agents does not
change that. What every turn preserves, with what it says about the history so far, holds after
every run (`ledger_induction`).
-/

namespace CommandLink

variable {ω ρ : Type}

/-- What a moment does for the history of calls. -/
def Moment.note? (m : Moment ω ρ) : Option Note := m.before.note? m.action

/-- What happens to the calls of a channel in a run. -/
def Channel.history (c : Channel ω ρ) (actions : List (Action ω ρ)) : List Note :=
  (c.moments actions).filterMap Moment.note?

namespace Note

/-- The identifier that is drawn. -/
def drawn? : Note → Option CallId
  | .drew _ id => some id
  | _ => none

/-- The identifier under which a call waits from now on. -/
def registered? : Note → Option CallId
  | .registered _ id => some id
  | _ => none

/-- Whether an agent makes a call. -/
def begins (a : Agent) : Note → Bool
  | .began b _ => b = a
  | _ => false

/-- Whether a call of an agent returns. -/
def completes (a : Agent) : Note → Bool
  | .completed b _ => b = a
  | _ => false

/-- Whether a note is about a response with an identifier. -/
def respondsTo (id : CallId) : Note → Bool
  | .response id' _ _ => id' = id
  | _ => false

variable {a : Agent} {note : Note}

theorem begins_eq_false (h : note.caller? ≠ some a) : note.begins a = false := by
  cases note
  case began b call =>
    exact decide_eq_false fun hb => h (congrArg some hb)
  all_goals rfl

theorem completes_eq_false (h : note.caller? ≠ some a) : note.completes a = false := by
  cases note
  case completed b result =>
    exact decide_eq_false fun hb => h (congrArg some hb)
  all_goals rfl

end Note

/-- The identifiers that calls have drawn. -/
def drawnIds (h : List Note) : List CallId := h.filterMap Note.drawn?

/-- The identifiers under which calls have waited. -/
def registeredIds (h : List Note) : List CallId := h.filterMap Note.registered?

/-- No note is about a call of an agent. -/
def Apart (a : Agent) (h : List Note) : Prop := ∀ note ∈ h, note.caller? ≠ some a

/-- The last call of an agent has been made and has no identifier yet. -/
def Opened (a : Agent) (h : List Note) : Prop :=
  ∃ before call later, h = before ++ .began a call :: later ∧ Apart a later

/-- The last call of an agent has drawn its identifier and does not wait yet. -/
def Drawn (a : Agent) (id : CallId) (h : List Note) : Prop :=
  ∃ before later, Opened a before ∧ h = before ++ .drew a id :: later ∧ Apart a later

/-- The last call of an agent waits under its identifier, and this has happened since it does. -/
def Registered (a : Agent) (id : CallId) (later : List Note) (h : List Note) : Prop :=
  ∃ before, Drawn a id before ∧ h = before ++ .registered a id :: later ∧ Apart a later

/-- The first response with the identifier of the last call of an agent since that call waits under
it has been taken from the stream while the call was waiting, and this is its content. -/
def Answered (a : Agent) (result : Except Failure Reply) (h : List Note) : Prop :=
  ∃ id before since later, Registered a id since before ∧
    (∀ note ∈ since, note.respondsTo id = false) ∧
    h = before ++ .response id result (some a) :: later ∧ Apart a later

variable {a : Agent} {id : CallId} {h later : List Note} {note : Note}
  {result : Except Failure Reply}

theorem apart_nil : Apart a [] := fun _ hn => absurd hn (by simp)

theorem Apart.concat (ha : Apart a h) (hn : note.caller? ≠ some a) : Apart a (h ++ [note]) := by
  intro n hmem
  rw [List.mem_append, List.mem_singleton] at hmem
  rcases hmem with hmem | rfl
  · exact ha n hmem
  · exact hn

theorem Opened.concat (ho : Opened a h) (hn : note.caller? ≠ some a) :
    Opened a (h ++ [note]) := by
  obtain ⟨before, call, later, rfl, ha⟩ := ho
  exact ⟨before, call, later ++ [note], by simp, ha.concat hn⟩

theorem Drawn.concat (hd : Drawn a id h) (hn : note.caller? ≠ some a) :
    Drawn a id (h ++ [note]) := by
  obtain ⟨before, later, ho, rfl, ha⟩ := hd
  exact ⟨before, later ++ [note], ho, by simp, ha.concat hn⟩

theorem Registered.concat (hr : Registered a id later h) (hn : note.caller? ≠ some a) :
    Registered a id (later ++ [note]) (h ++ [note]) := by
  obtain ⟨before, hd, rfl, ha⟩ := hr
  exact ⟨before, hd, by simp, ha.concat hn⟩

theorem Answered.concat (hr : Answered a result h) (hn : note.caller? ≠ some a) :
    Answered a result (h ++ [note]) := by
  obtain ⟨id, before, since, later, hreg, hfirst, rfl, ha⟩ := hr
  exact ⟨id, before, since, later ++ [note], hreg, hfirst, by simp, ha.concat hn⟩

theorem opened_concat (call : Call) : Opened a (h ++ [.began a call]) :=
  ⟨h, call, [], rfl, apart_nil⟩

theorem Opened.drawn (ho : Opened a h) : Drawn a id (h ++ [.drew a id]) :=
  ⟨h, [], ho, rfl, apart_nil⟩

theorem Drawn.registered (hd : Drawn a id h) : Registered a id [] (h ++ [.registered a id]) :=
  ⟨h, hd, rfl, apart_nil⟩

theorem Registered.answered (hr : Registered a id later h)
    (hfirst : ∀ note ∈ later, note.respondsTo id = false) :
    Answered a result (h ++ [.response id result (some a)]) :=
  ⟨id, h, later, [], hr, hfirst, rfl, apart_nil⟩

/-- A note of a longer history is the last one, or it stands where it stood before. -/
theorem append_cons_of_concat {before later : List Note} {last : Note}
    (heq : h ++ [last] = before ++ note :: later) :
    (before = h ∧ note = last) ∨ ∃ later', h = before ++ note :: later' := by
  rcases List.eq_nil_or_concat' later with rfl | ⟨later', last', rfl⟩
  · obtain ⟨hb, hl⟩ := List.append_inj' heq rfl
    exact .inl ⟨hb.symm, (List.singleton_inj.mp hl).symm⟩
  · rw [← List.cons_append, ← List.append_assoc] at heq
    exact .inr ⟨later', (List.append_inj' heq rfl).1⟩

/-- What every turn of a ledger preserves, with what it says about the history so far, and what the
end of agents preserves, holds after every run. -/
theorem Channel.ledger_induction {P : Ledger → List Note → Prop} (setup : ChannelSetup ω ρ)
    (world : ω) (guarded : Bool) (start : P (start setup world guarded).ledger [])
    (turn : ∀ l l' h note?, P l h → Turn l note? l' → P l' (h ++ note?.toList))
    (ends : ∀ l l' h, P l h → Ledger.Ends l l' → P l' h) (actions : List (Action ω ρ)) :
    P ((Channel.start setup world guarded).after actions).ledger
      ((Channel.start setup world guarded).history actions) := by
  refine run_induction (P := fun past c => P c.ledger (past.filterMap Moment.note?)) _ start
    (fun past d action e events hp hstep => ?_) actions
  obtain ⟨l, hturn, hends⟩ := step_turn hstep
  have hnext := ends _ _ _ (turn _ _ _ _ hp hturn) hends
  rw [List.filterMap_append]
  rcases hnote : d.note? action with _ | note
  · rw [hnote, Option.toList_none, List.append_nil] at hnext
    simpa [Moment.note?, hnote] using hnext
  · rw [hnote, Option.toList_some] at hnext
    simpa [Moment.note?, hnote] using hnext

end CommandLink
