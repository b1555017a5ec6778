import CommandLink.Proofs.Channel.Following
import CommandLink.Proofs.Client.Confinement
import Mathlib.Data.List.Induction

/-!
# How a client answers a request

A client answers a request in its state at one moment: what is left of its serving, after some
answers, says how far it has come (`Serving`, `serving_of_follow`). A password or a token is in an
answer only if the request asks for just that (`Discloses`, `discloses_answer`), and only two kinds
of requests change the state (`answer_of_not_changes`).
-/

namespace CommandLink

/-! ## What answers hold -/

/-- What a client keeps to itself unless it is asked. -/
inductive Secret where
  | passwordFile (path : String)
  | typed (prompt : String)
  | storedToken
  | buildToken

namespace Call

/-- The secret that a call asks for. -/
def asksFor : Call → Option Secret
  | .readPasswordFile path => some (.passwordFile path)
  | .promptPassword prompt => some (.typed prompt)
  | .readStoredToken _ => some .storedToken
  | .readBuildToken => some .buildToken
  | _ => none

/-- Whether a call asks for a token to be kept or forgotten. -/
def changesStore : Call → Bool
  | .storeToken _ _ => true
  | .removeToken _ => true
  | _ => false

end Call

namespace ClientState

/-- A secret of a client, if it has it. -/
def secret? (s : ClientState) : Secret → Option String
  | .passwordFile path => (s.files.readText path).toOption
  | .typed prompt => (s.prompt prompt).toOption.join
  | .storedToken => s.store.bind fun store => store.get? s.url
  | .buildToken => s.buildToken

/-- What an answer of a client to a call may hold: the secret that the call asks for, nothing, a
flag, or the words for an error. -/
inductive Discloses (s : ClientState) (call : Call) : Except Failure Reply → Prop
  | asked (secret : Secret) (text : String) (asks : call.asksFor = some secret)
    (holds : s.secret? secret = some text) : Discloses s call (.ok (.text (some text)))
  | nothing : Discloses s call (.ok (.text none))
  | flag (value : Bool) : Discloses s call (.ok (.flag value))
  | done : Discloses s call (.ok .done)
  | unreadable (path : String) (error : IoError) :
    Discloses s call (.error ⟨"cannot read " ++ path ++ ": " ++ error.message⟩)
  | unprompted (prompt error : String) (failed : s.prompt prompt = .error error) :
    Discloses s call (.error ⟨"prompt failed: " ++ error⟩)
  | noStore : Discloses s call (.error noStore)
  | unwritable (error : StorageError) : Discloses s call (.error ⟨error.message⟩)
  | refused : Discloses s call (.error ⟨call.kind ++ " is not accepted by the client"⟩)
  | tooLarge (size limit : ℕ) :
    Discloses s call (.error ⟨(FrameError.tooLarge size limit).message⟩)

/-- **A secret is disclosed only to a call that asks for it.** -/
theorem discloses_answer (s : ClientState) (call : Call) : Discloses s call (s.answer call).2 := by
  cases call with
  | readPasswordFile path =>
    rcases hread : s.files.readText path with error | text
    · simp only [answer, passwordFile, hread]
      exact .unreadable path error
    · simp only [answer, passwordFile, hread]
      exact .asked (.passwordFile path) text rfl (by rw [secret?, hread]; rfl)
  | promptPassword prompt =>
    rcases hprompt : s.prompt prompt with error | _ | text
    · simp only [answer, promptPassword, hprompt]
      exact .unprompted prompt error hprompt
    · simp only [answer, promptPassword, hprompt]
      exact .nothing
    · simp only [answer, promptPassword, hprompt]
      exact .asked (.typed prompt) text rfl (by rw [secret?, hprompt]; rfl)
  | readStoredToken url =>
    change Discloses s _ (.ok (.text (s.secret? .storedToken)))
    rcases hs : s.secret? .storedToken with _ | text
    · exact .nothing
    · exact .asked .storedToken text rfl hs
  | readBuildToken =>
    change Discloses s _ (.ok (.text (s.secret? .buildToken)))
    rcases hs : s.secret? .buildToken with _ | text
    · exact .nothing
    · exact .asked .buildToken text rfl hs
  | storeToken url token =>
    rcases hstore : s.store with _ | store
    · simp only [answer, storeToken, hstore]
      exact .noStore
    · obtain ⟨files, heq | ⟨e, heq⟩⟩ := (actsOn hstore).stored url token
      · rw [heq]
        exact .done
      · rw [heq]
        exact .unwritable e
  | removeToken url =>
    rcases hstore : s.store with _ | store
    · simp only [answer, removeToken, hstore]
      exact .noStore
    · obtain ⟨files, heq | ⟨e, heq⟩⟩ := (actsOn hstore).removed url
      · rw [heq]
        exact .flag _
      · rw [heq]
        exact .unwritable e
  | execute invocation => exact .refused
  | hasCommand name => exact .refused

theorem answer_of_not_changes {call : Call} (h : call.changesStore = false) (s : ClientState) :
    (s.answer call).1 = s := by
  cases call with
  | storeToken url token => cases h
  | removeToken url => cases h
  | _ => rfl

theorem answerAll_concat (s : ClientState) (calls : List Call) (call : Call) :
    (s.answerAll (calls ++ [call])).1 = ((s.answerAll calls).1.answer call).1 := by
  induction calls generalizing s with
  | nil => rfl
  | cons first calls ih => exact ih (s.answer first).1

/-- Calls that ask for no token to be kept or forgotten change nothing. -/
theorem answerAll_of_not_changes {calls : List Call}
    (h : ∀ call ∈ calls, call.changesStore = false) (s : ClientState) :
    (s.answerAll calls).1 = s := by
  induction calls with
  | nil => rfl
  | cons call calls ih =>
    rw [List.forall_mem_cons] at h
    have hsame := answer_of_not_changes h.1 s
    change ((s.answer call).1.answerAll calls).1 = s
    rw [hsame, ih h.2]

end ClientState

/-! ## How far serving has come -/

/-- Whether a task has looked at the world. -/
def Heard.isWorld {ω : Type} : Heard ω → Bool
  | .world _ => true
  | _ => false

namespace Client

variable {ρ : Type}

/-- To answer a call, when nobody has to go first any more. -/
def answering (id : CallId) (call : Call) : Routine ClientState ρ Unit :=
  .ask (.change fun s => (s.answer call).1) fun s =>
    .ask (.respond id (s.answer call).2) fun _ => .done ()

/-- To serve a request is to look at the world and then to answer, and to let others go first in
between where that takes time. -/
theorem serve_eq (id : CallId) (call : Call) :
    (clientHandler.serve id call : Routine ClientState ρ Unit) = .ask (.change fun s => s) fun s =>
      if s.takesTime call then .ask .pause fun _ => answering id call else answering id call := by
  change Dialogue.ask _ _ = _
  refine congrArg _ (funext fun s => ?_)
  change Dialogue.bind (if s.takesTime call then _ else _) _ = _
  split_ifs
  · rfl
  · rfl

/-- How far the serving of a request has come with what it has heard. -/
inductive Serving (id : CallId) (call : Call) :
    List (Heard ClientState) → Routine ClientState ρ Unit → Prop
  | begun : Serving id call [] (clientHandler.serve id call)
  | pausing (s : ClientState) : Serving id call [.world s] (.ask .pause fun _ => answering id call)
  | looked (heard : List (Heard ClientState)) (once : heard.countP Heard.isWorld = 1) :
    Serving id call heard (answering id call)
  | answered (past : List (Heard ClientState)) (s : ClientState)
    (twice : (past ++ [Heard.world s]).countP Heard.isWorld = 2) :
    Serving id call (past ++ [.world s]) (.ask (.respond id (s.answer call).2) fun _ => .done ())
  | finished (heard : List (Heard ClientState)) (twice : heard.countP Heard.isWorld = 2) :
    Serving id call heard (.done ())

/-- What is heard takes the serving of a request further. -/
theorem Serving.hear {id : CallId} {call : Call} {heard : List (Heard ClientState)}
    {left left' : Routine ClientState ρ Unit} {x : Heard ClientState} (h : Serving id call heard left)
    (hx : Routine.follow left [x] = some left') : Serving id call (heard ++ [x]) left' := by
  have hask : ∀ {op : Op ClientState ρ} {next : op.Answer → Routine ClientState ρ Unit},
      Routine.follow (.ask op next) [x] = some left' → ∃ a, op.answer? x = some a ∧ next a = left' := by
    intro op next hx
    obtain ⟨a, ha, hnext⟩ := Option.bind_eq_some_iff.mp hx
    rw [Routine.follow_nil, Option.some.injEq] at hnext
    exact ⟨a, ha, hnext⟩
  cases h with
  | begun =>
    rw [serve_eq] at hx
    obtain ⟨s, hs, rfl⟩ := hask hx
    cases x with
    | world s' =>
      cases hs
      split_ifs
      · exact .pausing s
      · exact .looked _ rfl
    | _ => cases hs
  | pausing s =>
    obtain ⟨a, ha, rfl⟩ := hask hx
    cases x with
    | done => exact .looked _ rfl
    | _ => cases ha
  | looked heard once =>
    obtain ⟨s, hs, rfl⟩ := hask hx
    cases x with
    | world s' =>
      cases hs
      refine .answered heard s ?_
      rw [List.countP_append, once]
      rfl
    | _ => cases hs
  | answered past s twice =>
    obtain ⟨a, ha, rfl⟩ := hask hx
    cases x with
    | done =>
      refine .finished _ ?_
      rw [List.countP_append, twice]
      rfl
    | _ => cases ha
  | finished heard twice => cases hx

/-- **How far serving has come.** -/
theorem serving_of_follow {id : CallId} {call : Call} {heard : List (Heard ClientState)}
    {left : Routine ClientState ρ Unit}
    (h : Routine.follow (clientHandler.serve id call) heard = some left) :
    Serving id call heard left := by
  induction heard using List.reverseRecOn generalizing left with
  | nil =>
    rw [Routine.follow_nil, Option.some.injEq] at h
    exact h ▸ .begun
  | append_singleton heard x ih =>
    rw [Routine.follow_append] at h
    obtain ⟨left', hleft', hx⟩ := Option.bind_eq_some_iff.mp h
    exact (ih hleft').hear hx

/-- Serving changes the world once, by the answer, and only after it has looked at it once. -/
theorem Serving.change {id : CallId} {call : Call} {heard : List (Heard ClientState)}
    {f : ClientState → ClientState} {next : ClientState → Routine ClientState ρ Unit}
    (h : Serving id call heard (.ask (.change f) next)) :
    (∀ s, f s = s) ∨ (∀ s, f s = (s.answer call).1) ∧ heard.countP Heard.isWorld = 1 := by
  generalize hleft : (Dialogue.ask (Op.change f) next : Routine ClientState ρ Unit) = left at h
  cases h with
  | begun =>
    rw [serve_eq] at hleft
    cases hleft
    exact .inl fun _ => rfl
  | looked heard once =>
    cases hleft
    exact .inr ⟨fun _ => rfl, once⟩
  | _ => cases hleft

/-- Serving responds with the answer of the state that it has found last. -/
theorem Serving.respond {id id' : CallId} {call : Call} {heard : List (Heard ClientState)}
    {answer : Except Failure Reply} {next : Unit → Routine ClientState ρ Unit}
    (h : Serving id call heard (.ask (.respond id' answer) next)) :
    id' = id ∧ ∃ past s, heard = past ++ [.world s] ∧ answer = (s.answer call).2 := by
  generalize hleft : (Dialogue.ask (Op.respond id' answer) next : Routine ClientState ρ Unit) = left at h
  cases h with
  | begun =>
    rw [serve_eq] at hleft
    cases hleft
  | answered past s twice =>
    cases hleft
    exact ⟨rfl, past, s, rfl, rfl⟩
  | _ => cases hleft

end Client

end CommandLink
