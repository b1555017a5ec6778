import CommandLink.Proofs.Channel.Alone
import CommandLink.Server.Dispatch

/-!
# The programs of a server

Commands need no more of a channel than replies to their calls. The resolution of a principal and
the built-in commands make calls, write to the log and look at what the server knows
(`plain_resolve`, `plain_builtins`), and so does the handling of requests around them, up to the
response (`all_execute`, `all_serve`).
-/

namespace CommandLink

variable {ω ρ α : Type}

/-- A call, an entry of the log, or a look at the world. -/
def Op.Plain : Op ω ρ → Prop
  | .call _ => True
  | .log _ => True
  | .change f => f = id
  | _ => False

/-- A tame operation that answers no request. -/
def Op.Modest : Op ω ρ → Prop
  | .respond _ _ => False
  | op => op.Tame

theorem Op.Plain.modest {op : Op ω ρ} (h : op.Plain) : op.Modest := by
  cases op
  case change => exact h
  case respond => exact h.elim
  all_goals trivial

theorem Op.Modest.tame {op : Op ω ρ} (h : op.Modest) : op.Tame := by
  cases op
  case respond => exact h.elim
  all_goals exact h

theorem Op.Modest.deed {op : Op ω ρ} (h : op.Modest) {deed : Deed ρ} (hd : op.deed? = some deed)
    (id : CallId) (result : Except Failure Reply) : deed ≠ .answered id result := by
  rintro rfl
  cases op
  case respond => exact h
  all_goals cases hd

/-- A routine that makes calls, writes to the log and looks at the world, and does nothing else. -/
def Routine.Plain (routine : Routine ω ρ α) : Prop := Dialogue.All Op.Plain (fun _ => True) routine

/-- What a plain routine does to the outside. -/
def Deed.Plain : Deed ρ → Prop
  | .called _ => True
  | .logged _ => True
  | _ => False

theorem Op.Plain.deed {op : Op ω ρ} (h : op.Plain) {deed : Deed ρ} (hd : op.deed? = some deed) :
    deed.Plain := by
  cases op
  case call => cases hd; trivial
  case log => cases hd; trivial
  case change => cases hd
  all_goals exact h.elim

/-- A routine does what its operations do. -/
theorem Dialogue.All.deeds {P : Op ω ρ → Prop} {R : α → Prop} {Q : Deed ρ → Prop}
    {routine : Routine ω ρ α} (h : Dialogue.All P R routine)
    (hop : ∀ op deed, P op → op.deed? = some deed → Q deed) (world : ω) (replies : Replies) :
    ∀ deed ∈ (Routine.alone world routine replies).deeds, Q deed := by
  induction routine generalizing replies with
  | done result => exact fun deed hd => absurd hd (by simp [Routine.alone])
  | ask op next ih =>
    intro deed hd
    rw [Routine.alone] at hd
    split at hd
    · exact hop op deed h.1 (Option.mem_toList.mp hd)
    · rename_i a left _
      rcases List.mem_append.mp hd with hd | hd
      · exact hop op deed h.1 (Option.mem_toList.mp hd)
      · exact ih a (h.2 a) left deed hd

theorem Routine.Plain.deeds {routine : Routine ω ρ α} (h : routine.Plain) (world : ω)
    (replies : Replies) : ∀ deed ∈ (Routine.alone world routine replies).deeds, deed.Plain :=
  Dialogue.All.deeds h (fun _ _ hp hd => hp.deed hd) world replies

theorem plain_logAll (entries : List LogEntry) :
    Routine.Plain (Routine.logAll entries : Routine ω ρ Unit) := by
  induction entries with
  | nil => trivial
  | cons entry entries ih => exact ⟨trivial, fun _ => ih⟩

namespace Server

/-! ## Questions to the client -/

theorem plain_askText (call : Call) : Routine.Plain (askText call : Routine ω ρ _) := by
  refine ⟨trivial, fun result => ?_⟩
  rcases result with e | reply
  · trivial
  · cases reply <;> trivial

theorem plain_storeToken (url token : String) :
    Routine.Plain (storeToken url token : Routine ω ρ _) := by
  refine ⟨trivial, fun result => ?_⟩
  rcases result with e | reply
  · trivial
  · cases reply <;> trivial

theorem plain_removeToken (url : String) : Routine.Plain (removeToken url : Routine ω ρ _) := by
  refine ⟨trivial, fun result => ?_⟩
  rcases result with e | reply
  · trivial
  · cases reply <;> trivial

theorem plain_answerQuestion (q : Auth.Question) :
    Routine.Plain (answerQuestion q : Routine Auth.Knowledge ρ q.Answer) := by
  cases q
  case passwordFile path =>
    refine (plain_askText _).bind fun result _ => ?_
    rcases result with e | ⟨_ | contents⟩
    · trivial
    · trivial
    · trivial
  case prompt text => exact (plain_askText _).bind fun _ _ => trivial
  case storedToken url => exact (plain_askText _).bind fun _ _ => trivial
  case buildToken => exact (plain_askText _).bind fun _ _ => trivial
  case knowledge => exact ⟨rfl, fun _ => trivial⟩
  case record entry => exact ⟨trivial, fun _ => trivial⟩

/-- The resolution of a principal is plain. -/
theorem plain_resolve (profile : Profile) (request : Auth.Request) :
    Routine.Plain (resolve profile request : Routine Auth.Knowledge ρ _) :=
  Dialogue.All.interpret plain_answerQuestion _

/-! ## The built-in commands -/

/-- The bodies of all commands ask only for what has a property. -/
def Registry.All (P : Op Auth.Knowledge ρ → Prop) (commands : Registry ρ) : Prop :=
  ∀ name command, commands.get? name = some command →
    ∀ ctx, Dialogue.All P (fun _ => True) (command.run ctx)

theorem Registry.All.register {P : Op Auth.Knowledge ρ → Prop} {commands : Registry ρ}
    {command : Command ρ} (h : commands.All P)
    (hc : ∀ ctx, Dialogue.All P (fun _ => True) (command.run ctx)) :
    (commands.register command).All P := by
  intro name other hother
  rw [Registry.register, TextMap.get?_insert] at hother
  split_ifs at hother
  · cases hother
    exact hc
  · exact h name other hother

/-- The command for help asks for nothing. -/
theorem all_help {P : Op Auth.Knowledge ρ → Prop} (ctx : Context) :
    Dialogue.All P (fun _ => True) ((help : Command ρ).run ctx) := by
  rw [help]
  dsimp only
  split
  · trivial
  · split
    · trivial
    · trivial

theorem plain_login (ctx : Context) : Routine.Plain ((login : Command ρ).run ctx) := by
  rw [login]
  dsimp only
  split
  · trivial
  · refine ⟨rfl, fun known => ?_⟩
    simp only [Dialogue.bind]
    split
    · trivial
    · refine (plain_storeToken _ _).bind fun result _ => ?_
      rcases result with e | ⟨⟩
      · trivial
      · exact ⟨trivial, fun _ => trivial⟩

theorem plain_logout (ctx : Context) : Routine.Plain ((logout : Command ρ).run ctx) := by
  rw [logout]
  dsimp only
  split_ifs
  · refine (plain_removeToken _).bind fun result _ => ?_
    rcases result with e | existed
    · trivial
    · exact ⟨trivial, fun _ => trivial⟩
  · trivial

/-- The built-in commands are plain. -/
theorem plain_builtins : Registry.All Op.Plain (builtins : Registry ρ) := by
  have hempty : Registry.All Op.Plain (TextMap.empty : Registry ρ) := by
    intro name command hcommand
    cases hcommand
  have hwho : ∀ ctx, Routine.Plain ((whoAmI : Command ρ).run ctx) := fun _ => trivial
  have hversion : ∀ ctx, Routine.Plain ((version : Command ρ).run ctx) := fun _ => trivial
  exact ((((hempty.register all_help).register hwho).register hversion).register
    plain_login).register plain_logout

/-! ## Requests -/

section Requests

variable {P : Op Auth.Knowledge ρ → Prop} {commands : Registry ρ}

/-- What holds of plain operations and of the bodies of all commands holds of executions. -/
theorem all_execute (hp : ∀ op : Op Auth.Knowledge ρ, op.Plain → P op) (hc : commands.All P)
    (profile : Profile) (connection : String) (invocation : Invocation) :
    Dialogue.All P (fun _ => True) (execute profile commands connection invocation) := by
  refine ⟨hp _ trivial, fun _ => ?_⟩
  dsimp only
  split
  · trivial
  · rename_i command hcommand
    refine ((plain_resolve profile _).mono hp).bind fun resolved _ => ?_
    rcases resolved with e | principal
    · exact ((plain_logAll _).mono hp).bind fun _ _ => trivial
    · refine ((plain_logAll _).mono hp).bind fun _ _ => ⟨hp _ trivial, fun _ => ?_⟩
      refine (hc _ command hcommand _).bind fun outcome _ => ?_
      rcases outcome with _ | outcome
      · trivial
      · exact ⟨hp _ trivial, fun _ => trivial⟩

theorem all_handler (hp : ∀ op : Op Auth.Knowledge ρ, op.Plain → P op) (hc : commands.All P)
    (profile : Profile) (connection : String) (call : Call) :
    Dialogue.All P (fun _ => True) (handler profile commands connection call) := by
  cases call
  case execute invocation =>
    refine (all_execute hp hc profile connection invocation).bind fun outcome _ => ?_
    rcases outcome with _ | outcome
    · trivial
    · trivial
  all_goals trivial

/-- What holds of responses, too, holds of requests. -/
theorem all_serve (hp : ∀ op : Op Auth.Knowledge ρ, op.Plain → P op) (hc : commands.All P)
    (hr : ∀ id result, P (.respond id result)) (profile : Profile) (connection : String)
    (id : CallId) (call : Call) :
    Dialogue.All P (fun _ => True) ((handler profile commands connection).serve id call) :=
  (all_handler hp hc profile connection call).bind fun _ _ => ⟨hr _ _, fun _ => trivial⟩

end Requests

end Server

end CommandLink
