import CommandLink.Proofs.Auth.Resolution
import CommandLink.Proofs.Client.Confinement
import CommandLink.Proofs.Server.Execution

/-!
# Executions with a client

A server executes a command while its client answers the calls that this makes (`Routine.attend`):
what the execution does by itself with the answers of the client (`alone_attend`). The client as the
resolution of a principal meets it is `ClientState.interviewed`; so the principal of an execution is
found by the rules for the standard ways of authentication (`attend_resolve`), and its command runs
on behalf of that principal, where there is one (`attend_execute_found`).
-/

namespace CommandLink

variable {ω ρ α β : Type}

/-- What answers an operation where a client answers the calls, and what the client holds after
that. -/
def Op.attended (world : ω) (s : ClientState) : (op : Op ω ρ) → Option (op.Answer × ClientState)
  | .call made => some (received (s.answer made).2, (s.answer made).1)
  | .change _ => some (world, s)
  | .log _ => some ((), s)
  | .report _ => some ((), s)
  | .respond _ _ => some ((), s)
  | _ => none

/-- What becomes of a routine whose calls a client answers. -/
structure Attended (ρ α : Type) where
  deeds : List (Deed ρ)
  /-- What the client holds at the end. -/
  client : ClientState
  /-- How the routine ends, if it does not stop before. -/
  result : Option α

/-- What becomes of a routine that has done something before. -/
def Attended.since (deeds : List (Deed ρ)) (r : Attended ρ α) : Attended ρ α :=
  { r with deeds := deeds ++ r.deeds }

/-- What becomes of what goes on after the end. -/
def Attended.bind (r : Attended ρ α) (next : α → ClientState → Attended ρ β) : Attended ρ β :=
  match r.result with
  | none => ⟨r.deeds, r.client, none⟩
  | some a => (next a r.client).since r.deeds

theorem Attended.since_bind (deeds : List (Deed ρ)) (r : Attended ρ α)
    (next : α → ClientState → Attended ρ β) :
    (r.since deeds).bind next = (r.bind next).since deeds := by
  obtain ⟨later, client, result⟩ := r
  rcases result with _ | a
  · rfl
  · simp only [bind, since, List.append_assoc]

namespace Routine

/-- What becomes of a routine in a world that nothing changes, where a client answers the calls. -/
def attend (world : ω) : Routine ω ρ α → ClientState → Attended ρ α
  | .done result, s => ⟨[], s, some result⟩
  | .ask op next, s =>
    match op.attended world s with
    | none => ⟨op.deed?.toList, s, none⟩
    | some (a, s) => (attend world (next a) s).since op.deed?.toList

variable {world : ω} {s : ClientState}

theorem attend_bind (routine : Routine ω ρ α) (next : α → Routine ω ρ β) (s : ClientState) :
    attend world (routine.bind next) s =
      (attend world routine s).bind fun a s => attend world (next a) s := by
  induction routine generalizing s with
  | done result => rfl
  | ask op f ih =>
    rw [Dialogue.bind, attend, attend]
    rcases h : op.attended world s with _ | ⟨a, s'⟩
    · rfl
    · simp only [ih]
      rw [Attended.since_bind]

/-- **A routine whose calls a client answers** does what it does by itself with the answers of the
client, one after the other, to the calls that it makes. -/
theorem alone_attend (world : ω) (routine : Routine ω ρ α) (s : ClientState) (rest : Replies) :
    (attend world routine s).client = (s.answerAll (calls (attend world routine s).deeds)).1 ∧
    alone world routine
        (((s.answerAll (calls (attend world routine s).deeds)).2.map received) ++ rest) =
      ⟨(attend world routine s).deeds, rest, (attend world routine s).result⟩ := by
  induction routine generalizing s with
  | done result => exact ⟨rfl, rfl⟩
  | ask op next ih =>
    cases op
    case call made =>
      obtain ⟨hclient, halone⟩ := ih (received (s.answer made).2) (s.answer made).1
      refine ⟨hclient, ?_⟩
      exact congrArg (Solo.since [.called made]) halone
    case change f =>
      obtain ⟨hclient, halone⟩ := ih world s
      exact ⟨hclient, congrArg (Solo.since []) halone⟩
    case log entry =>
      obtain ⟨hclient, halone⟩ := ih () s
      exact ⟨hclient, congrArg (Solo.since [.logged entry]) halone⟩
    case report value =>
      obtain ⟨hclient, halone⟩ := ih () s
      exact ⟨hclient, congrArg (Solo.since [.reported value]) halone⟩
    case respond id result =>
      obtain ⟨hclient, halone⟩ := ih () s
      exact ⟨hclient, congrArg (Solo.since [.answered id result]) halone⟩
    all_goals exact ⟨rfl, rfl⟩

theorem attend_call (made : Call) (next : Except ChannelError Reply → Routine ω ρ α) :
    attend world (call made >>= next) s =
      (attend world (next (received (s.answer made).2)) (s.answer made).1).since [.called made] :=
  rfl

theorem attend_look (next : ω → Routine ω ρ α) :
    attend world (look >>= next) s = attend world (next world) s := rfl

theorem attend_log (entry : LogEntry) (next : Unit → Routine ω ρ α) :
    attend world (log entry >>= next) s = (attend world (next ()) s).since [.logged entry] := rfl

theorem attend_logAll (entries : List LogEntry) :
    attend world (logAll entries : Routine ω ρ Unit) s = ⟨entries.map .logged, s, some ()⟩ := by
  induction entries with
  | nil => rfl
  | cons entry entries ih =>
    have hlog : attend world (logAll (entry :: entries) : Routine ω ρ Unit) s =
        (attend world (logAll entries) s).since [.logged entry] := rfl
    rw [hlog, ih]
    rfl

end Routine

/-! ## Resolution -/

namespace ClientState

/-- The token that a client keeps for its server. -/
def token? (s : ClientState) : Option String := s.store.bind fun store => store.get? s.url

/-- A client as a resolution meets it. Nothing that a resolution asks for changes it. -/
def interviewed : Auth.Client ClientState where
  passwordFile path s :=
    ((s.files.readText path).mapError fun e =>
      .channel (.remote ("cannot read " ++ path ++ ": " ++ e.message)), s)
  prompt text s := ((s.prompt text).mapError fun e => .channel (.remote ("prompt failed: " ++ e)), s)
  storedToken _ s := (.ok s.token?, s)
  buildToken s := (.ok s.buildToken, s)

theorem interviewed_lookupsNotFatal : interviewed.LookupsNotFatal where
  stored _ _ _ he := by cases he
  build _ _ he := by cases he

end ClientState

namespace Server

open Routine ClientState

variable {known : Auth.Knowledge} {s : ClientState}

/-- A text that is asked for is what the client answers, or the failure to answer. -/
theorem attend_askText {call : Call} {answered : Except Failure (Option String)}
    (h : s.answer call = (s, answered.map .text)) :
    attend known (askText call : Routine Auth.Knowledge ρ _) s =
      ⟨[.called call], s, some (answered.mapError fun f => .remote f.message)⟩ := by
  rw [askText, attend_call, h]
  rcases answered with f | value
  · rfl
  · rfl

/-- A question that is put to a client gets the answer that the client has for it. -/
theorem attend_answerQuestion (known : Auth.Knowledge) (q : Auth.Question)
    (h : Auth.Hearing ClientState) :
    (∃ deeds, attend known (answerQuestion q : Routine Auth.Knowledge ρ q.Answer) h.state =
        ⟨deeds, h.state, some (Auth.answer interviewed known q h).1⟩ ∧ reports deeds = []) ∧
      (Auth.answer interviewed known q h).2.state = h.state := by
  cases q
  case passwordFile path =>
    refine ⟨⟨[.called (.readPasswordFile path)], ?_, rfl⟩, rfl⟩
    have hanswer : h.state.answer (.readPasswordFile path) = (h.state,
        Except.map Reply.text (((h.state.files.readText path).map some).mapError fun e =>
          ⟨"cannot read " ++ path ++ ": " ++ e.message⟩)) := by
      simp only [ClientState.answer, passwordFile]
      rcases h.state.files.readText path with e | contents
      · rfl
      · rfl
    refine (attend_bind _ _ _).trans ?_
    rw [attend_askText hanswer]
    simp only [Auth.answer, interviewed]
    rcases h.state.files.readText path with e | contents
    · rfl
    · rfl
  case prompt text =>
    refine ⟨⟨[.called (.promptPassword text)], ?_, rfl⟩, rfl⟩
    have hanswer : h.state.answer (.promptPassword text) = (h.state,
        Except.map Reply.text ((h.state.prompt text).mapError fun e =>
          ⟨"prompt failed: " ++ e⟩)) := by
      simp only [ClientState.answer, promptPassword]
      rcases h.state.prompt text with e | typed
      · rfl
      · rfl
    refine (attend_bind _ _ _).trans ?_
    rw [attend_askText hanswer]
    simp only [Auth.answer, interviewed]
    rcases h.state.prompt text with e | typed
    · rfl
    · rfl
  case storedToken url => exact ⟨⟨_, rfl, rfl⟩, rfl⟩
  case buildToken => exact ⟨⟨_, rfl, rfl⟩, rfl⟩
  case knowledge => exact ⟨⟨_, rfl, rfl⟩, rfl⟩
  case record entry => exact ⟨⟨_, rfl, rfl⟩, rfl⟩

/-- An inquiry that is put to a client comes to what is heard from the client. -/
theorem attend_interpret (inquiry : Auth.Inquiry α) (h : Auth.Hearing ClientState) :
    ∃ deeds, attend known (inquiry.interpret answerQuestion : Routine Auth.Knowledge ρ α) h.state =
        ⟨deeds, h.state, some (Auth.hear interviewed known inquiry h).1⟩ ∧ reports deeds = [] := by
  induction inquiry generalizing h with
  | done result => exact ⟨[], rfl, rfl⟩
  | ask q next ih =>
    obtain ⟨⟨first, hfirst, hnone⟩, hstate⟩ := attend_answerQuestion (ρ := ρ) known q h
    obtain ⟨later, hlater, hnone'⟩ :=
      ih (Auth.answer interviewed known q h).1 (Auth.answer interviewed known q h).2
    rw [hstate] at hlater
    refine ⟨first ++ later, ?_, ?_⟩
    · rw [Dialogue.interpret, attend_bind, hfirst, Auth.hear_ask]
      simp only [Attended.bind, hlater, Attended.since]
    · rw [reports_append, hnone, hnone', List.append_nil]

/-- The principal that a server finds with a client, or why it finds none. -/
def resolved (profile : Profile) (known : Auth.Knowledge) (s : ClientState)
    (credentials : Credentials) : Except AuthError Principal :=
  (Auth.hear interviewed known (Auth.resolve (Auth.standard profile.sessions profile.tokens)
    ⟨credentials, profile.rootUrl⟩) (.start s)).1

theorem attend_resolve (profile : Profile) (known : Auth.Knowledge) (s : ClientState)
    (credentials : Credentials) :
    ∃ deeds, attend known (resolve profile ⟨credentials, profile.rootUrl⟩ :
          Routine Auth.Knowledge ρ _) s =
        ⟨deeds, s, some (resolved profile known s credentials)⟩ ∧ reports deeds = [] :=
  attend_interpret _ (.start s)

/-- The password decides where there is a user name. -/
theorem resolved_of_username {profile : Profile} {credentials : Credentials} {name given : String}
    (hname : credentials.username = some name)
    (hgiven : Auth.suppliedPassword interviewed s credentials name = some given)
    (hopens : known.realm.authenticates name given = true) :
    resolved profile known s credentials = .ok (.user name) := by
  let request : Auth.Request := ⟨credentials, profile.rootUrl⟩
  have huser : request.credentials.username = some name := hname
  obtain ⟨-, ⟨_, -, -, hr⟩ | ⟨hclosed, -⟩⟩ :=
    Auth.hear_standard_some interviewed known (.start s) profile.sessions profile.tokens huser
  · exact hr
  · exact absurd hopens (by simp [hclosed given hgiven])

/-- Without a user name the token that the client keeps decides, then its build-scope token. -/
theorem resolved_of_nameless (profile : Profile) (known : Auth.Knowledge) (s : ClientState)
    {credentials : Credentials} (hname : credentials.username = none) :
    (∃ name, Auth.NamesUser profile.sessions known (.ok s.token?) name ∧
      resolved profile known s credentials = .ok (.user name)) ∨
    ((∀ name, ¬ Auth.NamesUser profile.sessions known (.ok s.token?) name) ∧
      ((Auth.GrantsSystem profile.tokens known (.ok s.buildToken) ∧
          resolved profile known s credentials = .ok .system) ∨
        (¬ Auth.GrantsSystem profile.tokens known (.ok s.buildToken) ∧
          resolved profile known s credentials = .ok .anonymous))) := by
  let request : Auth.Request := ⟨credentials, profile.rootUrl⟩
  have hnameless : request.credentials.username = none := hname
  rcases Auth.hear_standard_none interviewed known (.start s) profile.sessions profile.tokens
      interviewed_lookupsNotFatal hnameless with
    ⟨name, hnames, hr, -⟩ | ⟨hnames, -, hrest⟩
  · exact .inl ⟨name, hnames, hr⟩
  · exact .inr ⟨hnames, hrest⟩

/-! ## Executions -/

section Execute

variable {profile : Profile} {commands : Registry ρ} {connection : String}
  {invocation : Invocation} {command : Command ρ}

/-- Nothing comes of a name that no command has. -/
theorem attend_execute_unknown (h : commands.get? invocation.commandName = none) :
    attend known (execute profile commands connection invocation) s =
      ⟨[.logged (.span invocation.commandName connection)], s,
        some (some (unknownCommand invocation.commandName))⟩ := by
  rw [execute, attend_log, h]
  rfl

/-- How an execution ends after the body of its command. -/
def afterBody (outcome : Option Outcome) : Routine Auth.Knowledge ρ (Option Outcome) :=
  match outcome with
  | none => return none
  | some outcome => do
    log (.field "exit_code" (.int outcome.exitCode.toInt))
    return some outcome

theorem attend_afterBody (outcome : Option Outcome) :
    attend known (afterBody outcome : Routine Auth.Knowledge ρ _) s =
      ⟨outcome.toList.map fun o => .logged (.field "exit_code" (.int o.exitCode.toInt)), s,
        some outcome⟩ := by
  rcases outcome with _ | outcome
  · rfl
  · rfl

/-- The principal is resolved before a command runs. -/
theorem attend_execute_known (known : Auth.Knowledge) (s : ClientState) (profile : Profile)
    (connection : String) (h : commands.get? invocation.commandName = some command) :
    ∃ deeds, reports deeds = [] ∧
      attend known (execute profile commands connection invocation) s =
        (attend known (match resolved profile known s invocation.credentials with
          | .error e => do
            logAll (LogEntry.result (some e.message))
            return some (refused e)
          | .ok principal => do
            logAll (LogEntry.result none)
            log (.field "principal" (.text principal.name))
            let outcome ←
              command.run ⟨invocation.args.drop 1, principal, profile, commands.infos⟩
            afterBody outcome) s).since deeds := by
  obtain ⟨deeds, hresolve, hnone⟩ := attend_resolve (ρ := ρ) profile known s
    invocation.credentials
  refine ⟨.logged (.span invocation.commandName connection) :: deeds, hnone, ?_⟩
  rw [execute, attend_log, h]
  refine (congrArg (Attended.since _) (attend_bind _ _ s)).trans ?_
  rw [hresolve]
  rfl

/-- An execution without a principal is refused. -/
theorem attend_execute_refused {e : AuthError} (connection : String)
    (h : commands.get? invocation.commandName = some command)
    (hr : resolved profile known s invocation.credentials = .error e) :
    ∃ deeds, attend known (execute profile commands connection invocation) s =
      ⟨deeds, s, some (some (refused e))⟩ ∧ reports deeds = [] := by
  obtain ⟨deeds, hnone, hexecute⟩ := attend_execute_known known s profile connection h
  refine ⟨deeds ++ (LogEntry.result (some e.message)).map .logged, ?_, ?_⟩
  · rw [hexecute, hr]
    refine (congrArg (Attended.since _) (attend_bind _ _ s)).trans ?_
    rw [attend_logAll]
    simp [Attended.bind, Attended.since, attend]
  · rw [reports_append, hnone, reports_logged, List.append_nil]

/-- With a principal, the command runs on its behalf, and the execution comes to what the body comes
to. -/
theorem attend_execute_found {principal : Principal} (connection : String)
    (h : commands.get? invocation.commandName = some command)
    (hr : resolved profile known s invocation.credentials = .ok principal) :
    let context : Context := ⟨invocation.args.drop 1, principal, profile, commands.infos⟩
    let body := attend known (command.run context) s
    ∃ before after, attend known (execute profile commands connection invocation) s =
        ⟨before ++ (body.deeds ++ after), body.client, body.result⟩ ∧
      reports before = [] ∧ reports after = [] := by
  intro context body
  obtain ⟨first, hnone, hexecute⟩ := attend_execute_known known s profile connection h
  have hbody : attend known (command.run context >>= afterBody) s =
      body.bind fun outcome s => attend known (afterBody outcome) s := attend_bind _ _ s
  have hrun : attend known (execute profile commands connection invocation) s =
      (((attend known (command.run context >>= afterBody) s).since
        [.logged (.field "principal" (.text principal.name))]).since
          ((LogEntry.result none).map .logged)).since first := by
    rw [hexecute, hr]
    refine congrArg (Attended.since _) ((attend_bind _ _ s).trans ?_)
    rw [attend_logAll]
    rfl
  let after : List (Deed ρ) := (body.result.toList.flatMap Option.toList).map fun o =>
    .logged (.field "exit_code" (.int o.exitCode.toInt))
  refine ⟨first ++ ((LogEntry.result none).map .logged ++
    [.logged (.field "principal" (.text principal.name))]), after, ?_, ?_, ?_⟩
  · rw [hrun, hbody]
    rcases hresult : body.result with _ | outcome
    · simp [Attended.bind, Attended.since, hresult, after]
    · simp [Attended.bind, Attended.since, hresult, after, attend_afterBody]
  · rw [reports_append, hnone, reports_append, reports_logged]
    rfl
  · refine reports_of_plain fun deed hd => ?_
    obtain ⟨outcome, -, rfl⟩ := List.mem_map.mp hd
    trivial

end Execute

theorem attend_observed (name : String) (command : Command BodyRun) (context : Context) :
    attend known ((command.observed name).run context) s =
      (attend known (command.run context) s).since [.reported ⟨name, context⟩] := rfl

/-- Reports are all the difference that it makes to observe the commands. -/
theorem attend_execute_observed (profile : Profile) (commands : Registry BodyRun)
    (connection : String) (invocation : Invocation) :
    (attend known (execute profile commands.observed connection invocation) s).client =
        (attend known (execute profile commands connection invocation) s).client ∧
      (attend known (execute profile commands.observed connection invocation) s).result =
        (attend known (execute profile commands connection invocation) s).result := by
  have hget := get?_observed commands invocation.commandName
  rcases hcommand : commands.get? invocation.commandName with _ | command
  · rw [hcommand, Option.map_none] at hget
    rw [attend_execute_unknown hget, attend_execute_unknown hcommand]
    exact ⟨rfl, rfl⟩
  rw [hcommand, Option.map_some] at hget
  rcases hr : resolved profile known s invocation.credentials with e | principal
  · obtain ⟨_, hobserved, -⟩ := attend_execute_refused connection hget hr
    obtain ⟨_, hplain, -⟩ := attend_execute_refused connection hcommand hr
    rw [hobserved, hplain]
    exact ⟨rfl, rfl⟩
  · obtain ⟨_, _, hobserved, -⟩ := attend_execute_found connection hget hr
    obtain ⟨_, _, hplain, -⟩ := attend_execute_found connection hcommand hr
    rw [hobserved, hplain, infos_observed, attend_observed]
    exact ⟨rfl, rfl⟩

end Server

end CommandLink
