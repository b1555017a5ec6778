import CommandLink.Proofs.Server.Plain

/-!
# Executions by themselves

What an execution does by itself, with replies that come to its own calls (`execution`). It asks
nothing for a name that no command has (`execution_unknown`). For a command it resolves the
principal first (`resolution`), and without one it refuses (`result_execution_of_refused`). To tell
when bodies run, the commands of a registry can report each run (`Registry.observed`), which makes
no other difference (`unreported_execution`): an execution by itself runs one body at most, on
behalf of the principal that it has resolved (`reports_execution`).
-/

namespace CommandLink

variable {ω ρ α : Type}

/-- The value that is reported. -/
def Deed.report? : Deed ρ → Option ρ
  | .reported value => some value
  | _ => none

/-- The values that are reported. -/
def reports (deeds : List (Deed ρ)) : List ρ := deeds.filterMap Deed.report?

/-- The call that is made. -/
def Deed.call? : Deed ρ → Option Call
  | .called call => some call
  | _ => none

/-- The calls that are made. -/
def calls (deeds : List (Deed ρ)) : List Call := deeds.filterMap Deed.call?

theorem reports_append (first later : List (Deed ρ)) :
    reports (first ++ later) = reports first ++ reports later := List.filterMap_append

theorem reports_since (deeds : List (Deed ρ)) (s : Solo ρ α) :
    reports (s.since deeds).deeds = reports deeds ++ reports s.deeds := reports_append _ _

/-- What is left without the reports. -/
def Solo.unreported (s : Solo ρ α) : Solo ρ α :=
  { s with deeds := s.deeds.filter fun deed => deed.report?.isNone }

theorem Solo.unreported_since (deeds : List (Deed ρ)) (s : Solo ρ α) :
    (s.since deeds).unreported =
      s.unreported.since (deeds.filter fun deed => deed.report?.isNone) := by
  rw [since, unreported, List.filter_append]
  rfl

theorem Solo.unreported_bind {β : Type} (s : Solo ρ α) (next : α → Replies → Solo ρ β) :
    (s.bind next).unreported = s.unreported.bind fun a left => (next a left).unreported := by
  obtain ⟨deeds, unused, result⟩ := s
  rcases result with _ | a
  · rfl
  · exact unreported_since deeds (next a unused)

theorem reports_of_plain {deeds : List (Deed ρ)} (h : ∀ deed ∈ deeds, deed.Plain) :
    reports deeds = [] := by
  rw [reports, List.filterMap_eq_nil_iff]
  intro deed hd
  have hplain := h deed hd
  cases deed
  case reported => exact hplain.elim
  all_goals rfl

theorem reports_logged (entries : List LogEntry) :
    reports (entries.map Deed.logged : List (Deed ρ)) = [] :=
  reports_of_plain fun deed hd => by
    obtain ⟨entry, -, rfl⟩ := List.mem_map.mp hd
    trivial

theorem alone_logAll (world : ω) (entries : List LogEntry) (replies : Replies) :
    Routine.alone world (Routine.logAll entries : Routine ω ρ Unit) replies =
      ⟨entries.map .logged, replies, some ()⟩ := by
  induction entries with
  | nil => rfl
  | cons entry entries ih =>
    have hlog : Routine.alone world (Routine.logAll (entry :: entries) : Routine ω ρ Unit) replies =
        (Routine.alone world (Routine.logAll entries) replies).since [.logged entry] := rfl
    rw [hlog, ih]
    rfl

namespace Server

/-! ## Runs of bodies -/

/-- A run of the body of a command, with what it is given. -/
structure BodyRun where
  command : String
  context : Context

/-- The command that reports each run of its body under a name. -/
def Command.observed (name : String) (command : Command BodyRun) : Command BodyRun :=
  { command with
    run := fun ctx => do
      Routine.report ⟨name, ctx⟩
      command.run ctx }

/-- The registry whose commands report each run of their bodies. -/
def Registry.observed (commands : Registry BodyRun) : Registry BodyRun where
  entries := commands.entries.map fun e => (e.1, e.2.observed e.1)
  sorted := List.pairwise_map.mpr commands.sorted

theorem get?_observed (commands : Registry BodyRun) (name : String) :
    commands.observed.get? name = (commands.get? name).map (Command.observed name) := by
  rw [TextMap.get?, TextMap.get?, Registry.observed, List.find?_map]
  simp only [Function.comp_def]
  rcases h : commands.entries.find? fun e => e.1 = name with _ | e
  · simp only [h, Option.map_none]
  · have hname : e.1 = name := by simpa using List.find?_some h
    simp only [h, Option.map_some, hname]

theorem infos_observed (commands : Registry BodyRun) :
    commands.observed.infos = commands.infos := by
  rw [Registry.infos, Registry.infos, Registry.observed, List.map_map]
  rfl

/-- Reports are all that is added to commands when they are observed. -/
theorem modest_observed {commands : Registry BodyRun} (h : commands.All Op.Plain) :
    commands.observed.All Op.Modest := by
  intro name command hcommand ctx
  rw [get?_observed] at hcommand
  obtain ⟨plain, hplain, rfl⟩ := Option.map_eq_some_iff.mp hcommand
  exact ⟨trivial, fun _ => (h name plain hplain ctx).mono fun _ => Op.Plain.modest⟩

theorem alone_observed (known : Auth.Knowledge) (name : String) (command : Command BodyRun)
    (ctx : Context) (replies : Replies) :
    Routine.alone known ((command.observed name).run ctx) replies =
      (Routine.alone known (command.run ctx) replies).since [.reported ⟨name, ctx⟩] := rfl

/-! ## Executions -/

/-- The resolution of the principal of an execution by itself. -/
def resolution (profile : Profile) (known : Auth.Knowledge) (invocation : Invocation)
    (replies : Replies) : Solo ρ (Except AuthError Principal) :=
  Routine.alone known (resolve profile ⟨invocation.credentials, profile.rootUrl⟩) replies

/-- What an execution does by itself. -/
def execution (profile : Profile) (commands : Registry ρ) (connection : String)
    (known : Auth.Knowledge) (invocation : Invocation) (replies : Replies) :
    Solo ρ (Option Outcome) :=
  Routine.alone known (execute profile commands connection invocation) replies

section Cases

variable {profile : Profile} {commands : Registry ρ} {connection : String}
  {known : Auth.Knowledge} {invocation : Invocation} {replies : Replies} {command : Command ρ}

/-- An execution begins with an entry in the log. -/
theorem execution_eq : execution profile commands connection known invocation replies =
    (Routine.alone known (match commands.get? invocation.commandName with
      | none => return some (unknownCommand invocation.commandName)
      | some command => runCommand profile commands command invocation) replies).since
        [.logged (.span invocation.commandName connection)] := rfl

/-- Nothing is asked for a name that no command has. -/
theorem execution_unknown (h : commands.get? invocation.commandName = none) :
    execution profile commands connection known invocation replies =
      ⟨[.logged (.span invocation.commandName connection)], replies,
        some (some (unknownCommand invocation.commandName))⟩ := by
  rw [execution_eq, h]
  rfl

/-- How an execution goes on after the resolution of its principal. -/
def afterResolution (profile : Profile) (commands : Registry ρ) (command : Command ρ)
    (known : Auth.Knowledge) (invocation : Invocation) (resolved : Except AuthError Principal)
    (replies : Replies) : Solo ρ (Option Outcome) :=
  match resolved with
  | .error e => ⟨(LogEntry.result (some e.message)).map .logged, replies, some (some (refused e))⟩
  | .ok principal =>
    let context : Context := ⟨invocation.args.drop 1, principal, profile, commands.infos⟩
    ((Routine.alone known (command.run context) replies).bind fun outcome left =>
      ⟨outcome.toList.map fun o => .logged (.field "exit_code" (.int o.exitCode.toInt)), left,
        some outcome⟩).since
      ((LogEntry.result none).map .logged ++ [.logged (.field "principal" (.text principal.name))])

/-- A command that runs on behalf of a principal. -/
theorem alone_run (context : Context) (principal : Principal) :
    Routine.alone known (do
        Routine.logAll (LogEntry.result none)
        Routine.log (.field "principal" (.text principal.name))
        match ← command.run context with
        | none => return none
        | some outcome =>
          Routine.log (.field "exit_code" (.int outcome.exitCode.toInt))
          return some outcome : Routine Auth.Knowledge ρ (Option Outcome)) replies =
      ((Routine.alone known (command.run context) replies).bind fun outcome left =>
        ⟨outcome.toList.map fun o => .logged (.field "exit_code" (.int o.exitCode.toInt)), left,
          some outcome⟩).since
        ((LogEntry.result none).map .logged ++
          [.logged (.field "principal" (.text principal.name))]) := by
  refine (Routine.alone_bind _ _ _).trans ?_
  rw [alone_logAll]
  refine (congrArg (Solo.since _) (congrArg (Solo.since _)
    (Routine.alone_bind (command.run context) _ replies))).trans ?_
  rw [Solo.since_since]
  refine congrArg _ (congrArg (Solo.bind _) (funext fun outcome => funext fun left => ?_))
  rcases outcome with _ | outcome
  · rfl
  · rfl

/-- The principal is resolved before a command runs. -/
theorem execution_known (h : commands.get? invocation.commandName = some command) :
    execution profile commands connection known invocation replies =
      ((resolution profile known invocation replies).bind
        (afterResolution profile commands command known invocation)).since
        [.logged (.span invocation.commandName connection)] := by
  rw [execution_eq, h]
  refine congrArg _ ((Routine.alone_bind _ _ _).trans ?_)
  refine congrArg (Solo.bind _) (funext fun resolved => funext fun left => ?_)
  rcases resolved with e | principal
  · refine (Routine.alone_bind _ _ _).trans ?_
    rw [alone_logAll]
    rfl
  · exact alone_run _ principal

/-- An execution without a principal is refused. -/
theorem result_execution_of_refused {e : AuthError}
    (h : commands.get? invocation.commandName = some command)
    (hr : (resolution profile known invocation replies : Solo ρ _).result = some (.error e)) :
    (execution profile commands connection known invocation replies).result =
      some (some (refused e)) := by
  rw [execution_known h, Solo.bind, hr]
  rfl

/-- What a request to execute is answered with. -/
def executed : Option Outcome → Except Failure Reply
  | some outcome => .ok (.outcome outcome)
  | none => .error ⟨"execute handler failed"⟩

/-- What the task of a request to execute does by itself: it executes, and answers with the
outcome. -/
def served (profile : Profile) (commands : Registry ρ) (connection : String)
    (known : Auth.Knowledge) (id : CallId) (invocation : Invocation) (replies : Replies) :
    List (Deed ρ) :=
  (execution profile commands connection known invocation replies).deeds ++
    ((execution profile commands connection known invocation replies).result.map fun outcome =>
      Deed.answered id (executed outcome)).toList

theorem deeds_serve (id : CallId) :
    (Routine.alone known ((handler profile commands connection).serve id (.execute invocation))
        replies).deeds = served profile commands connection known id invocation replies := by
  have hserve : Routine.alone known
      ((handler profile commands connection).serve id (.execute invocation)) replies =
        (execution profile commands connection known invocation replies).bind fun outcome left =>
          ⟨[.answered id (executed outcome)], left, some ()⟩ := by
    have hassoc : (handler profile commands connection).serve id (.execute invocation) =
        (execute profile commands connection invocation).bind fun outcome =>
          Routine.respond id (executed outcome) := by
      refine (Dialogue.bind_assoc _ _ _).trans (congrArg _ (funext fun outcome => ?_))
      rcases outcome with _ | outcome
      · rfl
      · rfl
    rw [hassoc]
    exact Routine.alone_bind _ _ _
  rw [hserve, Solo.bind, served]
  split
  · rename_i h
    rw [h]
    exact (List.append_nil _).symm
  · rename_i outcome h
    rw [h]
    rfl

end Cases

/-- Reports are all the difference that it makes to observe the commands. -/
theorem unreported_execution (commands : Registry BodyRun) (profile : Profile) (connection : String)
    (known : Auth.Knowledge) (invocation : Invocation) (replies : Replies) :
    (execution profile commands.observed connection known invocation replies).unreported =
      (execution profile commands connection known invocation replies).unreported := by
  have hget := get?_observed commands invocation.commandName
  rcases hcommand : commands.get? invocation.commandName with _ | command
  · rw [hcommand, Option.map_none] at hget
    rw [execution_unknown hget, execution_unknown hcommand]
  rw [hcommand, Option.map_some] at hget
  rw [execution_known hget, execution_known hcommand, Solo.unreported_since, Solo.unreported_since,
    Solo.unreported_bind, Solo.unreported_bind]
  refine congrArg _ (congrArg _ (funext fun resolved => funext fun left => ?_))
  rcases resolved with e | principal
  · rfl
  · rw [afterResolution, afterResolution, infos_observed, alone_observed, Solo.since_bind,
      Solo.unreported_since, Solo.unreported_since, Solo.unreported_since]
    rfl

/-! ## Which bodies run -/

/-- The bodies that an execution by itself runs: that of the command of its name, once, if there is
one and the resolution finds a principal. -/
def bodyRuns (profile : Profile) (commands : Registry BodyRun) (known : Auth.Knowledge)
    (invocation : Invocation) (replies : Replies) : List BodyRun :=
  match commands.get? invocation.commandName,
    (resolution profile known invocation replies : Solo BodyRun _).result with
  | some _, some (.ok principal) =>
    [⟨invocation.commandName, ⟨invocation.args.drop 1, principal, profile, commands.infos⟩⟩]
  | _, _ => []

theorem reports_bind {s : Solo ρ α} {β : Type} {next : α → Replies → Solo ρ β}
    (h : ∀ a left, reports (next a left).deeds = []) :
    reports (s.bind next).deeds = reports s.deeds := by
  rw [Solo.bind]
  split
  · rfl
  · rw [reports_since, h, List.append_nil]

/-- **An execution by itself runs one body at most.** -/
theorem reports_execution {commands : Registry BodyRun} (hplain : commands.All Op.Plain)
    (profile : Profile) (connection : String) (known : Auth.Knowledge) (invocation : Invocation)
    (replies : Replies) :
    reports (execution profile commands.observed connection known invocation replies).deeds =
      bodyRuns profile commands known invocation replies := by
  have hget := get?_observed commands invocation.commandName
  have hresolution :
      reports (resolution profile known invocation replies : Solo BodyRun _).deeds = [] :=
    reports_of_plain ((plain_resolve profile _).deeds known replies)
  rw [bodyRuns]
  rcases hcommand : commands.get? invocation.commandName with _ | command
  · rw [hcommand, Option.map_none] at hget
    rw [execution_unknown hget]
    rfl
  rw [hcommand, Option.map_some] at hget
  have hbody : ∀ ctx, Routine.Plain (command.run ctx) := hplain _ command hcommand
  rw [execution_known hget, reports_since, Solo.bind]
  rcases hr : (resolution profile known invocation replies : Solo BodyRun _).result with
    _ | e | principal
  · exact hresolution
  · simp only
    rw [reports_since, hresolution, afterResolution, reports_logged]
    rfl
  · simp only
    rw [reports_since, hresolution, afterResolution, reports_since, reports_append, reports_logged,
      reports_bind, alone_observed, reports_since, reports_of_plain ((hbody _).deeds known _),
      infos_observed]
    · rfl
    · intro outcome left
      cases outcome <;> rfl

end Server

end CommandLink
