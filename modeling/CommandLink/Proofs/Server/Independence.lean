import CommandLink.Proofs.Channel.Correlation
import CommandLink.Proofs.Channel.Deeds
import CommandLink.Proofs.Channel.Taking
import CommandLink.Proofs.Server.Execution

/-!
# Executions of one connection

However many executions are in progress on a channel, and whatever the client says to their calls in
whatever order: each does what it does by itself with the replies to its own calls
(`executions_independent`). The principal of an execution is the one that it has resolved itself,
and its body is run on behalf of no other.
-/

namespace CommandLink

variable {α : Type}

/-- A member of a beginning that is not in the first part comes last. -/
theorem eq_of_mem_of_prefix {l first : List α} {last? : Option α} {a : α}
    (h : l <+: first ++ last?.toList) (ha : a ∈ l) (hfirst : a ∉ first) :
    last? = some a ∧ l = first ++ [a] := by
  rcases last? with _ | last
  · rw [Option.toList_none, List.append_nil] at h
    exact absurd (h.subset ha) hfirst
  · rw [Option.toList_some, List.prefix_concat_iff] at h
    rcases h with rfl | h
    · rcases List.mem_append.mp ha with ha | ha
      · exact absurd ha hfirst
      · rw [List.mem_singleton.mp ha]
        exact ⟨rfl, rfl⟩
    · exact absurd (h.subset ha) hfirst

namespace Server

/-- What the task of a request to execute has done, and the replies to its calls: it has done what
it does by itself with those replies, as far as it has come. The commands are those of a server, and
`offered` is the same commands, observed or not. -/
structure AsAlone (profile : Profile) (commands offered : Registry BodyRun) (connection : String)
    (known : Auth.Knowledge) (id : CallId) (invocation : Invocation) (replies : Replies)
    (deeds : List (Deed BodyRun)) : Prop where
  /-- The calls, the entries of the log, the runs of bodies and the response are those of the
  execution by itself, in their order. -/
  same : deeds <+: served profile offered connection known id invocation replies
  /-- The response is the outcome of the execution by itself, after all that it does. -/
  outcome : ∀ id' result, Deed.answered id' result ∈ deeds → id' = id ∧
    deeds = (execution profile offered connection known invocation replies).deeds ++
      [.answered id result] ∧
    ∃ outcome,
      (execution profile offered connection known invocation replies).result = some outcome ∧
      result = executed outcome
  /-- A name that no command has makes no call and runs no body. -/
  unknown : commands.get? invocation.commandName = none → calls deeds = [] ∧ reports deeds = [] ∧
    ∀ id' result, Deed.answered id' result ∈ deeds →
      result = .ok (.outcome (unknownCommand invocation.commandName))
  /-- An execution whose resolution fails runs no body. Its outcome has no output and the code
  -1. -/
  refused : ∀ e, (commands.get? invocation.commandName).isSome = true →
    (resolution profile known invocation replies : Solo BodyRun _).result = some (.error e) →
    reports deeds = [] ∧ ∀ id' result, Deed.answered id' result ∈ deeds →
      result = .ok (.outcome ⟨-1, "", "authentication failed: " ++ e.message ++ "\n"⟩)
  /-- A body is run only if it is that of the command of the name, on behalf of the principal that
  the execution has resolved, with the arguments after the name, and only once. -/
  once : reports deeds <+: bodyRuns profile commands known invocation replies
  /-- An execution that has been answered has run the body if there is a principal. -/
  ran : offered = commands.observed → ∀ id' result, Deed.answered id' result ∈ deeds →
    reports deeds = bodyRuns profile commands known invocation replies

section Alone

variable {commands offered : Registry BodyRun}

/-- The commands are the same whether they are observed or not. -/
theorem get?_offered (hoffered : offered = commands ∨ offered = commands.observed) {name : String} :
    offered.get? name = none ↔ commands.get? name = none := by
  rcases hoffered with rfl | rfl
  · rfl
  · rw [get?_observed, Option.map_eq_none_iff]

theorem modest_offered (hplain : commands.All Op.Plain)
    (hoffered : offered = commands ∨ offered = commands.observed) : offered.All Op.Modest := by
  rcases hoffered with rfl | rfl
  · exact fun name command hcommand ctx =>
      (hplain name command hcommand ctx).mono fun _ => Op.Plain.modest
  · exact modest_observed hplain

/-- Requests need no more than replies to calls, and leave what the server knows as it is. -/
theorem tame_serve (hplain : commands.All Op.Plain)
    (hoffered : offered = commands ∨ offered = commands.observed) (profile : Profile)
    (connection : String) (id : CallId) (call : Call) :
    Dialogue.All Op.Tame (fun _ => True)
      ((handler profile offered connection).serve id call) := by
  have hcommands : offered.All Op.Tame := by
    intro name command hcommand ctx
    exact (modest_offered hplain hoffered name command hcommand ctx).mono fun _ => Op.Modest.tame
  apply all_serve
  · exact fun op hp => hp.modest.tame
  · exact hcommands
  · exact fun _ _ => trivial

/-- What a server knows stays as it is while it serves nothing but requests. -/
theorem known_of_requests (hplain : commands.All Op.Plain)
    (hoffered : offered = commands ∨ offered = commands.observed) {profile : Profile}
    {connection : String} {setup : ChannelSetup Auth.Knowledge BodyRun}
    (hhandler : setup.handler = handler profile offered connection) (known : Auth.Knowledge)
    (guarded : Bool) {actions : List (Action Auth.Knowledge BodyRun)}
    (hrequests : ∀ origin ∈ (Channel.start setup known guarded).origins actions,
      origin.request?.isSome = true) :
    ∀ m ∈ (Channel.start setup known guarded).moments actions, m.before.world = known := by
  refine (Channel.world_after setup known guarded fun origin horigin => ?_).1
  obtain ⟨⟨id, call⟩, hrequest⟩ := Option.isSome_iff_exists.mp (hrequests origin horigin)
  rw [Origin.eq_requested hrequest, hhandler]
  exact (tame_serve hplain hoffered profile connection id call).mono fun _ => Op.Tame.still

/-- An execution by itself runs no body but that of its command. -/
theorem reports_execution_offered (hplain : commands.All Op.Plain)
    (hoffered : offered = commands ∨ offered = commands.observed) (profile : Profile)
    (connection : String) (known : Auth.Knowledge) (invocation : Invocation) (replies : Replies) :
    reports (execution profile offered connection known invocation replies).deeds <+:
      bodyRuns profile commands known invocation replies := by
  rcases hoffered with rfl | rfl
  · have hdeeds : Routine.Plain (execute profile offered connection invocation) :=
      all_execute (fun _ => id) hplain profile connection invocation
    rw [execution, reports_of_plain (hdeeds.deeds known replies)]
    exact List.nil_prefix
  · have hreports := reports_execution hplain profile connection known invocation replies
    exact hreports ▸ List.prefix_rfl

/-- An execution leaves the response to its task. -/
theorem answered_not_mem_execution (hplain : commands.All Op.Plain)
    (hoffered : offered = commands ∨ offered = commands.observed) (profile : Profile)
    (connection : String) (known : Auth.Knowledge) (invocation : Invocation) (replies : Replies)
    (id : CallId) (result : Except Failure Reply) :
    Deed.answered id result ∉
      (execution profile offered connection known invocation replies).deeds := by
  have hmodest : Dialogue.All Op.Modest (fun _ => True)
      (execute profile offered connection invocation) :=
    all_execute (fun _ => Op.Plain.modest) (modest_offered hplain hoffered) profile connection
      invocation
  intro hmem
  exact hmodest.deeds (fun _ _ hm hd => hm.deed hd id result) known replies _ hmem rfl

section Same

variable {profile : Profile} {connection : String} {known : Auth.Knowledge} {id : CallId}
  {invocation : Invocation} {replies : Replies} {deeds : List (Deed BodyRun)}

/-- What is not about responses comes of the execution. -/
theorem filterMap_prefix_of_same {f : Deed BodyRun → Option α}
    (hf : ∀ result, f (.answered id result) = none)
    (same : deeds <+: served profile offered connection known id invocation replies) :
    deeds.filterMap f <+:
      (execution profile offered connection known invocation replies).deeds.filterMap f := by
  have hprefix := same.filterMap f
  rw [served, List.filterMap_append] at hprefix
  rcases hresult : (execution profile offered connection known invocation replies).result with
    _ | outcome
  · rwa [hresult, Option.map_none, Option.toList_none, List.filterMap_nil,
      List.append_nil] at hprefix
  · rwa [hresult, Option.map_some, Option.toList_some, List.filterMap_cons_none (hf _),
      List.filterMap_nil, List.append_nil] at hprefix

/-- The task of a request answers when the execution has come to its end, with its outcome. -/
theorem outcome_of_same (hplain : commands.All Op.Plain)
    (hoffered : offered = commands ∨ offered = commands.observed)
    (same : deeds <+: served profile offered connection known id invocation replies) {id' : CallId}
    {result : Except Failure Reply} (hmem : Deed.answered id' result ∈ deeds) :
    id' = id ∧
    deeds = (execution profile offered connection known invocation replies).deeds ++
      [.answered id result] ∧
    ∃ outcome,
      (execution profile offered connection known invocation replies).result = some outcome ∧
      result = executed outcome := by
  obtain ⟨hlast, hdeeds⟩ := eq_of_mem_of_prefix same hmem
    (answered_not_mem_execution hplain hoffered profile connection known invocation replies id'
      result)
  obtain ⟨outcome, hresult, heq⟩ := Option.map_eq_some_iff.mp hlast
  cases heq
  exact ⟨rfl, hdeeds, outcome, hresult, rfl⟩

/-- It is enough that what the task has done is a beginning of what it does by itself. -/
theorem asAlone_of_same (hplain : commands.All Op.Plain)
    (hoffered : offered = commands ∨ offered = commands.observed)
    (same : deeds <+: served profile offered connection known id invocation replies) :
    AsAlone profile commands offered connection known id invocation replies deeds := by
  have once : reports deeds <+: bodyRuns profile commands known invocation replies :=
    (filterMap_prefix_of_same (fun _ => rfl) same).trans
      (reports_execution_offered hplain hoffered profile connection known invocation replies)
  refine ⟨same, fun id' result => outcome_of_same hplain hoffered same, fun hunknown => ?_,
    fun e hcommand hr => ?_, once, fun hobserved id' result hmem => ?_⟩
  · have hnone := (get?_offered hoffered).mpr hunknown
    have hcalls : calls deeds <+:
        calls (execution profile offered connection known invocation replies).deeds :=
      filterMap_prefix_of_same (fun _ => rfl) same
    rw [execution_unknown hnone] at hcalls
    rw [bodyRuns, hunknown] at once
    refine ⟨List.prefix_nil.mp hcalls, List.prefix_nil.mp once, fun id' result hmem => ?_⟩
    obtain ⟨-, -, outcome, hresult, rfl⟩ := outcome_of_same hplain hoffered same hmem
    rw [execution_unknown hnone] at hresult
    cases hresult
    rfl
  · obtain ⟨command, hcommand'⟩ := Option.isSome_iff_exists.mp hcommand
    rw [bodyRuns, hcommand', hr] at once
    refine ⟨List.prefix_nil.mp once, fun id' result hmem => ?_⟩
    obtain ⟨-, -, outcome, hresult, rfl⟩ := outcome_of_same hplain hoffered same hmem
    have hsome : offered.get? invocation.commandName ≠ none := by
      rw [Ne, get?_offered hoffered, hcommand']
      exact Option.some_ne_none command
    obtain ⟨command', hoffers⟩ := Option.ne_none_iff_exists'.mp hsome
    rw [result_execution_of_refused hoffers hr] at hresult
    cases hresult
    rfl
  · rw [(outcome_of_same hplain hoffered same hmem).2.1, reports_append, hobserved,
      reports_execution hplain]
    exact List.append_nil _

end Same

end Alone

/-- **Executions of one connection.** In every run of a channel on which a server offers the
built-in commands, while what the server knows stays as it is, whatever the client sends and in
whatever order everything happens, for every request to execute:

* a call of its task that returns a reply or a failure of the client has been answered with it;
* its task does what it does by itself with the replies to its own calls;
* it has done all of that whenever it waits for a reply. -/
theorem executions_independent (profile : Profile) (connection : String)
    {offered : Registry BodyRun}
    (hoffered : offered = builtins ∨ offered = Registry.observed builtins)
    {setup : ChannelSetup Auth.Knowledge BodyRun}
    (hhandler : setup.handler = handler profile offered connection) (known : Auth.Knowledge)
    (guarded : Bool) {actions : List (Action Auth.Knowledge BodyRun)}
    (hknown : ∀ m ∈ (Channel.start setup known guarded).moments actions, m.before.world = known)
    {number : ℕ} {id : CallId} {invocation : Invocation}
    (horigin : ((Channel.start setup known guarded).origins actions)[number]? =
      some (.requested id (.execute invocation))) :
    let replies := (Channel.start setup known guarded).replies actions number
    let deeds := (Channel.start setup known guarded).deeds actions number
    (∀ before reply later, (Channel.start setup known guarded).history actions =
        before ++ .completed (.task number) reply :: later → FromPeer reply →
      ∃ answer, Answered (.task number) answer before ∧ reply = received answer) ∧
    AsAlone profile builtins offered connection known id invocation replies deeds ∧
    ∀ stage next,
      ((Channel.start setup known guarded).after actions).stage? number =
        some (.call stage next) →
      deeds = served profile offered connection known id invocation replies := by
  intro replies deeds
  have htame : Dialogue.All Op.Tame (fun _ => True)
      ((Origin.requested id (.execute invocation)).routine setup.handler) := by
    rw [hhandler]
    exact tame_serve plain_builtins hoffered profile connection id _
  obtain ⟨hdeeds, hwaiting⟩ := Channel.deeds_after setup known guarded hknown horigin htame
  rw [hhandler, Origin.routine, deeds_serve] at hdeeds hwaiting
  refine ⟨?_, asAlone_of_same plain_builtins hoffered hdeeds, hwaiting⟩
  intro before reply later
  exact (Channel.sound_history setup known guarded actions).paid before (.task number) reply later

/-! ## Two executions in progress -/

/-- A server whose secrets are empty. -/
def sampleProfile : Profile where
  rootUrl := "http://localhost:8080"
  version := "1"
  sessions := SessionTokens.mk ⟨⟨""⟩⟩ (Duration.seconds 60)
  tokens := ⟨⟨⟨""⟩⟩⟩

/-- A link to that server. -/
def sampleLink : ChannelSetup Auth.Knowledge BodyRun where
  id := "link"
  kind := .direct
  frameLimit := 4096
  heartbeat := 0
  handler := handler sampleProfile (Registry.observed builtins) "link"

/-- No users, and no builds. -/
def emptyKnowledge : Auth.Knowledge := ⟨Table.empty, Table.empty, ⟨0, 0⟩⟩

/-- A task goes on until its next call or its response is on the stream. -/
def goesOn (number : ℕ) : List (Action Auth.Knowledge BodyRun) :=
  List.replicate 8 (.agent (.task number) .go) ++
    [.agent (.task number) (.write 300), .agent (.task number) .go]

/-- Two executions are in progress. The call that the second has made is replied to before that of
the first, and the second is over while the first goes on. -/
def crossedReplies : List (Action Auth.Knowledge BodyRun) :=
  Channel.comesIn (.request 7 (.execute ⟨["who-am-i", "now"], Credentials.none⟩)) ++
    Channel.comesIn (.request 8 (.execute ⟨["version"], Credentials.none⟩)) ++ goesOn 0 ++
    goesOn 1 ++ Channel.comesIn (.response 2 (.ok (.text none))) ++
    Channel.comesIn (.response 1 (.error ⟨"no"⟩)) ++ goesOn 1 ++ goesOn 0 ++
    Channel.comesIn (.response 3 (.ok (.text none))) ++ goesOn 1

/-- The second execution has been run on behalf of nobody in particular, as it is by itself. -/
theorem executions_independent_crossedReplies :
    (∀ m ∈ (Channel.start sampleLink emptyKnowledge false).moments crossedReplies,
      m.before.world = emptyKnowledge) ∧
    ((Channel.start sampleLink emptyKnowledge false).origins crossedReplies)[1]? =
      some (.requested 8 (.execute ⟨["version"], Credentials.none⟩)) ∧
    AsAlone sampleProfile builtins (Registry.observed builtins) "link" emptyKnowledge 8
      ⟨["version"], Credentials.none⟩
      ((Channel.start sampleLink emptyKnowledge false).replies crossedReplies 1)
      ((Channel.start sampleLink emptyKnowledge false).deeds crossedReplies 1) ∧
    (reports ((Channel.start sampleLink emptyKnowledge false).deeds crossedReplies 1)).map
      (fun run => (run.command, run.context.args, run.context.principal)) =
        [("version", [], .anonymous)] := by
  have hrequests : ((Channel.start sampleLink emptyKnowledge false).origins crossedReplies).map
      Origin.request? = [some (7, .execute ⟨["who-am-i", "now"], Credentials.none⟩),
        some (8, .execute ⟨["version"], Credentials.none⟩)] := by decide +kernel
  have hknown : ∀ m ∈ (Channel.start sampleLink emptyKnowledge false).moments crossedReplies,
      m.before.world = emptyKnowledge := by
    refine known_of_requests plain_builtins (.inr rfl) rfl _ false fun origin horigin => ?_
    have hmem := List.mem_map_of_mem (f := Origin.request?) horigin
    rw [hrequests] at hmem
    rcases List.mem_pair.mp hmem with heq | heq
    · rw [heq]
      rfl
    · rw [heq]
      rfl
  have horigin : ((Channel.start sampleLink emptyKnowledge false).origins crossedReplies)[1]? =
      some (.requested 8 (.execute ⟨["version"], Credentials.none⟩)) := by
    have hsecond := congrArg (fun l => l[1]?) hrequests
    simp only [List.getElem?_map] at hsecond
    obtain ⟨origin, horigin, hrequest⟩ := Option.map_eq_some_iff.mp hsecond
    rw [horigin, Origin.eq_requested hrequest]
  have hindependent := executions_independent sampleProfile "link" (.inr rfl) rfl emptyKnowledge
    false hknown horigin
  exact ⟨hknown, horigin, hindependent.2.1, by decide +kernel⟩

end Server

end CommandLink
