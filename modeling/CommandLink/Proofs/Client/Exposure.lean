import CommandLink.Proofs.Channel.Deeds
import CommandLink.Proofs.Client.Handshake
import CommandLink.Proofs.Client.Serving
import Mathlib.Data.List.Perm.Subperm

/-!
# What a client shows before it has accepted its server

A client answers requests from the moment its channel is open, also while it waits for the entry
point of its server (`token_shown_before_handshake`). But it only does what it is asked to: before
its connecting has succeeded every response answers a request that has been taken, with a secret
only if the request asks for that secret, and the client is in the state in which some of the
requests leave it, each answered at most once (`shows_only_what_is_asked`).
-/

namespace CommandLink

/-- What is chosen at different places of a list, in any order. -/
theorem subperm_of_indices {α β : Type} {f : α → Option β} {l : List α} {chosen : List (ℕ × β)}
    (hn : (chosen.map Prod.fst).Nodup)
    (hc : ∀ n b, (n, b) ∈ chosen → ∃ a, l[n]? = some a ∧ f a = some b) :
    (chosen.map Prod.snd).Subperm (l.filterMap f) := by
  have hsubset : chosen ⊆ l.zipIdx.filterMap fun p => (f p.1).map fun b => (p.2, b) := by
    rintro ⟨n, b⟩ hmem
    obtain ⟨a, ha, hf⟩ := hc n b hmem
    rw [List.mem_filterMap]
    refine ⟨(a, n), List.mem_zipIdx_iff_getElem?.mpr ha, ?_⟩
    rw [hf]
    rfl
  obtain ⟨l', hperm, hsub⟩ := List.Nodup.subperm (List.Nodup.of_map _ hn) hsubset
  have hall : (l.zipIdx.filterMap fun p => (f p.1).map fun b => (p.2, b)).map Prod.snd =
      l.filterMap f := by
    rw [List.map_filterMap]
    conv_rhs => rw [← List.zipIdx_map_fst 0 l, List.filterMap_map]
    refine List.filterMap_congr fun p _ => ?_
    rw [Option.map_map]
    exact congrFun Option.map_id (f p.1)
  exact hall ▸ ⟨l'.map Prod.snd, hperm.map _, hsub.map _⟩

namespace Client

open Channel

variable {ρ : Type}

/-- An operation that leaves the client as it is and answers nothing. -/
def Quiet (op : Op ClientState ρ) : Prop := op.Still ∧ ∀ id result, op ≠ .respond id result

theorem quiet_connect :
    Dialogue.All Quiet (fun _ => True) (connect : Routine ClientState ρ _) :=
  all_connect (fun _ => ⟨trivial, by simp⟩) ⟨trivial, by simp⟩ ⟨trivial, by simp⟩

section Runs

variable {setup : ChannelSetup ClientState ρ} {world : ClientState} {guarded : Bool}
  {next : Except ClientError EntryPoint → Routine ClientState ρ Unit}
  {actions : List (Action ClientState ρ)}

/-- What a task that connects is about to do is quiet, as long as its connecting has not
succeeded. -/
theorem quiet_of_follow {heard : List (Heard ClientState)} {op : Op ClientState ρ}
    {f : op.Answer → Routine ClientState ρ Unit}
    (hnext : ∀ e, Dialogue.All Quiet (fun _ => True) (next (.error e)))
    (hn : ∀ e, ¬ Routine.Returns (connect : Routine ClientState ρ _) heard (.ok e))
    (h : Routine.follow (connect.bind next) heard = some (.ask op f)) : Quiet op := by
  have hfailed : ∀ {first later : List (Heard ClientState)} {e : ClientError},
      heard = first ++ later →
      Routine.follow (connect : Routine ClientState ρ _) first = some (.done (.error e)) →
      Quiet op := by
    rintro first later e rfl hfirst
    rw [Routine.follow_append, Routine.follow_bind_of_some hfirst next, Option.bind_some] at h
    exact ((hnext e).follow h).1
  rcases Routine.follow_bind h with ⟨result | ⟨op', f'⟩, hrest, heq⟩ | ⟨result, first, ⟨later, hheard⟩,
    hfirst⟩
  · rcases result with e | e
    · exact hfailed (List.append_nil _).symm hrest
    · exact absurd ⟨heard, List.prefix_rfl, hrest⟩ (hn e)
  · cases heq
    exact (quiet_connect.follow hrest).1
  · rcases result with e | e
    · exact hfailed hheard.symm hfirst
    · exact absurd ⟨first, ⟨later, hheard⟩, hfirst⟩ (hn e)

/-- Whatever has been started in a run connects, and has not succeeded in it. -/
def Undecided (next : Except ClientError EntryPoint → Routine ClientState ρ Unit)
    (past : List (Moment ClientState ρ)) : Prop :=
  ∀ number routine, (past.filterMap Moment.origin?)[number]? = some (.started routine) →
    routine = connect.bind next ∧ ∀ e, ¬ Routine.Returns (connect : Routine ClientState ρ _)
      (past.filterMap (Moment.heard? number)) (.ok e)

theorem Undecided.of_append {past later : List (Moment ClientState ρ)}
    (h : Undecided next (past ++ later)) : Undecided next past := by
  intro number routine ho
  obtain ⟨hroutine, hn⟩ := h number routine (origin_append ho later)
  refine ⟨hroutine, fun e he => hn e (he.mono ?_)⟩
  rw [List.filterMap_append]
  exact List.prefix_append _ _

theorem undecided_of_not_connected
    (hstarted : ConnectsFirst (Channel.start setup world guarded) next actions)
    (hn : ¬ Connected (Channel.start setup world guarded) next actions) :
    Undecided next ((Channel.start setup world guarded).moments actions) := by
  intro number routine ho
  rcases origin_cases hstarted (List.append_nil actions).symm ho with heq | ⟨id, call, heq⟩ | hc
  · cases heq
    exact ⟨rfl, fun e he => hn ⟨number, e, ho, he⟩⟩
  · cases heq
  · exact absurd hc hn

/-- The client has answered some of the requests for which tasks have begun, each once, and each of
those tasks has looked at the world twice. -/
def Answers (world : ClientState) (past : List (Moment ClientState ρ)) (c : Channel ClientState ρ) :
    Prop :=
  ∃ served : List (ℕ × CallId × Call), (served.map Prod.fst).Nodup ∧
    (∀ number id call, (number, id, call) ∈ served →
      (past.filterMap Moment.origin?)[number]? = some (.requested id call) ∧
      2 ≤ (past.filterMap (Moment.heard? number)).countP Heard.isWorld) ∧
    c.world = (world.answerAll (served.map fun s => s.2.2)).1

/-- What a task that serves a request is about to do. -/
theorem serving_of_origin {past : List (Moment ClientState ρ)} {c : Channel ClientState ρ}
    (hb : Begun past c) (hhandler : c.setup.handler = clientHandler) {number : ℕ} {id : CallId}
    {call : Call} {op : Op ClientState ρ} {f : op.Answer → Routine ClientState ρ Unit}
    (ho : (past.filterMap Moment.origin?)[number]? = some (.requested id call))
    (hs : c.stage? number = some (.ready (.ask op f))) :
    Serving id call (past.filterMap (Moment.heard? number)) (.ask op f) := by
  have hleft := hb.follow_of_ready ho hs
  rw [Origin.routine, hhandler] at hleft
  exact serving_of_follow hleft

section Steps

variable {past : List (Moment ClientState ρ)} {c d : Channel ClientState ρ}
  {action : Action ClientState ρ} {events : List (Event ρ)}

/-- How often a task has looked at the world does not fall. -/
theorem looks_append {number n : ℕ}
    (h : n ≤ (past.filterMap (Moment.heard? number)).countP Heard.isWorld)
    (later : List (Moment ClientState ρ)) :
    n ≤ ((past ++ later).filterMap (Moment.heard? number)).countP Heard.isWorld := by
  rw [List.filterMap_append, List.countP_append]
  exact Nat.le_add_right_of_le h

/-- What has been answered stays answered. -/
theorem Answers.append (ha : Answers world past c) (hd : d.world = c.world)
    (later : List (Moment ClientState ρ)) : Answers world (past ++ later) d := by
  obtain ⟨served, hnodup, hserved, hworld⟩ := ha
  refine ⟨served, hnodup, fun number id call hmem => ?_, hd.trans hworld⟩
  obtain ⟨ho, htwice⟩ := hserved number id call hmem
  exact ⟨origin_append ho _, looks_append htwice _⟩

/-- One more request is answered when its task looks at the world for the second time. -/
theorem Answers.serve (ha : Answers world past c) {number : ℕ} {id : CallId} {call : Call}
    {s : ClientState} {m : Moment ClientState ρ}
    (ho : (past.filterMap Moment.origin?)[number]? = some (.requested id call))
    (honce : (past.filterMap (Moment.heard? number)).countP Heard.isWorld = 1)
    (hm : m.heard? number = some (.world s)) (hd : d.world = (c.world.answer call).1) :
    Answers world (past ++ [m]) d := by
  obtain ⟨served, hnodup, hserved, hworld⟩ := ha
  have hfresh : number ∉ served.map Prod.fst := by
    intro hmem
    obtain ⟨⟨number', id', call'⟩, hmem', rfl⟩ := List.mem_map.mp hmem
    have htwice := (hserved _ id' call' hmem').2
    dsimp only at honce
    omega
  have htwice : ((past ++ [m]).filterMap (Moment.heard? number)).countP Heard.isWorld = 2 := by
    rw [filterMap_concat, List.countP_append, honce, hm]
    rfl
  refine ⟨served ++ [(number, id, call)], ?_, fun number' id' call' hmem => ?_, ?_⟩
  · rw [List.map_append, List.map_singleton, ← List.concat_eq_append]
    exact hnodup.concat hfresh
  · rcases List.mem_append.mp hmem with hmem | hmem
    · obtain ⟨ho', htwice'⟩ := hserved number' id' call' hmem
      exact ⟨origin_append ho' _, looks_append htwice' _⟩
    · cases List.mem_singleton.mp hmem
      exact ⟨origin_append ho _, htwice.ge⟩
  · rw [hd, hworld, List.map_append, List.map_singleton, ClientState.answerAll_concat]

/-- A task that connects leaves the client as it is, and a task that serves a request changes it by
the answer. -/
theorem Answers.step (ha : Answers world past c) (hb : Begun past c)
    (hhandler : c.setup.handler = clientHandler)
    (hnext : ∀ e, Dialogue.All Quiet (fun _ => True) (next (.error e))) (hu : Undecided next past)
    (h : c.step action = some (d, events)) :
    Answers world (past ++ [⟨c, action, d, events⟩]) d := by
  rcases world_step h with heq | ⟨number, choice, f, g, rfl, hstage, hchanged⟩
  · exact ha.append heq _
  · obtain ⟨routine | ⟨id, call⟩, ho⟩ := hb.origin_of_stage hstage
    · obtain ⟨rfl, hn⟩ := hu number routine ho
      have hquiet := quiet_of_follow hnext hn (hb.follow_of_ready ho hstage)
      have hid : f = id := hquiet.1
      exact ha.append (by rw [hchanged, hid]; rfl) _
    · rcases (serving_of_origin hb hhandler ho hstage).change with hid | ⟨hanswer, honce⟩
      · exact ha.append (hchanged.trans (hid _)) _
      · have hlooks : (⟨c, .agent (.task number) choice, d, events⟩ :
            Moment ClientState ρ).heard? number = some (.world c.world) := by
          rw [Moment.heard?, heard?, if_pos rfl, hstage]
          rfl
        exact ha.serve ho honce hlooks (hchanged.trans (hanswer _))

end Steps

variable (hhandler : setup.handler = clientHandler)
  (hnext : ∀ e, Dialogue.All Quiet (fun _ => True) (next (.error e)))
  (hu : Undecided next ((Channel.start setup world guarded).moments actions))

include hhandler hnext hu in
/-- **The client has answered requests**, and done nothing else. -/
theorem answers_after : Answers world ((Channel.start setup world guarded).moments actions)
    ((Channel.start setup world guarded).after actions) := by
  refine (run_induction (P := fun past c => Begun past c ∧ c.setup = setup ∧
      (Undecided next past → Answers world past c)) (Channel.start setup world guarded)
    ⟨begun_after setup world guarded [], rfl, fun _ => ⟨[], List.nodup_nil, by simp, rfl⟩⟩
    ?_ actions).2.2 hu
  rintro past c action d events ⟨hb, rfl, ha⟩ h
  refine ⟨hb.step h, (step_others h).setup, fun hu => ?_⟩
  exact (ha hu.of_append).step hb hhandler hnext hu.of_append h

/-- What a client has become: some of the requests that it has taken have been answered, each once. -/
theorem world_of_answers
    (ha : Answers world ((Channel.start setup world guarded).moments actions)
      ((Channel.start setup world guarded).after actions)) :
    ∃ requests : List (CallId × Call),
      requests.Subperm (((Channel.start setup world guarded).taken actions).filterMap
        Frame.request?) ∧
      ((Channel.start setup world guarded).after actions).world =
        (world.answerAll (requests.map Prod.snd)).1 := by
  obtain ⟨served, hnodup, hserved, hworld⟩ := ha
  refine ⟨served.map Prod.snd, ?_, ?_⟩
  · refine (subperm_of_indices hnodup fun number request hmem => ?_).trans
      (requests_sublist _ actions).subperm
    exact ⟨_, (hserved number request.1 request.2 hmem).1, rfl⟩
  · rw [hworld, List.map_map]
    rfl

include hhandler hnext hu in
/-- **Responses are answers.** A response is offered by a task that serves a request, with the
answer that the client had when the task looked at it, or with why that cannot be sent. -/
theorem answer_of_response {a : Agent} {id : CallId} {result : Except Failure Reply}
    (h : .response id result ∈ (Channel.start setup world guarded).offers actions a) :
    ∃ first later call, actions = first ++ later ∧
      .request id call ∈ (Channel.start setup world guarded).taken first ∧
      let answer := (((Channel.start setup world guarded).after first).world.answer call).2
      result = answer ∨ ∃ e, (Frame.response id answer).wire setup.frameLimit = .error e ∧
        result = .error ⟨e.message⟩ := by
  obtain ⟨first, rest, number, origin, left, stage, rfl, rfl, ho, hleft, hstage, hsends, hp⟩ :=
    task_of_offer setup world guarded h (by simp)
  rw [moments_append] at hu
  obtain ⟨answer, f, rfl, hresult⟩ := respond_of_response hp hsends
  rcases origin with routine | ⟨id', call⟩
  · -- A task that connects answers nothing.
    obtain ⟨rfl, hn⟩ := hu.of_append number routine ho
    exact absurd rfl ((quiet_of_follow hnext hn hleft).2 id answer)
  · rw [Origin.routine, hhandler] at hleft
    obtain ⟨rfl, past, s, hheard, rfl⟩ := (serving_of_follow hleft).respond
    obtain ⟨before, action, later, d, events, rfl, -, -, hx⟩ := split_of_heard hheard
    obtain rfl := eq_world_of_heard? hx
    have horigin := origin_of_heard? setup world guarded ho hx
    have hrequest : (id, call) ∈ ((Channel.start setup world guarded).origins before).filterMap
        Origin.request? := List.mem_filterMap.mpr ⟨_, List.mem_of_getElem? horigin, rfl⟩
    exact ⟨before, _, call, List.append_assoc _ _ _,
      Frame.mem_requests.mp ((requests_sublist _ before).subset hrequest), hresult⟩

end Runs

/-- What a client shows and changes in a run, when it does no more than it is asked to. -/
structure OnlyAsked (c : Channel ClientState ρ) (actions : List (Action ClientState ρ)) :
    Prop where
  /-- A response answers a request that has been taken, in the state that the client is in at that
  time, and holds a secret only if the request asks for it. -/
  responses : ∀ a id result, .response id result ∈ c.offers actions a → ∃ first later call,
    actions = first ++ later ∧ .request id call ∈ c.taken first ∧
    let client := (c.after first).world
    client.Discloses call result ∧
      (result = (client.answer call).2 ∨ ∃ size, result =
        .error ⟨(FrameError.tooLarge size c.setup.frameLimit).message⟩)
  /-- Nothing is written but pieces of frames that are being sent. -/
  written : ∀ m ∈ c.moments actions, Trace.written m.events ≠ [] → ∃ a choice frame wire,
    m.action = .agent a choice ∧ frame ∈ c.offers actions a ∧
    frame.wire c.setup.frameLimit = .ok wire ∧ Trace.written m.events <:+: wire
  /-- The client is what some of the requests that have been taken leave of it, each answered at
  most once. -/
  served : ∃ requests : List (CallId × Call),
    requests.Subperm ((c.taken actions).filterMap Frame.request?) ∧
    (c.after actions).world = (c.world.answerAll (requests.map Prod.snd)).1
  /-- Without a request to keep or to forget a token nothing has changed. -/
  unchanged : (∀ id call, .request id call ∈ c.taken actions → call.changesStore = false) →
    (c.after actions).world = c.world
  /-- With such requests the one token of the server may have changed, and no other. -/
  confined : ∀ store, c.world.store = some store → ∃ kept,
    ClientState.Reached c.world store (c.after actions).world kept
  /-- What has been taken are frames of what has arrived. -/
  taken : c.taken actions <+:
    (Frame.Partial.start.feed c.setup.frameLimit (c.delivered actions)).1

/-- **A client does no more than it is asked to** as long as it has not accepted its server. -/
theorem shows_only_what_is_asked (setup : ChannelSetup ClientState ρ) (world : ClientState)
    (guarded : Bool) (next : Except ClientError EntryPoint → Routine ClientState ρ Unit)
    (actions : List (Action ClientState ρ)) (hhandler : setup.handler = clientHandler)
    (hnext : ∀ e, Dialogue.All Quiet (fun _ => True) (next (.error e)))
    (hstarted : ConnectsFirst (Channel.start setup world guarded) next actions)
    (hn : ¬ Connected (Channel.start setup world guarded) next actions) :
    OnlyAsked (Channel.start setup world guarded) actions := by
  have hu := undecided_of_not_connected hstarted hn
  obtain ⟨requests, hrequests, hworld⟩ := world_of_answers (answers_after hhandler hnext hu)
  refine ⟨fun a id result h => ?_, fun m hm hw => written_of_offers setup world guarded actions hm hw,
    ⟨requests, hrequests, hworld⟩, fun hsame => ?_, fun store hstore => ?_,
    taken_prefix setup world guarded actions⟩
  · obtain ⟨first, later, call, hactions, hrequest, hresult⟩ :=
      answer_of_response hhandler hnext hu h
    refine ⟨first, later, call, hactions, hrequest, ?_⟩
    rcases hresult with rfl | ⟨e, hwire, rfl⟩
    · exact ⟨ClientState.discloses_answer _ call, .inl rfl⟩
    · obtain ⟨rfl, -⟩ := Frame.tooLarge_of_wire hwire
      exact ⟨.tooLarge _ _, .inr ⟨_, rfl⟩⟩
  · rw [hworld]
    refine ClientState.answerAll_of_not_changes (fun call hcall => ?_) world
    obtain ⟨⟨id, call⟩, hmem, rfl⟩ := List.mem_map.mp hcall
    exact hsame id call (Frame.mem_requests.mp (hrequests.subset hmem))
  · have hstart : ClientState.Reached world store world store :=
      ⟨rfl, hstore, rfl, fun _ _ => rfl, .inl ⟨rfl, .refl _⟩⟩
    rw [hworld]
    exact hstart.answerAll _

/-! ## Requests before the entry point -/

/-- A client with a token for its server. -/
def tokenHolder : ClientState :=
  .connected "http://localhost:8080/"
    (some ⟨"/c.json", TextMap.empty.insert "http://localhost:8080/" "t0k3n"⟩) none
    (fun _ => .ok none) ⟨.empty, [], []⟩

/-- A task goes on until its response is on the stream. -/
def responds (number : ℕ) : List (Action ClientState Unit) :=
  List.replicate 6 (.agent (.task number) .go) ++
    [.agent (.task number) (.write 300), .agent (.task number) .go]

/-- A server that has published nothing asks for the token, and then for another to be kept. -/
def earlyRequests : List (Action ClientState Unit) :=
  .start (connect.bind askForBuild) :: List.replicate 3 (.agent (.task 0) .go) ++
    comesIn (.request 7 (.readStoredToken "http://localhost:8080/")) ++ responds 1 ++
    comesIn (.request 8 (.storeToken "http://localhost:8080/" "other")) ++ responds 2

/-- The client is still waiting for the entry point. -/
theorem waiting_earlyRequests :
    ConnectsFirst (Channel.start clientLink tokenHolder false) askForBuild earlyRequests ∧
    ¬ Connected (Channel.start clientLink tokenHolder false) askForBuild earlyRequests := by
  constructor
  · refine connectsFirst_of_starts fun routine hmem => ?_
    simpa [earlyRequests, comesIn, arrives, responds] using hmem
  · rintro ⟨number, e, ho, hreturned⟩
    have hrequests : ((Channel.start clientLink tokenHolder false).origins earlyRequests).map
        Origin.request? = [none, some (7, .readStoredToken "http://localhost:8080/"),
          some (8, .storeToken "http://localhost:8080/" "other")] := by decide +kernel
    have hnumber := congrArg (fun l => l[number]?) hrequests
    simp only [List.getElem?_map, ho, Option.map_some, Origin.request?] at hnumber
    rcases number with _ | _ | _ | number
    · have hsilent : ((Channel.start clientLink tokenHolder false).heard earlyRequests 0).length = 0 :=
        by decide +kernel
      obtain ⟨heard, hle, hfollow⟩ := hreturned
      rw [List.length_eq_zero_iff.mp hsilent, List.prefix_nil] at hle
      rw [hle] at hfollow
      cases hfollow
    all_goals simp at hnumber

/-- **The version gates no answers.** A client that waits for the entry point responds with its
token, and keeps the token that it is told to keep. -/
theorem token_shown_before_handshake :
    ConnectsFirst (Channel.start clientLink tokenHolder false) askForBuild earlyRequests ∧
    ¬ Connected (Channel.start clientLink tokenHolder false) askForBuild earlyRequests ∧
    tokenHolder.secret? .storedToken = some "t0k3n" ∧
    (let response : Frame := .response 7 (.ok (.text (some "t0k3n")))
     Bytes.bigEndian 4 response.body.length ++ response.body <+:
      (Channel.start clientLink tokenHolder false).written earlyRequests) ∧
    ((Channel.start clientLink tokenHolder false).after earlyRequests).world.secret? .storedToken =
      some "other" :=
  ⟨waiting_earlyRequests.1, waiting_earlyRequests.2, by decide +kernel, by decide +kernel,
    by decide +kernel⟩

/-- What the client shows it has been asked for. -/
theorem shows_only_what_is_asked_earlyRequests :
    ¬ Connected (Channel.start clientLink tokenHolder false) askForBuild earlyRequests ∧
    OnlyAsked (Channel.start clientLink tokenHolder false) earlyRequests :=
  ⟨waiting_earlyRequests.2, shows_only_what_is_asked clientLink tokenHolder false askForBuild
    earlyRequests rfl (fun _ => trivial) waiting_earlyRequests.1 waiting_earlyRequests.2⟩

end Client

end CommandLink
