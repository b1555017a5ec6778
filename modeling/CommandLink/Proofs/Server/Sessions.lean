import CommandLink.Proofs.Server.Attended
import CommandLink.Proofs.Token.Session

/-!
# Sessions

A client keeps the token of a session between the executions that it asks for (`Visit`). A visit
comes to nothing but the run of one body (`visit_cases`), and only the bodies of `login` and
`logout` touch the token (`Registry.KeepsSessions`). So what a login leaves stays until the next
login or logout, and whoever comes without a user name in between is the one who has logged in, for
as long as the account and the token last (`session_lifecycle`).
-/

namespace CommandLink

variable {ω ρ α : Type}

namespace ClientState

theorem token?_eq {s : ClientState} {store : CredentialStore} (hs : s.store = some store) :
    s.token? = store.entries.get? (normalizeUrl s.url) := by
  rw [token?, hs]
  rfl

/-- A client that keeps no token keeps none after it was to forget it. -/
theorem token?_removeToken {s : ClientState} (h : s.token? = none) (url : String) :
    (s.answer (.removeToken url)).1.token? = none := by
  rcases hs : s.store with _ | kept
  · have hsame : (s.answer (.removeToken url)).1 = s := by
      simp only [answer, removeToken, hs]
    rw [hsame, h]
  · obtain ⟨files, heq | ⟨e, heq⟩⟩ := (actsOn hs).removed url
    · rw [heq, token?_eq rfl, TextMap.get?_erase, if_pos rfl]
    · rw [heq, ← h]
      rfl

/-- Whatever is to be written to the store can be written now. -/
def CanWrite (s : ClientState) : Prop :=
  ∀ store entries, s.store = some store → ∃ written, (store.commit s.files entries).2 = .ok written

theorem commits_of_canWrite {s : ClientState} {store : CredentialStore} (hw : s.CanWrite)
    (hs : s.store = some store) (next : TextMap String) (reply : Reply) :
    ∃ files, s.commits store next reply =
        ({ s with files := files, store := some { store with entries := next } }, .ok reply) ∧
      CredentialStore.openAt files store.path = .ok { store with entries := next } := by
  rcases s.commits_cases store next reply with ⟨files, hc, -, -, hopen⟩ | ⟨_, e, -, herror, -⟩
  · exact ⟨files, hc, hopen⟩
  · obtain ⟨written, hok⟩ := hw store next hs
    rw [hok] at herror
    cases herror

/-- A client forgets a token where its store can be written. -/
theorem answer_removeToken {s : ClientState} {store : CredentialStore} (hw : s.CanWrite)
    (hs : s.store = some store) (url : String) :
    let forgotten : CredentialStore :=
      { store with entries := store.entries.erase (normalizeUrl s.url) }
    ∃ files, s.answer (.removeToken url) =
        ({ s with files := files, store := some forgotten },
          .ok (.flag (store.entries.contains (normalizeUrl s.url)))) ∧
      (CredentialStore.openAt s.files store.path = .ok store →
        CredentialStore.openAt files store.path = .ok forgotten) := by
  intro forgotten
  have hanswer : s.answer (.removeToken url) = _ := removeToken_eq hs
  by_cases hc : store.entries.contains (normalizeUrl s.url) = true
  · obtain ⟨files, hcommits, hopen⟩ :=
      commits_of_canWrite hw hs (store.entries.erase (normalizeUrl s.url)) (.flag true)
    exact ⟨files, by rw [hanswer, if_pos hc, hc, hcommits], fun _ => hopen⟩
  · have hsame : forgotten = store := by
      simp only [forgotten, TextMap.erase_of_not_contains hc]
    refine ⟨s.files, ?_, fun hopen => hsame ▸ hopen⟩
    rw [hanswer, if_neg hc, hsame, ← hs, Bool.eq_false_iff.mpr hc]

end ClientState

/-- A call that leaves the client as it is. -/
def Call.Idle : Call → Prop
  | .storeToken _ _ => False
  | .removeToken _ => False
  | _ => True

theorem Call.Idle.answer {call : Call} (h : call.Idle) (s : ClientState) :
    (s.answer call).1 = s := by
  cases call
  case storeToken => exact h.elim
  case removeToken => exact h.elim
  all_goals rfl

theorem ClientState.answerAll_of_idle {s : ClientState} {calls : List Call}
    (h : ∀ call ∈ calls, call.Idle) : (s.answerAll calls).1 = s := by
  induction calls with
  | nil => rfl
  | cons call calls ih =>
    rw [answerAll, (h call List.mem_cons_self).answer]
    exact ih fun other hother => h other (List.mem_cons_of_mem _ hother)

/-- A plain operation that leaves the client as it is. -/
def Op.Discreet : Op ω ρ → Prop
  | .call made => made.Idle
  | op => op.Plain

theorem Op.Discreet.plain {op : Op ω ρ} (h : op.Discreet) : op.Plain := by
  cases op
  case call => trivial
  all_goals exact h

namespace Routine

variable {world : ω} {s : ClientState} {routine : Routine ω ρ α}

/-- What a client is asked for while it attends to a routine is what the routine does. -/
theorem attend_deeds {P : Op ω ρ → Prop} {R : α → Prop} {Q : Deed ρ → Prop}
    (h : Dialogue.All P R routine) (hop : ∀ op deed, P op → op.deed? = some deed → Q deed) :
    ∀ deed ∈ (attend world routine s).deeds, Q deed := by
  obtain ⟨-, halone⟩ := alone_attend world routine s []
  have hdeeds := h.deeds hop world
    (((s.answerAll (calls (attend world routine s).deeds)).2.map received) ++ [])
  rwa [halone] at hdeeds

theorem reports_attend_of_plain (h : routine.Plain) :
    reports (attend world routine s).deeds = [] :=
  reports_of_plain (attend_deeds h fun _ _ hp hd => hp.deed hd)

/-- A routine of discreet operations leaves the client as it is. -/
theorem client_attend_of_discreet {R : α → Prop} (h : Dialogue.All Op.Discreet R routine) :
    (attend world routine s).client = s := by
  have hidle : ∀ deed ∈ (attend world routine s).deeds, ∀ call, deed.call? = some call →
      call.Idle := by
    refine attend_deeds h fun op deed hop hd call hcall => ?_
    cases op
    case call made => cases hd; cases hcall; exact hop
    case log => cases hd; cases hcall
    case change => cases hd
    all_goals exact hop.elim
  rw [(alone_attend world routine s []).1]
  refine ClientState.answerAll_of_idle fun call hcall => ?_
  obtain ⟨deed, hdeed, heq⟩ := List.mem_filterMap.mp hcall
  exact hidle deed hdeed call heq

end Routine

namespace Server

open Routine ClientState

/-! ## The commands of a session -/

/-- Login and logout are the built-in commands, and no other command has to do with the tokens that
clients keep. -/
structure Registry.KeepsSessions (commands : Registry ρ) : Prop where
  login : commands.get? "login" = some Server.login
  logout : commands.get? "logout" = some Server.logout
  others : ∀ name command, commands.get? name = some command → name ≠ "login" → name ≠ "logout" →
    ∀ ctx, Dialogue.All Op.Discreet (fun _ => True) (command.run ctx)

theorem get?_builtins (name : String) : (builtins : Registry ρ).get? name =
    if name = "logout" then some logout else if name = "login" then some login
    else if name = "version" then some version else if name = "who-am-i" then some whoAmI
    else if name = "help" then some help else none := by
  have hregister (r : Registry ρ) (c : Command ρ) : (r.register c).get? name =
      if name = c.name then some c else r.get? name := TextMap.get?_insert r c.name name c
  simp only [builtins, List.foldl_cons, List.foldl_nil, hregister]
  rfl

theorem keepsSessions_builtins : Registry.KeepsSessions (builtins : Registry ρ) where
  login := by rw [get?_builtins]; rfl
  logout := by rw [get?_builtins]; rfl
  others name command hcommand hin hout ctx := by
    rw [get?_builtins, if_neg hout, if_neg hin] at hcommand
    split_ifs at hcommand
    · cases hcommand
      trivial
    · cases hcommand
      trivial
    · cases hcommand
      exact all_help ctx

variable {commands : Registry BodyRun} {profile : Profile} {connection : String}
  {known : Auth.Knowledge} {s : ClientState}

theorem Registry.KeepsSessions.plain (hk : commands.KeepsSessions) : commands.All Op.Plain := by
  intro name command hcommand ctx
  by_cases hin : name = "login"
  · rw [hin, hk.login] at hcommand
    cases hcommand
    exact plain_login ctx
  by_cases hout : name = "logout"
  · rw [hout, hk.logout] at hcommand
    cases hcommand
    exact plain_logout ctx
  exact (hk.others name command hcommand hin hout ctx).mono fun _ => Op.Discreet.plain

/-! ## Login and logout -/

theorem attend_storeToken {url token : String} {after : ClientState}
    (h : s.answer (.storeToken url token) = (after, .ok .done)) :
    attend known (storeToken url token : Routine Auth.Knowledge ρ _) s =
      ⟨[.called (.storeToken url token)], after, some (.ok ())⟩ := by
  rw [storeToken, attend_call, h]
  rfl

theorem attend_removeToken (known : Auth.Knowledge) (s : ClientState) (url : String) :
    ∃ result, attend known (removeToken url : Routine Auth.Knowledge ρ _) s =
        ⟨[.called (.removeToken url)], (s.answer (.removeToken url)).1, some result⟩ ∧
      ∀ existed, (s.answer (.removeToken url)).2 = .ok (.flag existed) → result = .ok existed := by
  rw [removeToken, attend_call]
  rcases (s.answer (.removeToken url)).2 with e | reply
  · exact ⟨_, rfl, fun _ h => by cases h⟩
  · cases reply
    case flag existed => exact ⟨_, rfl, fun _ h => by cases h; rfl⟩
    all_goals exact ⟨_, rfl, fun _ h => by cases h⟩

/-- A login stores the token that is issued, and says so. -/
theorem attend_login {user token : String} {after : ClientState} (known : Auth.Knowledge)
    (ctx : Context)
    (huser : ctx.principal = .user user)
    (hissue : ctx.profile.sessions.issueAt user known.now = .ok token)
    (hstore : s.answer (.storeToken ctx.profile.rootUrl token) = (after, .ok .done)) :
    ∃ deeds, attend known ((login : Command ρ).run ctx) s =
      ⟨deeds, after, some (printed 0 ("Logged in as " ++ user ++ "\n") "")⟩ := by
  simp only [login, huser, Principal.account?, attend_look, hissue]
  have hbound (next) : attend known (storeToken ctx.profile.rootUrl token >>= next :
        Routine Auth.Knowledge ρ (Option Outcome)) s = _ := attend_bind _ _ s
  rw [hbound, attend_storeToken hstore]
  exact ⟨_, rfl⟩

/-- Who has no account does not log in. -/
theorem attend_login_of_none {ctx : Context} (h : ctx.principal.account? = none) :
    (attend known ((login : Command ρ).run ctx) s).client = s := by
  rw [login]
  dsimp only
  rw [h]
  rfl

/-- A logout of somebody makes the client forget the token, if it can. -/
theorem attend_logout (known : Auth.Knowledge) (s : ClientState) (ctx : Context)
    (h : ctx.principal.isAuthenticated = true) :
    ∃ deeds result, attend known ((logout : Command ρ).run ctx) s =
        ⟨deeds, (s.answer (.removeToken ctx.profile.rootUrl)).1, some result⟩ ∧
      ∀ existed, (s.answer (.removeToken ctx.profile.rootUrl)).2 = .ok (.flag existed) →
        ∃ note, result = printed 0 "" note := by
  rw [logout]
  dsimp only
  rw [if_pos h]
  obtain ⟨removed, hremoved, hflag⟩ :=
    attend_removeToken (ρ := ρ) known s ctx.profile.rootUrl
  have hbound (next) : attend known (removeToken ctx.profile.rootUrl >>= next :
        Routine Auth.Knowledge ρ (Option Outcome)) s = _ := attend_bind _ _ s
  rw [hbound, hremoved]
  rcases removed with e | existed
  · exact ⟨_, _, rfl, fun existed hexisted => by cases hflag existed hexisted⟩
  · exact ⟨_, _, rfl, fun _ _ => ⟨_, rfl⟩⟩

/-- A logout of nobody is refused. -/
theorem attend_logout_of_nobody {ctx : Context} (h : ctx.principal.isAuthenticated = false) :
    attend known ((logout : Command ρ).run ctx) s =
      ⟨[], s, some (printed (-1) "" "Must provide credentials\n")⟩ := by
  rw [logout]
  dsimp only
  rw [if_neg (by simp [h])]
  rfl

/-! ## Visits -/

/-- An execution that a client asks for on a connection, and what the server knows then. -/
structure Visit where
  connection : String
  known : Auth.Knowledge
  invocation : Invocation

/-- What comes of a visit. -/
def visit (profile : Profile) (commands : Registry BodyRun) (s : ClientState) (v : Visit) :
    Attended BodyRun (Option Outcome) :=
  attend v.known (execute profile commands.observed v.connection v.invocation) s

/-- What a client holds after some visits. -/
def visits (profile : Profile) (commands : Registry BodyRun) (s : ClientState)
    (vs : List Visit) : ClientState :=
  vs.foldl (fun s v => (visit profile commands s v).client) s

/-- Whom the bodies of commands have run for. -/
def ranFor (r : Attended BodyRun α) : List Principal :=
  (reports r.deeds).map fun run => run.context.principal

/-- What the command of a visit is given. -/
def Visit.context (v : Visit) (profile : Profile) (commands : Registry BodyRun)
    (principal : Principal) : Context :=
  ⟨v.invocation.args.drop 1, principal, profile, commands.infos⟩

variable {v : Visit} {command : Command BodyRun}

/-- With a principal, a visit runs the body of its command for that principal, and comes to what
that comes to. -/
theorem visit_found {principal : Principal} (hk : commands.KeepsSessions)
    (h : commands.get? v.invocation.commandName = some command)
    (hr : resolved profile v.known s v.invocation.credentials = .ok principal) :
    let body := attend v.known (command.run (v.context profile commands principal)) s
    ranFor (visit profile commands s v) = [principal] ∧
      (visit profile commands s v).client = body.client ∧
      (visit profile commands s v).result = body.result := by
  intro body
  have hget := get?_observed commands v.invocation.commandName
  rw [h, Option.map_some] at hget
  obtain ⟨before, after, hvisit, hbefore, hafter⟩ :=
    attend_execute_found v.connection hget hr
  rw [infos_observed, attend_observed] at hvisit
  let run : BodyRun := ⟨v.invocation.commandName, v.context profile commands principal⟩
  have hran : reports (body.since [.reported run]).deeds = [run] := by
    rw [Attended.since, reports_append, reports_attend_of_plain (hk.plain _ command h run.context)]
    rfl
  rw [visit, hvisit]
  refine ⟨?_, rfl, rfl⟩
  rw [ranFor, reports_append, reports_append, hbefore, hafter]
  exact congrArg (List.map fun run : BodyRun => run.context.principal)
    ((List.append_nil _).trans hran)

/-- A visit runs nothing and leaves the client as it is, or runs one body for the principal that it
is resolved to. -/
theorem visit_cases (hk : commands.KeepsSessions) (profile : Profile) (s : ClientState)
    (v : Visit) :
    (ranFor (visit profile commands s v) = [] ∧ (visit profile commands s v).client = s) ∨
    ∃ command principal, commands.get? v.invocation.commandName = some command ∧
      resolved profile v.known s v.invocation.credentials = .ok principal ∧
      ranFor (visit profile commands s v) = [principal] ∧
      (visit profile commands s v).client =
        (attend v.known (command.run (v.context profile commands principal)) s).client ∧
      (visit profile commands s v).result =
        (attend v.known (command.run (v.context profile commands principal)) s).result := by
  have hget := get?_observed commands v.invocation.commandName
  rcases hcommand : commands.get? v.invocation.commandName with _ | command
  · rw [hcommand, Option.map_none] at hget
    rw [visit, attend_execute_unknown hget]
    exact .inl ⟨rfl, rfl⟩
  rw [hcommand, Option.map_some] at hget
  rcases hr : resolved profile v.known s v.invocation.credentials with e | principal
  · obtain ⟨deeds, hvisit, hnone⟩ := attend_execute_refused v.connection hget hr
    rw [visit, hvisit]
    exact .inl ⟨by rw [ranFor, hnone]; rfl, rfl⟩
  · obtain ⟨hran, hclient, hresult⟩ := visit_found hk hcommand hr
    exact .inr ⟨command, principal, rfl, rfl, hran, hclient, hresult⟩

/-- A visit on behalf of somebody runs its command for them. -/
theorem visit_of_ranFor (hk : commands.KeepsSessions) {command : Command BodyRun}
    {principal : Principal} (hcommand : commands.get? v.invocation.commandName = some command)
    (hran : ranFor (visit profile commands s v) = [principal]) :
    (visit profile commands s v).client =
        (attend v.known (command.run (v.context profile commands principal)) s).client ∧
      (visit profile commands s v).result =
        (attend v.known (command.run (v.context profile commands principal)) s).result := by
  rcases visit_cases hk profile s v with
    ⟨hnone, -⟩ | ⟨command', principal', hcommand', -, hran', hclient, hresult⟩
  · rw [hran] at hnone
    cases hnone
  rw [hran, List.singleton_inj] at hran'
  rw [hcommand, Option.some.injEq] at hcommand'
  rw [hran', hcommand']
  exact ⟨hclient, hresult⟩

/-- A visit that neither logs in nor out. -/
def Visit.Apart (v : Visit) : Prop :=
  v.invocation.commandName ≠ "login" ∧ v.invocation.commandName ≠ "logout"

theorem client_visit_of_apart (hk : commands.KeepsSessions) (hv : v.Apart) :
    (visit profile commands s v).client = s := by
  rcases visit_cases hk profile s v with ⟨-, hclient⟩ | ⟨command, _, hcommand, -, -, hclient, -⟩
  · exact hclient
  · rw [hclient]
    exact client_attend_of_discreet (hk.others _ command hcommand hv.1 hv.2 _)

/-- What a client holds stays as it is between the visits that log in or out. -/
theorem visits_of_apart (hk : commands.KeepsSessions) {vs : List Visit} (h : ∀ v ∈ vs, v.Apart) :
    visits profile commands s vs = s := by
  induction vs with
  | nil => rfl
  | cons v vs ih =>
    rw [visits, List.foldl_cons, client_visit_of_apart hk (h v List.mem_cons_self)]
    exact ih fun w hw => h w (List.mem_cons_of_mem _ hw)

/-! ## Without a user name -/

/-- A visit of a known command without a user name. -/
structure Visit.Nameless (v : Visit) (commands : Registry BodyRun) : Prop where
  known : (commands.get? v.invocation.commandName).isSome = true
  username : v.invocation.credentials.username = none

/-- Whom a visit without a user name runs for: whoever the token names that the client keeps, or
else whom its build-scope token decides. -/
theorem ranFor_of_nameless (hk : commands.KeepsSessions) (profile : Profile) (s : ClientState)
    (hv : v.Nameless commands) :
    (∃ name, Auth.NamesUser profile.sessions v.known (.ok s.token?) name ∧
      ranFor (visit profile commands s v) = [.user name]) ∨
    ((∀ name, ¬ Auth.NamesUser profile.sessions v.known (.ok s.token?) name) ∧
      ((Auth.GrantsSystem profile.tokens v.known (.ok s.buildToken) ∧
          ranFor (visit profile commands s v) = [.system]) ∨
        (¬ Auth.GrantsSystem profile.tokens v.known (.ok s.buildToken) ∧
          ranFor (visit profile commands s v) = [.anonymous]))) := by
  obtain ⟨command, hcommand⟩ := Option.isSome_iff_exists.mp hv.known
  rcases resolved_of_nameless profile v.known s hv.username with
    ⟨name, hnames, hr⟩ | ⟨hnames, ⟨hgrants, hr⟩ | ⟨hgrants, hr⟩⟩
  · exact .inl ⟨name, hnames, (visit_found hk hcommand hr).1⟩
  · exact .inr ⟨hnames, .inl ⟨hgrants, (visit_found hk hcommand hr).1⟩⟩
  · exact .inr ⟨hnames, .inr ⟨hgrants, (visit_found hk hcommand hr).1⟩⟩

/-- A token that was issued names the user it was issued to, while the account and the token
last. -/
theorem namesUser_issued_iff {sessions : SessionTokens} {name token : String} {issued : Instant}
    (known : Auth.Knowledge)
    (hi : sessions.issueAt name issued = .ok token) (hclock : issued.OnClock) (other : String) :
    Auth.NamesUser sessions known (.ok (some token)) other ↔
      other = name ∧ known.realm.hasUser name = true ∧
        ¬ (issued.add sessions.lifetime).floorMillis ≤ known.now := by
  have hverify := SessionTokens.verifyAt_of_issueAt known.now hi hclock
  constructor
  · rintro ⟨token', claims, ht, hv, rfl, hu⟩
    obtain rfl : token = token' := by simpa using ht
    rw [hverify] at hv
    split_ifs at hv with hexpired
    cases hv
    exact ⟨rfl, hu, hexpired⟩
  · rintro ⟨rfl, hu, hlasts⟩
    rw [if_neg hlasts] at hverify
    exact ⟨token, _, rfl, hverify, rfl, hu⟩

theorem not_namesUser_none {sessions : SessionTokens} (name : String) :
    ¬ Auth.NamesUser sessions known (.ok none) name := by
  rintro ⟨token, claims, ht, -⟩
  cases ht

/-! ## Logging in -/

/-- A visit that logs in: to an account whose name has no colon, with its password, at a time after
which there is a date for the end of the session. -/
structure Visit.LogsIn (v : Visit) (profile : Profile) (s : ClientState) (name : String) : Prop where
  command : v.invocation.commandName = "login"
  username : v.invocation.credentials.username = some name
  password : ∃ given,
    Auth.suppliedPassword interviewed s v.invocation.credentials name = some given ∧
      v.known.realm.authenticates name given = true
  plain : ':' ∉ name.toList
  clock : v.known.now.OnClock
  dated : (v.known.now.add profile.sessions.lifetime).onCalendar = true

/-- What a login leaves. -/
theorem visit_login {store : CredentialStore} {name : String} (hk : commands.KeepsSessions)
    (hs : s.store = some store) (hw : s.CanWrite) (hv : v.LogsIn profile s name) :
    ∃ token files, profile.sessions.issueAt name v.known.now = .ok token ∧
      (visit profile commands s v).client = { s with
        files := files
        store := some { store with
          entries := store.entries.insert (normalizeUrl s.url) token } } ∧
      CredentialStore.openAt files store.path =
        .ok { store with entries := store.entries.insert (normalizeUrl s.url) token } ∧
      (visit profile commands s v).result =
        some (some ⟨0, "Logged in as " ++ name ++ "\n", ""⟩) := by
  obtain ⟨given, hgiven, hopens⟩ := hv.password
  obtain ⟨token, hissue⟩ := SessionTokens.exists_issueAt hv.plain
    (SessionTokens.le_longestLifetime hv.clock hv.dated) hv.dated
  obtain ⟨files, hcommits, hopen⟩ := commits_of_canWrite hw hs
    (store.entries.insert (normalizeUrl s.url) token) .done
  have hanswer : s.answer (.storeToken profile.rootUrl token) = _ :=
    (storeToken_eq hs token).trans hcommits
  have hcommand : commands.get? v.invocation.commandName = some login := by
    rw [hv.command, hk.login]
  obtain ⟨-, hclient, hresult⟩ :=
    visit_found hk hcommand (resolved_of_username hv.username hgiven hopens)
  obtain ⟨deeds, hlogin⟩ := attend_login (ρ := BodyRun) v.known
    (v.context profile commands (.user name)) rfl hissue hanswer
  rw [hlogin] at hclient hresult
  exact ⟨token, files, hissue, hclient, hopen, hresult⟩

/-! ## Logging out -/

/-- What a logout of somebody leaves. -/
theorem visit_logout {store : CredentialStore} {principal : Principal} (hk : commands.KeepsSessions)
    (hs : s.store = some store) (hw : s.CanWrite) (hv : v.invocation.commandName = "logout")
    (hran : ranFor (visit profile commands s v) = [principal])
    (ha : principal.isAuthenticated = true) :
    let forgotten : CredentialStore :=
      { store with entries := store.entries.erase (normalizeUrl s.url) }
    ∃ files note, (visit profile commands s v).client =
        { s with files := files, store := some forgotten } ∧
      (CredentialStore.openAt s.files store.path = .ok store →
        CredentialStore.openAt files store.path = .ok forgotten) ∧
      (visit profile commands s v).result = some (some ⟨0, "", note⟩) := by
  intro forgotten
  obtain ⟨hclient, hresult⟩ := visit_of_ranFor hk (hv ▸ hk.logout) hran
  obtain ⟨files, hanswer, hopen⟩ := answer_removeToken hw hs profile.rootUrl
  obtain ⟨deeds, result, hlogout, hprinted⟩ := attend_logout (ρ := BodyRun) v.known s
    (v.context profile commands principal) ha
  obtain ⟨note, rfl⟩ := hprinted _ (congrArg Prod.snd hanswer)
  rw [hlogout] at hclient hresult
  exact ⟨files, note, hclient.trans (congrArg Prod.fst hanswer), hopen, hresult⟩

/-- A logout of nobody is refused, and leaves the client as it is. -/
theorem visit_logout_of_nobody (hk : commands.KeepsSessions)
    (hv : v.invocation.commandName = "logout")
    (hran : ranFor (visit profile commands s v) = [.anonymous]) :
    (visit profile commands s v).client = s ∧ (visit profile commands s v).result =
      some (some ⟨-1, "", "Must provide credentials\n"⟩) := by
  obtain ⟨hclient, hresult⟩ := visit_of_ranFor hk (hv ▸ hk.logout) hran
  rw [attend_logout_of_nobody rfl] at hclient hresult
  exact ⟨hclient, hresult⟩

/-- A visit that does not log in, unless it is without a user name. -/
def Visit.KeepsOut (v : Visit) : Prop :=
  v.invocation.commandName = "login" → v.invocation.credentials.username = none

/-- Without a token nobody has an account who does not say so. -/
theorem resolved_of_forgotten (profile : Profile) (known : Auth.Knowledge) (h : s.token? = none)
    {credentials : Credentials} (hname : credentials.username = none) :
    ∃ principal, resolved profile known s credentials = .ok principal ∧
      principal.account? = none := by
  rcases resolved_of_nameless profile known s hname with
    ⟨name, hnames, -⟩ | ⟨-, ⟨-, hr⟩ | ⟨-, hr⟩⟩
  · rw [h] at hnames
    exact absurd hnames (not_namesUser_none name)
  · exact ⟨_, hr, rfl⟩
  · exact ⟨_, hr, rfl⟩

/-- A client that keeps no token gets none from visits that do not log in. -/
theorem token?_visit (hk : commands.KeepsSessions) (hv : v.KeepsOut) (h : s.token? = none) :
    (visit profile commands s v).client.token? = none := by
  rcases visit_cases hk profile s v with
    ⟨-, hclient⟩ | ⟨command, principal, hcommand, hr, -, hclient, -⟩
  · rw [hclient, h]
  rw [hclient]
  by_cases hin : v.invocation.commandName = "login"
  · rw [hin, hk.login, Option.some.injEq] at hcommand
    obtain ⟨_, hr', hnobody⟩ := resolved_of_forgotten profile v.known h (hv hin)
    obtain rfl := Except.ok.inj (hr.symm.trans hr')
    rw [← hcommand, attend_login_of_none hnobody, h]
  by_cases hout : v.invocation.commandName = "logout"
  · rw [hout, hk.logout, Option.some.injEq] at hcommand
    rw [← hcommand]
    rcases ha : principal.isAuthenticated with _ | _
    · rw [attend_logout_of_nobody ha, h]
    · obtain ⟨deeds, result, hlogout, -⟩ := attend_logout (ρ := BodyRun) v.known s
        (v.context profile commands principal) ha
      rw [hlogout]
      exact token?_removeToken h _
  · rw [client_attend_of_discreet (hk.others _ command hcommand hin hout _), h]

theorem token?_visits (hk : commands.KeepsSessions) {vs : List Visit} (hvs : ∀ v ∈ vs, v.KeepsOut)
    (h : s.token? = none) : (visits profile commands s vs).token? = none := by
  induction vs generalizing s with
  | nil => exact h
  | cons v vs ih =>
    rw [visits, List.foldl_cons]
    exact ih (fun w hw => hvs w (List.mem_cons_of_mem _ hw))
      (token?_visit hk (hvs v List.mem_cons_self) h)

/-- Without a token nobody is a user who does not say so. -/
theorem not_user_of_token?_none (hk : commands.KeepsSessions) (h : s.token? = none)
    (hv : v.invocation.credentials.username = none) (name : String) :
    .user name ∉ ranFor (visit profile commands s v) := by
  rcases visit_cases hk profile s v with ⟨hran, -⟩ | ⟨_, principal, -, hr, hran, -⟩
  · rw [hran]
    exact List.not_mem_nil
  · obtain ⟨_, hr', hnobody⟩ := resolved_of_forgotten profile v.known h hv
    obtain rfl := Except.ok.inj (hr.symm.trans hr')
    rw [hran, List.mem_singleton]
    rintro rfl
    cases hnobody

/-! ## From login to logout -/

/-- **The life of a session.** A client is connected to an address, which need not be the one under
which the server knows itself, and holds any store that can be written. A login with the password
of an account says so, and changes the one entry for the address of the client, in memory and in the
file. From then on, until somebody logs in or out, whoever visits without a user name is the one who
has logged in, exactly while the account exists and the lifetime, without what goes beyond whole
milliseconds, has not passed; otherwise the build-scope token of the client alone decides between
the system and nobody. A logout of anybody removes that one entry; after it nobody is a user who
does not say so, until somebody logs in with a user name. A logout of nobody is refused and changes
nothing. -/
theorem session_lifecycle {commands : Registry BodyRun} (hk : commands.KeepsSessions)
    (profile : Profile) (url : String) (store : CredentialStore) (buildToken : Option String)
    (prompt : String → Except String (Option String)) (files : Files) :
    let own := normalizeUrl url
    let client := connected url (some store) buildToken prompt files
    (∀ (v : Visit) (name : String), v.LogsIn profile client name → client.CanWrite →
      let login := visit profile commands client v
      let expiry := (v.known.now.add profile.sessions.lifetime).floorMillis
      login.result = some (some ⟨0, "Logged in as " ++ name ++ "\n", ""⟩) ∧
      (∃ token files',
        let stored : CredentialStore := { store with entries := store.entries.insert own token }
        profile.sessions.issueAt name v.known.now = .ok token ∧
          login.client = connected url (some stored) buildToken prompt files' ∧
          CredentialStore.openAt files' store.path = .ok stored) ∧
      ∀ between : List Visit, (∀ b ∈ between, b.Apart) → ∀ w : Visit, w.Nameless commands →
        let later := visit profile commands (visits profile commands login.client between) w
        (ranFor later = [.user name] ↔
          w.known.realm.hasUser name = true ∧ ¬ expiry ≤ w.known.now) ∧
        (ranFor later ≠ [.user name] →
          (Auth.GrantsSystem profile.tokens w.known (.ok buildToken) ∧
              ranFor later = [.system]) ∨
            (¬ Auth.GrantsSystem profile.tokens w.known (.ok buildToken) ∧
              ranFor later = [.anonymous]))) ∧
    (∀ v : Visit, v.invocation.commandName = "logout" →
      let logout := visit profile commands client v
      (∀ principal, ranFor logout = [principal] → principal.isAuthenticated = true →
        client.CanWrite →
        let forgotten : CredentialStore := { store with entries := store.entries.erase own }
        (∃ note, logout.result = some (some ⟨0, "", note⟩)) ∧
        (∃ files', logout.client = connected url (some forgotten) buildToken prompt files' ∧
          (CredentialStore.openAt files store.path = .ok store →
            CredentialStore.openAt files' store.path = .ok forgotten)) ∧
        ∀ after : List Visit, (∀ a ∈ after, a.KeepsOut) →
          ∀ w : Visit, w.invocation.credentials.username = none → ∀ name,
            .user name ∉
              ranFor (visit profile commands (visits profile commands logout.client after) w)) ∧
      (ranFor logout = [.anonymous] →
        logout.result = some (some ⟨-1, "", "Must provide credentials\n"⟩) ∧
          logout.client = client)) := by
  intro own client
  have hs : client.store = some store := rfl
  have hown : normalizeUrl client.url = own := normalizeUrl_normalizeUrl url
  refine ⟨fun v name hv hw => ?_, fun v hv => ⟨fun principal hran ha hw => ?_, fun hran => ?_⟩⟩
  · obtain ⟨token, files', hissue, hclient, hopen, hresult⟩ := visit_login hk hs hw hv
    rw [hown] at hclient hopen
    refine ⟨hresult, ⟨token, files', hissue, hclient, hopen⟩, fun between hbetween w hw => ?_⟩
    rw [visits_of_apart hk hbetween]
    have hkept : (visit profile commands client v).client.token? = some token := by
      rw [hclient, token?_eq rfl]
      show (store.entries.insert own token).get? (normalizeUrl client.url) = some token
      rw [hown, TextMap.get?_insert, if_pos rfl]
    have hbuild : (visit profile commands client v).client.buildToken = buildToken :=
      (congrArg ClientState.buildToken hclient).trans rfl
    have hnames := namesUser_issued_iff w.known hissue hv.clock
    have hcases := ranFor_of_nameless hk profile (visit profile commands client v).client hw
    rw [hkept, hbuild] at hcases
    rcases hcases with ⟨other, hother, hran⟩ | ⟨hnobody, hrest⟩
    · obtain ⟨rfl, hlasts⟩ := (hnames other).mp hother
      exact ⟨iff_of_true hran hlasts, fun hne => absurd hran hne⟩
    · refine ⟨iff_of_false (fun hran => ?_) fun hlasts => ?_, fun _ => hrest⟩
      · rcases hrest with ⟨-, hran'⟩ | ⟨-, hran'⟩
        · cases hran.symm.trans hran'
        · cases hran.symm.trans hran'
      · exact hnobody name ((hnames name).mpr ⟨rfl, hlasts⟩)
  · obtain ⟨files', note, hclient, hopen, hresult⟩ := visit_logout hk hs hw hv hran ha
    rw [hown] at hclient hopen
    refine ⟨⟨note, hresult⟩, ⟨files', hclient, hopen⟩, fun after hafter w hw name => ?_⟩
    refine not_user_of_token?_none hk (token?_visits hk hafter ?_) hw name
    rw [hclient, token?_eq rfl]
    show (store.entries.erase own).get? (normalizeUrl client.url) = none
    rw [hown, TextMap.get?_erase, if_pos rfl]
  · obtain ⟨hclient, hresult⟩ := visit_logout_of_nobody hk hv hran
    exact ⟨hresult, hclient⟩

/-- The password that an account was given opens it. -/
theorem authenticates_addUser (realm : Realm) (salt : Bytes) (name password : String) :
    (realm.addUser salt name password).authenticates name password = true := by
  rw [Realm.addUser, Realm.authenticates, Table.get?_insert, if_pos rfl]
  exact (Bytes.agree_iff _ _).mpr rfl

/-- A client whose disk nothing is wrong with, connected to a server by another address than the
server has for itself. -/
def sessionClient : ClientState :=
  connected "http://127.0.0.1:8080/" (some ⟨"c.json", .empty⟩) none (fun _ => .ok none)
    ⟨.empty, [], []⟩

/-- A server with sessions of a minute. -/
def minuteProfile : Profile :=
  ⟨"https://relay.example", "1.0", ⟨⟨⟨"key"⟩⟩, Duration.seconds 60⟩, ⟨⟨⟨"key"⟩⟩⟩⟩

/-- A visit at some second, while ada has an account. -/
def visitAt (second : ℤ) (command : String) (credentials : Credentials) : Visit :=
  ⟨"c-1", ⟨Realm.addUser Table.empty [] "ada" "secret", Table.empty, .ofSeconds second⟩,
    ⟨[command], credentials⟩⟩

theorem canWrite_sessionClient : sessionClient.CanWrite := by
  intro store entries hs
  cases hs
  exact ⟨_, rfl⟩

/-- Within a minute of her login ada is who visits, and then nobody is. She can log out, and nobody
cannot. -/
theorem session_lifecycle_minute :
    let login := visitAt 0 "login" ⟨some "ada", some "secret", none⟩
    let after := (visit minuteProfile builtins sessionClient login).client
    ranFor (visit minuteProfile builtins after (visitAt 59 "who-am-i" .none)) = [.user "ada"] ∧
    ranFor (visit minuteProfile builtins after (visitAt 60 "who-am-i" .none)) = [.anonymous] ∧
    (∃ note, (visit minuteProfile builtins sessionClient
      (visitAt 0 "logout" ⟨some "ada", some "secret", none⟩)).result = some (some ⟨0, "", note⟩)) ∧
    (visit minuteProfile builtins sessionClient (visitAt 0 "logout" .none)).result =
      some (some ⟨-1, "", "Must provide credentials\n"⟩) := by
  intro login after
  have hlogin : login.LogsIn minuteProfile sessionClient "ada" :=
    { command := rfl
      username := rfl
      password := ⟨"secret", rfl, authenticates_addUser _ _ _ _⟩
      plain := by decide
      clock := ⟨by decide, by decide⟩
      dated := by decide }
  have hnameless (second : ℤ) : (visitAt second "who-am-i" .none).Nameless builtins :=
    ⟨by rw [get?_builtins]; rfl, rfl⟩
  have hbuild (known : Auth.Knowledge) :
      ¬ Auth.GrantsSystem minuteProfile.tokens known (.ok none) := by
    rintro ⟨_, _, _, htoken, -⟩
    cases htoken
  have hada (second : ℤ) : (visitAt second "who-am-i" .none).known.realm.hasUser "ada" = true := by
    rw [visitAt, Realm.hasUser, Table.contains, Realm.addUser, Table.get?_insert, if_pos rfl]
    rfl
  obtain ⟨hstart, hend⟩ := session_lifecycle keepsSessions_builtins minuteProfile
    "http://127.0.0.1:8080/" ⟨"c.json", .empty⟩ none (fun _ => .ok none) ⟨.empty, [], []⟩
  obtain ⟨-, -, hlater⟩ := hstart login "ada" hlogin canWrite_sessionClient
  obtain ⟨hwithin, -⟩ := hlater [] (by simp) _ (hnameless 59)
  obtain ⟨hbeyond, hnobody⟩ := hlater [] (by simp) _ (hnameless 60)
  have hout : (builtins : Registry BodyRun).get? "logout" = some logout := by
    rw [get?_builtins]
    rfl
  let logoutVisit := visitAt 0 "logout" ⟨some "ada", some "secret", none⟩
  have hresolved : resolved minuteProfile logoutVisit.known sessionClient
      logoutVisit.invocation.credentials = .ok (.user "ada") :=
    resolved_of_username rfl rfl (authenticates_addUser _ _ _ _)
  have hasAda := (visit_found (v := logoutVisit) keepsSessions_builtins hout hresolved).1
  have hasNobody : ranFor (visit minuteProfile builtins sessionClient (visitAt 0 "logout" .none)) =
      [.anonymous] := by
    rcases ranFor_of_nameless keepsSessions_builtins minuteProfile sessionClient
        (v := visitAt 0 "logout" .none) ⟨by rw [get?_builtins]; rfl, rfl⟩ with
      ⟨name, hnames, -⟩ | ⟨-, ⟨hgrants, -⟩ | ⟨-, hran⟩⟩
    · exact absurd hnames (not_namesUser_none name)
    · exact absurd hgrants (hbuild _)
    · exact hran
  refine ⟨hwithin.mpr ⟨hada 59, by decide⟩, ?_,
    ((hend _ rfl).1 _ hasAda rfl canWrite_sessionClient).1, ((hend _ rfl).2 hasNobody).1⟩
  have hexpired : ¬ ranFor (visit minuteProfile builtins after (visitAt 60 "who-am-i" .none)) =
      [.user "ada"] := fun hran => (hbeyond.mp hran).2 (by decide)
  rcases hnobody hexpired with ⟨hgrants, -⟩ | ⟨-, hran⟩
  · exact absurd hgrants (hbuild _)
  · exact hran

end Server

end CommandLink
