import CommandLink.Proofs.Auth.Hearing
import CommandLink.Proofs.Token.BuildScope

/-!
# The standard ways of authentication

What the standard chain comes to, said without the chain (`resolve_standard`). A request with a user
name is decided by the password alone: it asks for the password at most once and for no token, and
ends with that user or with an error. A request without a user name never fails: it is whoever the
stored token names, else the system if the build-scope token grants it, else anonymous; each token
is asked for once, the second only if the first names nobody.
-/

namespace CommandLink.Auth

variable {σ : Type}

/-- Looking up a token fails only in ways that do not end the search for a principal. -/
structure Client.LookupsNotFatal (client : Client σ) : Prop where
  stored : ∀ url state e, (client.storedToken url state).1 = .error e → e.isFatal = false
  build : ∀ state e, (client.buildToken state).1 = .error e → e.isFatal = false

/-! ## What the client supplies -/

/-- What a client is asked for the password of a user: a password file if one is named, nothing if a
password is given, else a password to be typed in. -/
def passwordQuestions (credentials : Credentials) (user : String) : List Asked :=
  match credentials.passwordFile, credentials.password with
  | some path, _ => [.passwordFile path]
  | none, some _ => []
  | none, none => [.prompt ("Password for " ++ user ++ ": ")]

/-- The password that comes of that: the content of the file without the blanks at its ends, or the
password that is given, or what was typed in. -/
def suppliedPassword (client : Client σ) (state : σ) (credentials : Credentials) (user : String) :
    Option String :=
  match credentials.passwordFile, credentials.password with
  | some path, _ => (client.passwordFile path state).1.toOption.map Text.trim
  | none, some given => some given
  | none, none => (client.prompt ("Password for " ++ user ++ ": ") state).1.toOption.join

/-- A stored token names a user: it is accepted now, and the user has an account. -/
def NamesUser (sessions : SessionTokens) (known : Knowledge)
    (stored : Except AuthError (Option String)) (name : String) : Prop :=
  ∃ token claims, stored = .ok (some token) ∧ sessions.verifyAt token known.now = .ok claims ∧
    claims.principal = name ∧ known.realm.hasUser name = true

/-- A build-scope token grants the system: it is signed, it has the expiry that stands for none, and
its run is going on. -/
def GrantsSystem (tokens : BuildScopeTokens) (known : Knowledge)
    (build : Except AuthError (Option String)) : Prop :=
  ∃ token run field, build = .ok (some token) ∧ tokens.codec.decode token 2 = .ok [run, field] ∧
    parseExpiry field = .ok unboundedExpiry ∧ known.runs.isExecuting run = true

theorem heardPassword_asked (client : Client σ) (h : Hearing σ) (credentials : Credentials)
    (user : String) : (heardPassword client h credentials user).2.asked =
      h.asked ++ passwordQuestions credentials user := by
  unfold heardPassword passwordQuestions
  rcases credentials.passwordFile with _ | path
  · rcases credentials.password with _ | given
    · simp
    · simp
  · simp

/-- There is a password, or there is none and the reason may end the search. -/
theorem heardPassword_cases (client : Client σ) (h : Hearing σ) (credentials : Credentials)
    (user : String) :
    (∃ given, (heardPassword client h credentials user).1 = .ok (some given) ∧
      suppliedPassword client h.state credentials user = some given) ∨
    (suppliedPassword client h.state credentials user = none ∧
      ((heardPassword client h credentials user).1 = .ok none ∨
        ∃ reason, (heardPassword client h credentials user).1 = .error (.authentication reason))) := by
  unfold heardPassword suppliedPassword
  rcases credentials.passwordFile with _ | path
  · rcases credentials.password with _ | given
    · simp only
      rcases (client.prompt ("Password for " ++ user ++ ": ") h.state).1 with e | _ | typed
      · exact .inr ⟨rfl, .inr ⟨_, rfl⟩⟩
      · exact .inr ⟨rfl, .inl rfl⟩
      · exact .inl ⟨typed, rfl, rfl⟩
    · exact .inl ⟨given, rfl, rfl⟩
  · simp only
    rcases (client.passwordFile path h.state).1 with e | contents
    · exact .inr ⟨rfl, .inr ⟨_, rfl⟩⟩
    · exact .inl ⟨_, rfl, rfl⟩

/-! ## The four rules -/

section Rules

variable (client : Client σ) (known : Knowledge) (h : Hearing σ) (sessions : SessionTokens)
  (tokens : BuildScopeTokens) {request : Request}

/-- With a user name the first way of authentication decides. -/
theorem hear_standard_some {user : String} (hu : request.credentials.username = some user) :
    let heard := hear client known (resolve (standard sessions tokens) request) h
    heard.2.asked = h.asked ++ passwordQuestions request.credentials user ∧
      ((∃ given, suppliedPassword client h.state request.credentials user = some given ∧
          known.realm.authenticates user given = true ∧ heard.1 = .ok (.user user)) ∨
        ((∀ given, suppliedPassword client h.state request.credentials user = some given →
            known.realm.authenticates user given = false) ∧
          (heard.1 = .error .invalidCredentials ∨
            ∃ reason, heard.1 = .error (.authentication reason)))) := by
  have ha := heardPassword_asked client h request.credentials user
  simp only [standard, hear_resolve_cons, hear_explicit client known h hu]
  rcases heardPassword_cases client h request.credentials user with
    ⟨given, hg, hs⟩ | ⟨hs, hn | ⟨reason, he⟩⟩
  · by_cases hk : known.realm.authenticates user given = true
    · simp only [hg, if_pos hk]
      exact ⟨ha, .inl ⟨given, hs, hk, trivial⟩⟩
    · simp only [hg, if_neg hk, AuthError.isFatal, if_true]
      refine ⟨ha, .inr ⟨fun given' hs' => ?_, .inl trivial⟩⟩
      rw [hs, Option.some.injEq] at hs'
      simpa [← hs'] using hk
  · simp only [hn, AuthError.isFatal, if_true]
    exact ⟨ha, .inr ⟨by simp [hs], .inr ⟨_, rfl⟩⟩⟩
  · simp only [he, AuthError.isFatal, if_true]
    exact ⟨ha, .inr ⟨by simp [hs], .inr ⟨_, rfl⟩⟩⟩

/-- A way of authentication that finds somebody ends the search. -/
theorem hear_resolve_found {strategy : Strategy} {principal : Principal}
    (strategies : List Strategy)
    (hf : (hear client known (strategy.attempt request) h).1 = .ok (some principal)) :
    hear client known (resolve (strategy :: strategies) request) h =
      (.ok principal, (hear client known (strategy.attempt request) h).2) := by
  rw [hear_resolve_cons]
  generalize hear client known (strategy.attempt request) h = attempted at hf ⊢
  obtain ⟨result, after⟩ := attempted
  obtain rfl : result = .ok (some principal) := hf
  rfl

/-- The entries for a token that a way of authentication looks at: one if it is rejected. -/
def rejections (strategy : String) (rejected? : Option TokenError) : List SecurityRecord :=
  rejected?.toList.map fun e => ⟨.tokenRejected, e.message, [("strategy", strategy)]⟩

/-- The token error that something fails with. -/
def tokenError? {α : Type} : Except AuthError α → Option TokenError
  | .error (.token e) => some e
  | _ => none

/-- A way of authentication that finds nobody, or fails mildly, leaves nothing behind but an entry
for a token error. -/
theorem hear_resolve_passed {strategy : Strategy} (strategies : List Strategy)
    (hm : ∀ e, (hear client known (strategy.attempt request) h).1 = .error e → e.isFatal = false)
    (hn : ∀ principal, (hear client known (strategy.attempt request) h).1 ≠ .ok (some principal)) :
    ∃ after : Hearing σ,
      after.state = (hear client known (strategy.attempt request) h).2.state ∧
      after.asked = (hear client known (strategy.attempt request) h).2.asked ∧
      after.log = (hear client known (strategy.attempt request) h).2.log ++
        rejections strategy.name
          (tokenError? (hear client known (strategy.attempt request) h).1) ∧
      hear client known (resolve (strategy :: strategies) request) h =
        hear client known (resolve strategies request) after := by
  rw [hear_resolve_cons]
  generalize hear client known (strategy.attempt request) h = attempted at hm hn ⊢
  obtain ⟨e | _ | principal, after⟩ := attempted
  · have he : e.isFatal = false := hm e rfl
    cases e with
    | authentication | invalidCredentials => exact absurd he (by simp [AuthError.isFatal])
    | token rejected =>
      exact ⟨_, Hearing.note_state _ _, Hearing.note_asked _ _, Hearing.note_log _ _, rfl⟩
    | channel => exact ⟨after, rfl, rfl, (List.append_nil _).symm, rfl⟩
  · exact ⟨after, rfl, rfl, (List.append_nil _).symm, rfl⟩
  · exact absurd rfl (hn principal)

/-- The stored token names a user, or it leaves the request to the next way of authentication. -/
theorem hear_storedToken_cases (request : Request)
    (hl : ∀ e, (client.storedToken request.rootUrl h.state).1 = .error e → e.isFatal = false) :
    (∃ name, NamesUser sessions known (client.storedToken request.rootUrl h.state).1 name ∧
      (hear client known ((storedToken sessions).attempt request) h).1 =
        .ok (some (.user name))) ∨
    ((∀ name, ¬ NamesUser sessions known (client.storedToken request.rootUrl h.state).1 name) ∧
      (∀ e, (hear client known ((storedToken sessions).attempt request) h).1 = .error e →
        e.isFatal = false) ∧
      ∀ principal, (hear client known ((storedToken sessions).attempt request) h).1 ≠
        .ok (some principal)) := by
  rw [hear_storedToken]
  generalize client.storedToken request.rootUrl h.state = reply at hl ⊢
  obtain ⟨e | _ | token, state⟩ := reply
  · exact .inr ⟨by simp [NamesUser], by simpa using hl, by simp⟩
  · exact .inr ⟨by simp [NamesUser], by simp, by simp⟩
  · rcases hv : sessions.verifyAt token known.now with e | claims
    · exact .inr ⟨by simp [NamesUser, hv], by simp [hv, AuthError.isFatal], by simp [hv]⟩
    · by_cases hk : known.realm.hasUser claims.principal = true
      · exact .inl ⟨claims.principal, ⟨token, claims, rfl, hv, rfl, hk⟩, by simp [hv, hk]⟩
      · refine .inr ⟨?_, by simp [hv, hk], by simp [hv, hk]⟩
        rintro name ⟨token', claims', ht, hv', rfl, hu⟩
        obtain rfl : token = token' := by simpa using ht
        obtain rfl : claims = claims' := by simpa [hv] using hv'
        exact hk hu

theorem hear_storedToken_after (request : Request) :
    (hear client known ((storedToken sessions).attempt request) h).2.state =
        (client.storedToken request.rootUrl h.state).2 ∧
      (hear client known ((storedToken sessions).attempt request) h).2.asked =
        h.asked ++ [.storedToken request.rootUrl] := by
  rw [hear_storedToken]
  generalize client.storedToken request.rootUrl h.state = reply
  obtain ⟨e | _ | token, state⟩ := reply
  · exact ⟨rfl, rfl⟩
  · exact ⟨rfl, rfl⟩
  · simp only
    rcases sessions.verifyAt token known.now with e | claims
    · exact ⟨rfl, rfl⟩
    · simp only
      split_ifs
      · exact ⟨rfl, rfl⟩
      · exact ⟨rfl, rfl⟩

/-- The build-scope token grants the system, or it leaves the request to the next way of
authentication. -/
theorem hear_buildScope_cases (request : Request)
    (hl : ∀ e, (client.buildToken h.state).1 = .error e → e.isFatal = false) :
    (GrantsSystem tokens known (client.buildToken h.state).1 ∧
      (hear client known ((buildScope tokens).attempt request) h).1 = .ok (some .system)) ∨
    (¬ GrantsSystem tokens known (client.buildToken h.state).1 ∧
      (∀ e, (hear client known ((buildScope tokens).attempt request) h).1 = .error e →
        e.isFatal = false) ∧
      ∀ principal, (hear client known ((buildScope tokens).attempt request) h).1 ≠
        .ok (some principal)) := by
  rw [hear_buildScope]
  generalize client.buildToken h.state = reply at hl ⊢
  obtain ⟨e | _ | token, state⟩ := reply
  · exact .inr ⟨by simp [GrantsSystem], by simpa using hl, by simp⟩
  · exact .inr ⟨by simp [GrantsSystem], by simp, by simp⟩
  · rcases hv : tokens.verifiedRun token with e | run
    · refine .inr ⟨?_, by simp [hv, AuthError.isFatal], by simp [hv]⟩
      rintro ⟨token', run, field, ht, hd, hp, -⟩
      obtain rfl : token = token' := by simpa using ht
      rw [BuildScopeTokens.verifiedRun_eq_ok_iff.mpr ⟨field, hd, hp⟩] at hv
      exact absurd hv (by simp)
    · obtain ⟨field, hd, hp⟩ := BuildScopeTokens.verifiedRun_eq_ok_iff.mp hv
      by_cases hk : known.runs.isExecuting run = true
      · exact .inl ⟨⟨token, run, field, rfl, hd, hp, hk⟩, by simp [hv, hk]⟩
      · refine .inr ⟨?_, by simp [hv, hk], by simp [hv, hk]⟩
        rintro ⟨token', run', field', ht, hd', -, hr⟩
        obtain rfl : token = token' := by simpa using ht
        obtain ⟨rfl, rfl⟩ : run = run' ∧ field = field' := by simpa [hd] using hd'
        exact hk hr

theorem hear_buildScope_asked (request : Request) :
    (hear client known ((buildScope tokens).attempt request) h).2.asked =
      h.asked ++ [.buildToken] := by
  rw [hear_buildScope]
  generalize client.buildToken h.state = reply
  obtain ⟨e | _ | token, state⟩ := reply
  · rfl
  · rfl
  · simp only
    rcases tokens.verifiedRun token with e | run
    · rfl
    · simp only
      split_ifs
      · rfl
      · rfl

/-- Without a user name the stored token decides, then the build-scope token, and nobody else. -/
theorem hear_standard_none (mild : client.LookupsNotFatal)
    (hu : request.credentials.username = none) :
    let heard := hear client known (resolve (standard sessions tokens) request) h
    let stored := client.storedToken request.rootUrl h.state
    let build := client.buildToken stored.2
    (∃ name, NamesUser sessions known stored.1 name ∧ heard.1 = .ok (.user name) ∧
      heard.2.asked = h.asked ++ [.storedToken request.rootUrl]) ∨
    ((∀ name, ¬ NamesUser sessions known stored.1 name) ∧
      heard.2.asked = h.asked ++ [.storedToken request.rootUrl, .buildToken] ∧
      ((GrantsSystem tokens known build.1 ∧ heard.1 = .ok .system) ∨
        (¬ GrantsSystem tokens known build.1 ∧ heard.1 = .ok .anonymous))) := by
  intro heard stored build
  have hheard : heard = hear client known
      (resolve [storedToken sessions, buildScope tokens, anonymous] request) h := by
    simp only [heard, standard, hear_resolve_cons, hear_explicit_none client known h hu]
  obtain ⟨hstate, hasked⟩ := hear_storedToken_after client known h sessions request
  rcases hear_storedToken_cases client known h sessions request (mild.stored _ _) with
    ⟨name, hnames, hr⟩ | ⟨hnames, hm, hn⟩
  · rw [hear_resolve_found client known h _ hr] at hheard
    refine .inl ⟨name, hnames, ?_, ?_⟩
    · rw [hheard]
    · rw [hheard]
      exact hasked
  obtain ⟨after, hs, ha, -, hrest⟩ :=
    hear_resolve_passed client known h [buildScope tokens, anonymous] hm hn
  rw [hrest] at hheard
  rw [hstate] at hs
  rw [hasked] at ha
  have hbuilt := hear_buildScope_asked client known after tokens request
  rw [ha, List.append_assoc, List.singleton_append] at hbuilt
  have hcases := hear_buildScope_cases client known after tokens request (mild.build _)
  rw [hs] at hcases
  rcases hcases with ⟨hgrants, hr⟩ | ⟨hgrants, hm', hn'⟩
  · rw [hear_resolve_found client known after _ hr] at hheard
    refine .inr ⟨hnames, ?_, .inl ⟨hgrants, ?_⟩⟩
    · rw [hheard]
      exact hbuilt
    · rw [hheard]
  · obtain ⟨last, -, hl, -, hrest'⟩ :=
      hear_resolve_passed client known after [anonymous] hm' hn'
    rw [hrest', hear_resolve_cons, hear_anonymous] at hheard
    refine .inr ⟨hnames, ?_, .inr ⟨hgrants, ?_⟩⟩
    · rw [hheard]
      exact hl.trans hbuilt
    · rw [hheard]

end Rules

/-! ## The standard chain -/

theorem length_passwordQuestions_le (credentials : Credentials) (user : String) :
    (passwordQuestions credentials user).length ≤ 1 := by
  unfold passwordQuestions
  rcases credentials.passwordFile with _ | path
  · rcases credentials.password with _ | given
    · exact Nat.le_refl 1
    · exact Nat.zero_le 1
  · exact Nat.le_refl 1

/-- A stored token names one user. -/
theorem NamesUser.unique {sessions : SessionTokens} {known : Knowledge}
    {stored : Except AuthError (Option String)} {name name' : String}
    (hn : NamesUser sessions known stored name) (hn' : NamesUser sessions known stored name') :
    name = name' := by
  obtain ⟨token, claims, rfl, hv, rfl, -⟩ := hn
  obtain ⟨token', claims', ht, hv', rfl, -⟩ := hn'
  obtain rfl : token = token' := by simpa using ht
  obtain rfl : claims = claims' := by simpa [hv] using hv'
  rfl

/-- **Resolution by the standard ways.** With a user name, even an empty one, the client is asked
for the password and for nothing else, and the result is that user if the password opens the
account, and an error otherwise. Without one the resolution does not fail: the client is asked for
the stored token, which decides if it names a user, and then for the build-scope token, which
decides between the system and nobody. -/
theorem resolve_standard (sessions : SessionTokens) (tokens : BuildScopeTokens) (known : Knowledge)
    (client : Client σ) (mild : client.LookupsNotFatal) (request : Request) (state : σ) :
    let heard := hear client known (resolve (standard sessions tokens) request) (.start state)
    let stored := client.storedToken request.rootUrl state
    let build := client.buildToken stored.2
    (∀ user, request.credentials.username = some user →
      heard.2.asked = passwordQuestions request.credentials user ∧ heard.2.asked.length ≤ 1 ∧
      (heard.1 = .ok (.user user) ↔
        ∃ given, suppliedPassword client state request.credentials user = some given ∧
          known.realm.authenticates user given = true) ∧
      (heard.1 = .ok (.user user) ∨ heard.1 = .error .invalidCredentials ∨
        ∃ reason, heard.1 = .error (.authentication reason))) ∧
    (request.credentials.username = none →
      (∃ principal, heard.1 = .ok principal) ∧
      (∀ name, heard.1 = .ok (.user name) ↔ NamesUser sessions known stored.1 name) ∧
      (∀ name, NamesUser sessions known stored.1 name →
        heard.2.asked = [.storedToken request.rootUrl]) ∧
      ((∀ name, ¬ NamesUser sessions known stored.1 name) →
        heard.2.asked = [.storedToken request.rootUrl, .buildToken] ∧
        (heard.1 = .ok .system ↔ GrantsSystem tokens known build.1) ∧
        (heard.1 = .ok .anonymous ↔ ¬ GrantsSystem tokens known build.1))) := by
  intro heard stored build
  refine ⟨fun user hu => ?_, fun hu => ?_⟩
  · obtain ⟨hasked, hdecided⟩ :=
      hear_standard_some client known (.start state) sessions tokens hu
    refine ⟨hasked, ?_, ?_, ?_⟩
    · rw [hasked]
      exact length_passwordQuestions_le _ _
    · rcases hdecided with ⟨given, hs, hk, hr⟩ | ⟨hk, hr⟩
      · exact iff_of_true hr ⟨given, hs, hk⟩
      · refine iff_of_false (fun hok => ?_) ?_
        · rcases hr with hr | ⟨reason, hr⟩
          · exact absurd (hok.symm.trans hr) (by simp)
          · exact absurd (hok.symm.trans hr) (by simp)
        · rintro ⟨given, hs, hk'⟩
          exact absurd hk' (by simp [hk given hs])
    · rcases hdecided with ⟨given, -, -, hr⟩ | ⟨-, hr⟩
      · exact .inl hr
      · exact .inr hr
  · rcases hear_standard_none client known (.start state) sessions tokens mild hu with
      ⟨name, hnames, hr, hasked⟩ | ⟨hnames, hasked, hlast⟩
    · refine ⟨⟨_, hr⟩, fun name' => ⟨fun hr' => ?_, fun hn => ?_⟩, fun _ _ => hasked,
        fun hnone => absurd hnames (hnone name)⟩
      · obtain rfl : name = name' := by simpa using hr.symm.trans hr'
        exact hnames
      · rw [← hnames.unique hn]
        exact hr
    · have hother : ∀ name, heard.1 ≠ .ok (.user name) := by
        intro name hok
        rcases hlast with ⟨-, hr⟩ | ⟨-, hr⟩
        · exact absurd (hok.symm.trans hr) (by simp)
        · exact absurd (hok.symm.trans hr) (by simp)
      refine ⟨?_, fun name => iff_of_false (hother name) (hnames name),
        fun name hn => absurd hn (hnames name), fun _ => ⟨hasked, ?_⟩⟩
      · rcases hlast with ⟨-, hr⟩ | ⟨-, hr⟩
        · exact ⟨_, hr⟩
        · exact ⟨_, hr⟩
      · rcases hlast with ⟨hgrants, hr⟩ | ⟨hgrants, hr⟩
        · exact ⟨iff_of_true hr hgrants,
            iff_of_false (fun hok => absurd (hok.symm.trans hr) (by simp)) (not_not_intro hgrants)⟩
        · exact ⟨iff_of_false (fun hok => absurd (hok.symm.trans hr) (by simp)) hgrants,
            iff_of_true hr hgrants⟩

/-- A client with a password in a file, a session token of alice for a minute and the token of a
nightly run. The tokens can be had only as long as there is a channel. -/
def equippedClient (connected : Bool) : Client Unit where
  passwordFile _ state := (.ok "pw\n", state)
  prompt _ state := (.ok none, state)
  storedToken _ state := (if connected then
      .ok (some "alice:60000:51c7c020e03bc864dc974d280b921c352c78a4cedbf77a9a4f3d3a6570c3858f")
    else .error (.channel .closed), state)
  buildToken state := (if connected then
      .ok (some "nightly:-1:2171ce936476bc46acfb5bd3da4461b9c4383f069125c70c12571b83adbf7fac")
    else .error (.channel .closed), state)

theorem equippedClient_lookupsNotFatal (connected : Bool) :
    (equippedClient connected).LookupsNotFatal where
  stored url state e he := by
    cases connected with
    | true => cases he
    | false =>
      cases he
      rfl
  build state e he := by
    cases connected with
    | true => cases he
    | false =>
      cases he
      rfl

/-- What a server knows at a time at which alice has an account and the nightly run goes on. -/
def knownAt (seconds : Int) : Knowledge :=
  ⟨Realm.addUser Table.empty [115] "alice" "pw", Runs.begin Table.empty "nightly", ⟨seconds, 0⟩⟩

/-- What a request to that server comes to. -/
def resolvedAt (seconds : Int) (connected : Bool) (credentials : Credentials) :
    Except AuthError Principal × Hearing Unit :=
  hear (equippedClient connected) (knownAt seconds)
    (resolve (standard ⟨⟨⟨"k"⟩⟩, Duration.seconds 60⟩ ⟨⟨⟨"k"⟩⟩⟩) ⟨credentials, "http://localhost:8080"⟩)
    (.start ())

/-- Alice by her password and by her session token, the system by the token of the run once that has
expired, and nobody once the channel is gone. -/
theorem resolve_equippedClient :
    (∀ connected, (equippedClient connected).LookupsNotFatal) ∧
    ((resolvedAt 60 true ⟨some "alice", none, some "password.txt"⟩).1 = .ok (.user "alice") ∧
      (resolvedAt 60 true ⟨some "alice", none, some "password.txt"⟩).2.asked =
        [.passwordFile "password.txt"]) ∧
    ((resolvedAt 59 true .none).1 = .ok (.user "alice") ∧
      (resolvedAt 59 true .none).2.asked = [.storedToken "http://localhost:8080"]) ∧
    ((resolvedAt 60 true .none).1 = .ok .system ∧
      (resolvedAt 60 true .none).2.asked = [.storedToken "http://localhost:8080", .buildToken]) ∧
    (resolvedAt 60 false .none).1 = .ok .anonymous ∧
      (resolvedAt 60 false .none).2.asked = [.storedToken "http://localhost:8080", .buildToken] := by
  unfold resolvedAt
  have hresolve := fun seconds connected credentials =>
    resolve_standard ⟨⟨⟨"k"⟩⟩, Duration.seconds 60⟩ ⟨⟨⟨"k"⟩⟩⟩ (knownAt seconds)
      (equippedClient connected) (equippedClient_lookupsNotFatal connected)
      ⟨credentials, "http://localhost:8080"⟩ ()
  refine ⟨equippedClient_lookupsNotFatal, ?_, ?_, ?_, ?_⟩
  · obtain ⟨hasked, -, hopens, -⟩ :=
      (hresolve 60 true ⟨some "alice", none, some "password.txt"⟩).1 "alice" rfl
    have hsupplied : suppliedPassword (equippedClient true) ()
      ⟨some "alice", none, some "password.txt"⟩ "alice" = some "pw" := by decide +kernel
    have hauth : (knownAt 60).realm.authenticates "alice" "pw" = true := by decide +kernel
    exact ⟨hopens.mpr ⟨"pw", hsupplied, hauth⟩, hasked⟩
  · obtain ⟨-, huser, hasked, -⟩ := (hresolve 59 true .none).2 rfl
    have hnames : NamesUser ⟨⟨⟨"k"⟩⟩, Duration.seconds 60⟩ (knownAt 59)
        ((equippedClient true).storedToken "http://localhost:8080" ()).1 "alice" :=
      ⟨_, ⟨"alice", ⟨60, 0⟩⟩, rfl, by decide +kernel, rfl, by decide +kernel⟩
    exact ⟨(huser _).mpr hnames, hasked _ hnames⟩
  · obtain ⟨-, -, -, hlast⟩ := (hresolve 60 true .none).2 rfl
    have hexpired : ∀ name, ¬ NamesUser ⟨⟨⟨"k"⟩⟩, Duration.seconds 60⟩ (knownAt 60)
        ((equippedClient true).storedToken "http://localhost:8080" ()).1 name := by
      rintro name ⟨token, claims, htoken, hverified, -⟩
      cases htoken
      have hrefused : (⟨⟨⟨"k"⟩⟩, Duration.seconds 60⟩ : SessionTokens).verifyAt
          "alice:60000:51c7c020e03bc864dc974d280b921c352c78a4cedbf77a9a4f3d3a6570c3858f" ⟨60, 0⟩ =
            .error .expired := by decide +kernel
      exact absurd (hverified.symm.trans hrefused) (by simp)
    have hgrants : GrantsSystem ⟨⟨⟨"k"⟩⟩⟩ (knownAt 60) ((equippedClient true).buildToken ()).1 :=
      ⟨_, "nightly", "-1", rfl, by decide +kernel, by decide +kernel, by decide +kernel⟩
    obtain ⟨hasked, hsystem, -⟩ := hlast hexpired
    exact ⟨hsystem.mpr hgrants, hasked⟩
  · obtain ⟨-, -, -, hlast⟩ := (hresolve 60 false .none).2 rfl
    obtain ⟨hasked, -, hanonymous⟩ := hlast fun name ⟨token, claims, htoken, _⟩ => by cases htoken
    exact ⟨hanonymous.mpr fun ⟨token, run, field, htoken, _⟩ => (by cases htoken), hasked⟩

end CommandLink.Auth
