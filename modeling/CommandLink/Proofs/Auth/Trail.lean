import CommandLink.Proofs.Auth.Resolution

/-!
# The trail of a resolution

What the standard chain writes to the security log (`resolve_trail`). A request with a user name
leaves one entry, which names that user and says what became of the request. A request without one
leaves an entry for each token that was looked at and rejected, and behind these one for what has
been granted, if anything has.
-/

namespace CommandLink.Auth

variable {σ : Type}

/-! ## Entries -/

/-- The entry for a user whose password opens the account. -/
def passwordAccepted (user : String) : SecurityRecord :=
  ⟨.authSuccess, "explicit credentials accepted", [("user", user)]⟩

/-- The entry for a user who is not let in. -/
def userRefused (user : String) (e : AuthError) : SecurityRecord :=
  ⟨.authFailure, e.message, [("strategy", "explicit"), ("user", user)]⟩

/-- The entry for a user whom the stored token names. -/
def sessionAccepted (user : String) : SecurityRecord :=
  ⟨.authSuccess, "stored session token accepted", [("user", user)]⟩

/-- The entry for the system, on behalf of a run. -/
def runGranted (run : String) : SecurityRecord :=
  ⟨.buildScopeGrant, "build-scope token accepted", [("run", run)]⟩

/-- The token error that looking at a token fails with: it cannot be had for that error, or it does
not pass its check with it. -/
def tokenFault? {α : Type} (check : String → Except TokenError α)
    (reply : Except AuthError (Option String)) : Option TokenError :=
  match reply with
  | .ok (some token) => tokenError? ((check token).mapError AuthError.token)
  | reply => tokenError? reply

section Ways

variable (client : Client σ) (known : Knowledge) (h : Hearing σ) (sessions : SessionTokens)
  (tokens : BuildScopeTokens) {request : Request}

/-- With a user name there is one entry. -/
theorem hear_standard_some_log {user : String} (hu : request.credentials.username = some user) :
    let heard := hear client known (resolve (standard sessions tokens) request) h
    (heard.1 = .ok (.user user) ∧ heard.2.log = h.log ++ [passwordAccepted user]) ∨
      ∃ e, heard.1 = .error e ∧ heard.2.log = h.log ++ [userRefused user e] := by
  have hlog : (heardPassword client h request.credentials user).2.log = h.log := by
    unfold heardPassword
    rcases request.credentials.passwordFile with _ | path
    · rcases request.credentials.password with _ | given
      · rfl
      · rfl
    · rfl
  simp only [standard, hear_resolve_cons, hear_explicit client known h hu]
  rcases heardPassword_cases client h request.credentials user with
    ⟨given, hg, -⟩ | ⟨-, hn | ⟨reason, he⟩⟩
  · by_cases hk : known.realm.authenticates user given = true
    · simp only [hg, if_pos hk]
      exact .inl ⟨trivial, by rw [Hearing.note_log, hlog]; rfl⟩
    · simp only [hg, if_neg hk, AuthError.isFatal, if_true]
      exact .inr ⟨_, rfl, by rw [Hearing.note_log, hlog, hu]; rfl⟩
  · simp only [hn, AuthError.isFatal, if_true]
    exact .inr ⟨_, rfl, by rw [Hearing.note_log, hlog, hu]; rfl⟩
  · simp only [he, AuthError.isFatal, if_true]
    exact .inr ⟨_, rfl, by rw [Hearing.note_log, hlog, hu]; rfl⟩

variable (request) in
/-- What the attempt at the stored token leaves in the log. -/
theorem hear_storedToken_log :
    let attempted := hear client known ((storedToken sessions).attempt request) h
    let fault? := tokenFault? (sessions.verifyAt · known.now)
      (client.storedToken request.rootUrl h.state).1
    (∀ name, attempted.1 = .ok (some (.user name)) →
      attempted.2.log = h.log ++ [sessionAccepted name] ∧ fault? = none) ∧
    ((∀ principal, attempted.1 ≠ .ok (some principal)) →
      attempted.2.log = h.log ∧ tokenError? attempted.1 = fault?) := by
  simp only [hear_storedToken]
  generalize client.storedToken request.rootUrl h.state = reply
  obtain ⟨e | _ | token, state⟩ := reply
  · exact ⟨by simp, fun _ => ⟨rfl, by cases e <;> rfl⟩⟩
  · exact ⟨by simp, fun _ => ⟨rfl, rfl⟩⟩
  · simp only [tokenFault?]
    rcases sessions.verifyAt token known.now with e | claims
    · exact ⟨by simp, fun _ => ⟨rfl, rfl⟩⟩
    · by_cases hk : known.realm.hasUser claims.principal = true
      · simp only [if_pos hk]
        refine ⟨fun name hname => ?_, fun hn => absurd rfl (hn _)⟩
        obtain rfl : claims.principal = name := by simpa using hname
        exact ⟨rfl, rfl⟩
      · simp only [if_neg hk]
        exact ⟨by simp, fun _ => ⟨rfl, rfl⟩⟩

variable (request) in
/-- What the attempt at the build-scope token leaves in the log. -/
theorem hear_buildScope_log :
    let attempted := hear client known ((buildScope tokens).attempt request) h
    let build := (client.buildToken h.state).1
    (attempted.1 = .ok (some .system) → ∃ token run, build = .ok (some token) ∧
      tokens.verifiedRun token = .ok run ∧ attempted.2.log = h.log ++ [runGranted run] ∧
      tokenFault? tokens.verifiedRun build = none) ∧
    ((∀ principal, attempted.1 ≠ .ok (some principal)) →
      attempted.2.log = h.log ∧
        tokenError? attempted.1 = tokenFault? tokens.verifiedRun build) := by
  simp only [hear_buildScope]
  generalize client.buildToken h.state = reply
  obtain ⟨e | _ | token, state⟩ := reply
  · exact ⟨by simp, fun _ => ⟨rfl, by cases e <;> rfl⟩⟩
  · exact ⟨by simp, fun _ => ⟨rfl, rfl⟩⟩
  · simp only [tokenFault?]
    rcases hv : tokens.verifiedRun token with e | run
    · exact ⟨by simp, fun _ => ⟨rfl, rfl⟩⟩
    · by_cases hk : known.runs.isExecuting run = true
      · simp only [if_pos hk]
        exact ⟨fun _ => ⟨token, run, rfl, hv, rfl, rfl⟩, fun hn => absurd rfl (hn _)⟩
      · simp only [if_neg hk]
        exact ⟨by simp, fun _ => ⟨rfl, rfl⟩⟩

/-- Without a user name, the stored token is accepted; or its rejection is followed by that of the
build-scope token, and by what that token grants. -/
theorem hear_standard_none_log (mild : client.LookupsNotFatal)
    (hu : request.credentials.username = none) :
    let heard := hear client known (resolve (standard sessions tokens) request) h
    let stored := client.storedToken request.rootUrl h.state
    let build := (client.buildToken stored.2).1
    let storedFault? := tokenFault? (sessions.verifyAt · known.now) stored.1
    let buildFault? := tokenFault? tokens.verifiedRun build
    (∃ name, heard.1 = .ok (.user name) ∧
      heard.2.asked = h.asked ++ [.storedToken request.rootUrl] ∧
      heard.2.log = h.log ++ [sessionAccepted name] ∧ storedFault? = none) ∨
    (heard.2.asked = h.asked ++ [.storedToken request.rootUrl, .buildToken] ∧
      ∃ granted, heard.2.log = h.log ++ (rejections "stored_token" storedFault? ++
          rejections "build_scope" buildFault? ++ granted) ∧
        ((heard.1 = .ok .system ∧ ∃ token run, build = .ok (some token) ∧
            tokens.verifiedRun token = .ok run ∧ granted = [runGranted run]) ∨
          (heard.1 = .ok .anonymous ∧ granted = []))) := by
  intro heard stored build storedFault? buildFault?
  have hheard : heard = hear client known
      (resolve [storedToken sessions, buildScope tokens, anonymous] request) h := by
    simp only [heard, standard, hear_resolve_cons, hear_explicit_none client known h hu]
  obtain ⟨hstate, hasked⟩ := hear_storedToken_after client known h sessions request
  obtain ⟨haccepted, hpassed⟩ := hear_storedToken_log client known h sessions request
  rcases hear_storedToken_cases client known h sessions request (mild.stored _ _) with
    ⟨name, -, hr⟩ | ⟨-, hm, hn⟩
  · rw [hear_resolve_found client known h _ hr] at hheard
    obtain ⟨hlog, hfault⟩ := haccepted name hr
    exact .inl ⟨name, by rw [hheard], by rw [hheard]; exact hasked,
      by rw [hheard]; exact hlog, hfault⟩
  right
  obtain ⟨after, hs, ha, hl, hrest⟩ :=
    hear_resolve_passed client known h [buildScope tokens, anonymous] hm hn
  obtain ⟨hlog, hfault⟩ := hpassed hn
  rw [hrest] at hheard
  rw [hstate] at hs
  rw [hasked] at ha
  rw [hlog, hfault] at hl
  have hbuilt := hear_buildScope_asked client known after tokens request
  rw [ha, List.append_assoc, List.singleton_append] at hbuilt
  obtain ⟨hgranted, hrefused⟩ := hear_buildScope_log client known after tokens request
  rw [hs, hl] at hgranted hrefused
  rcases hear_buildScope_cases client known after tokens request (mild.build _) with
    ⟨-, hr⟩ | ⟨-, hm', hn'⟩
  · rw [hear_resolve_found client known after _ hr] at hheard
    obtain ⟨token, run, htoken, hrun, hlog', hfault'⟩ := hgranted hr
    refine ⟨by rw [hheard]; exact hbuilt, [runGranted run], ?_,
      .inl ⟨by rw [hheard], token, run, htoken, hrun, rfl⟩⟩
    rw [hheard, hlog', show buildFault? = none from hfault']
    simp [rejections, storedFault?, stored, storedToken]
  · obtain ⟨last, -, hla, hll, hrest'⟩ :=
      hear_resolve_passed client known after [anonymous] hm' hn'
    obtain ⟨hlog', hfault'⟩ := hrefused hn'
    rw [hrest', hear_resolve_cons, hear_anonymous] at hheard
    refine ⟨by rw [hheard]; exact hla.trans hbuilt, [], ?_, .inr ⟨by rw [hheard], rfl⟩⟩
    rw [hheard, hll, hlog', hfault']
    simp [storedFault?, buildFault?, build, stored, storedToken, buildScope]

end Ways

/-! ## The trail -/

/-- **The trail of a resolution.** With a user name the security log gets one entry, for that user:
that the user has been let in if the resolution names somebody, and why not if it fails. Without one
it gets, in this order, an entry for each token that was asked for and came to a token error, and
then one for the user that the resolution names, or for the run in whose name it lets the system in,
and none where it names nobody in particular. -/
theorem resolve_trail (sessions : SessionTokens) (tokens : BuildScopeTokens) (known : Knowledge)
    (client : Client σ) (mild : client.LookupsNotFatal) (request : Request) (state : σ) :
    let heard := hear client known (resolve (standard sessions tokens) request) (.start state)
    let stored := client.storedToken request.rootUrl state
    let build := (client.buildToken stored.2).1
    (∀ user, request.credentials.username = some user →
      ((∃ principal, heard.1 = .ok principal) ↔ heard.2.log = [passwordAccepted user]) ∧
      ((∃ e, heard.1 = .error e) ↔ ∃ e, heard.2.log = [userRefused user e]) ∧
      ∀ e, heard.1 = .error e → heard.2.log = [userRefused user e]) ∧
    (request.credentials.username = none →
      ∃ granted, heard.2.log =
          (if .storedToken request.rootUrl ∈ heard.2.asked then
            rejections "stored_token" (tokenFault? (sessions.verifyAt · known.now) stored.1)
          else []) ++
          (if .buildToken ∈ heard.2.asked then
            rejections "build_scope" (tokenFault? tokens.verifiedRun build)
          else []) ++ granted ∧
        (∀ name, heard.1 = .ok (.user name) ↔ granted = [sessionAccepted name]) ∧
        (heard.1 = .ok .system ↔ ∃ token run, build = .ok (some token) ∧
          tokens.verifiedRun token = .ok run ∧ granted = [runGranted run]) ∧
        (heard.1 = .ok .anonymous ↔ granted = [])) := by
  intro heard stored build
  refine ⟨fun user hu => ?_, fun hu => ?_⟩
  · rcases hear_standard_some_log client known (.start state) sessions tokens hu with
      ⟨hr, hlog⟩ | ⟨e, hr, hlog⟩
    · change heard.1 = _ at hr
      change heard.2.log = _ at hlog
      simp [hr, hlog, passwordAccepted, userRefused]
    · change heard.1 = _ at hr
      change heard.2.log = _ at hlog
      simp [hr, hlog, passwordAccepted, userRefused]
  · rcases hear_standard_none_log client known (.start state) sessions tokens mild hu with
      ⟨name, hr, hasked, hlog, hfault⟩ | ⟨hasked, granted, hlog, hlast⟩
    · change heard.1 = _ at hr
      change heard.2.asked = _ at hasked
      change heard.2.log = _ at hlog
      change tokenFault? _ stored.1 = none at hfault
      refine ⟨[sessionAccepted name], ?_, ?_⟩
      · simp [hlog, hasked, hfault, rejections]
      · simp [hr, sessionAccepted, runGranted, eq_comm]
    · change heard.2.asked = _ at hasked
      change heard.2.log = _ at hlog
      change (heard.1 = _ ∧ _) ∨ (heard.1 = _ ∧ _) at hlast
      refine ⟨granted, ?_, ?_⟩
      · simpa [hasked, stored, build] using hlog
      · rcases hlast with ⟨hr, token, run, hbuild, hrun, rfl⟩ | ⟨hr, rfl⟩
        · exact ⟨fun name => iff_of_false (by simp [hr]) (by simp [sessionAccepted, runGranted]),
            iff_of_true hr ⟨token, run, hbuild, hrun, rfl⟩, iff_of_false (by simp [hr]) (by simp)⟩
        · simp [hr]

/-- A client that keeps a spoilt session token, and cannot have a build-scope token because it has
expired. -/
def spoiltClient : Client Unit where
  passwordFile _ state := (.error (.channel .closed), state)
  prompt _ state := (.error (.channel .closed), state)
  storedToken _ state := (.ok (some "spoilt"), state)
  buildToken state := (.error (.token .expired), state)

/-- Both tokens are rejected, and nobody is let in. -/
theorem resolve_trail_spoiltClient :
    let heard := hear spoiltClient ⟨Table.empty, Table.empty, ⟨0, 0⟩⟩
      (resolve (standard ⟨⟨⟨""⟩⟩, Duration.seconds 60⟩ ⟨⟨⟨""⟩⟩⟩) ⟨.none, "http://localhost:8080"⟩)
      (.start ())
    spoiltClient.LookupsNotFatal ∧ heard.1 = .ok .anonymous ∧
      heard.2.log = [
        ⟨.tokenRejected, "Malformed token: expected 3 fields, found 1",
          [("strategy", "stored_token")]⟩,
        ⟨.tokenRejected, "Token expired", [("strategy", "build_scope")]⟩] := by
  have hmild : spoiltClient.LookupsNotFatal := by
    refine ⟨fun url state e he => ?_, fun state e he => ?_⟩
    · exact absurd he (by simp [spoiltClient])
    · obtain rfl : AuthError.token .expired = e := by simpa [spoiltClient] using he
      rfl
  intro heard
  have hresult : heard.1 = .ok .anonymous := by decide +kernel
  have hasked : heard.2.asked = [.storedToken "http://localhost:8080", .buildToken] := by
    decide +kernel
  obtain ⟨-, htrail⟩ := resolve_trail ⟨⟨⟨""⟩⟩, Duration.seconds 60⟩ ⟨⟨⟨""⟩⟩⟩
    ⟨Table.empty, Table.empty, ⟨0, 0⟩⟩ spoiltClient hmild ⟨.none, "http://localhost:8080"⟩ ()
  obtain ⟨granted, hlog, -, -, hnobody⟩ := htrail rfl
  change heard.1 = _ ↔ _ at hnobody
  change heard.2.log = _ at hlog
  rw [hasked, hnobody.mp hresult] at hlog
  exact ⟨hmild, hresult, hlog.trans (by decide +kernel)⟩

end CommandLink.Auth
