import CommandLink.Auth.Resolver
import Mathlib.Tactic.Common

/-!
# Hearings

A resolution asks a client. `Client` is whoever answers, in any way that may depend on everything it
was asked before; a `Hearing` is what has been asked and what has been written to the security log
so far, and `hear` runs an inquiry with a client and a server's knowledge. Each of the standard ways
of authentication has its equation under `hear`: `hear_explicit`, `hear_storedToken`,
`hear_buildScope` and `hear_anonymous`.
-/

namespace CommandLink.Auth

/-- A client as an inquiry meets it. Its answers depend on a state of its own, which every question
may change. -/
structure Client (σ : Type) where
  passwordFile : String → σ → Except AuthError String × σ
  prompt : String → σ → Except AuthError (Option String) × σ
  storedToken : String → σ → Except AuthError (Option String) × σ
  buildToken : σ → Except AuthError (Option String) × σ

/-- A question that goes to the client. -/
inductive Asked where
  | passwordFile (path : String)
  | prompt (text : String)
  | storedToken (url : String)
  | buildToken
  deriving DecidableEq, Repr

/-- What has happened in a hearing. -/
structure Hearing (σ : Type) where
  /-- The state of the client. -/
  state : σ
  /-- What the client was asked, in order. -/
  asked : List Asked
  /-- What was written to the security log, in order. -/
  log : List SecurityRecord

variable {σ α β : Type}

namespace Hearing

/-- A hearing that begins. -/
def start (state : σ) : Hearing σ := ⟨state, [], []⟩

/-- The hearing after a question to the client, which left it in a state. -/
def ask (h : Hearing σ) (question : Asked) (state : σ) : Hearing σ :=
  { h with state := state, asked := h.asked ++ [question] }

/-- The hearing after an entry for the security log. -/
def note (h : Hearing σ) (entry : SecurityRecord) : Hearing σ := { h with log := h.log ++ [entry] }

@[simp] theorem start_state (s : σ) : (start s).state = s := rfl

@[simp] theorem start_asked (s : σ) : (start s).asked = [] := rfl

@[simp] theorem start_log (s : σ) : (start s).log = [] := rfl

@[simp] theorem ask_state (h : Hearing σ) (q : Asked) (s : σ) : (h.ask q s).state = s := rfl

@[simp] theorem ask_asked (h : Hearing σ) (q : Asked) (s : σ) :
    (h.ask q s).asked = h.asked ++ [q] := rfl

@[simp] theorem ask_log (h : Hearing σ) (q : Asked) (s : σ) : (h.ask q s).log = h.log := rfl

@[simp] theorem note_state (h : Hearing σ) (e : SecurityRecord) : (h.note e).state = h.state := rfl

@[simp] theorem note_asked (h : Hearing σ) (e : SecurityRecord) : (h.note e).asked = h.asked := rfl

@[simp] theorem note_log (h : Hearing σ) (e : SecurityRecord) : (h.note e).log = h.log ++ [e] := rfl

end Hearing

/-- The answer to a question. -/
def answer (client : Client σ) (known : Knowledge) :
    (q : Question) → StateM (Hearing σ) q.Answer
  | .passwordFile path => fun h =>
    let reply := client.passwordFile path h.state
    (reply.1, h.ask (.passwordFile path) reply.2)
  | .prompt text => fun h =>
    let reply := client.prompt text h.state
    (reply.1, h.ask (.prompt text) reply.2)
  | .storedToken url => fun h =>
    let reply := client.storedToken url h.state
    (reply.1, h.ask (.storedToken url) reply.2)
  | .buildToken => fun h =>
    let reply := client.buildToken h.state
    (reply.1, h.ask .buildToken reply.2)
  | .knowledge => fun h => (known, h)
  | .record entry => fun h => ((), h.note entry)

/-- An inquiry with a client and what a server knows: its result, and the hearing after it. -/
def hear (client : Client σ) (known : Knowledge) (d : Inquiry α) (h : Hearing σ) : α × Hearing σ :=
  d.runM (answer client known) h

section Equations

variable (client : Client σ) (known : Knowledge) (h : Hearing σ)

@[simp] theorem hear_done (a : α) : hear client known (.done a) h = (a, h) := rfl

theorem hear_ask (q : Question) (next : q.Answer → Inquiry α) :
    hear client known (.ask q next) h =
      hear client known (next (answer client known q h).1) (answer client known q h).2 := rfl

theorem hear_bind (d : Inquiry α) (next : α → Inquiry β) :
    hear client known (d >>= next) h =
      hear client known (next (hear client known d h).1) (hear client known d h).2 := by
  induction d generalizing h with
  | done a => rfl
  | ask q f ih =>
    rw [Dialogue.ask_bind, hear_ask, hear_ask, ih]

/-! ## Questions -/

theorem hear_passwordFile_bind (path : String) (next : Except AuthError String → Inquiry α) :
    hear client known (Inquiry.passwordFile path >>= next) h =
      hear client known (next (client.passwordFile path h.state).1)
        (h.ask (.passwordFile path) (client.passwordFile path h.state).2) := rfl

theorem hear_prompt_bind (text : String) (next : Except AuthError (Option String) → Inquiry α) :
    hear client known (Inquiry.prompt text >>= next) h =
      hear client known (next (client.prompt text h.state).1)
        (h.ask (.prompt text) (client.prompt text h.state).2) := rfl

theorem hear_storedToken_bind (url : String)
    (next : Except AuthError (Option String) → Inquiry α) :
    hear client known (Inquiry.storedToken url >>= next) h =
      hear client known (next (client.storedToken url h.state).1)
        (h.ask (.storedToken url) (client.storedToken url h.state).2) := rfl

theorem hear_buildToken_bind (next : Except AuthError (Option String) → Inquiry α) :
    hear client known (Inquiry.buildToken >>= next) h =
      hear client known (next (client.buildToken h.state).1)
        (h.ask .buildToken (client.buildToken h.state).2) := rfl

theorem hear_knowledge_bind (next : Knowledge → Inquiry α) :
    hear client known (Inquiry.knowledge >>= next) h = hear client known (next known) h := rfl

/-! ## The ways of authentication -/

/-- The password of a request as a client supplies it, or why there is none, and the hearing after
that. -/
def heardPassword (credentials : Credentials) (user : String) :
    Except AuthError (Option String) × Hearing σ :=
  match credentials.passwordFile, credentials.password with
  | some path, _ =>
    let reply := client.passwordFile path h.state
    (match reply.1 with
      | .ok contents => .ok (some (Text.trim contents))
      | .error e =>
        .error (.authentication ("cannot read password file " ++ path ++ ": " ++ e.message)),
      h.ask (.passwordFile path) reply.2)
  | none, some given => (.ok (some given), h)
  | none, none =>
    let question := "Password for " ++ user ++ ": "
    let reply := client.prompt question h.state
    (match reply.1 with
      | .ok typed => .ok typed
      | .error e => .error (.authentication ("cannot prompt for password: " ++ e.message)),
      h.ask (.prompt question) reply.2)

theorem hear_password (request : Request) (user : String) :
    hear client known (password request user) h =
      heardPassword client h request.credentials user := by
  unfold password heardPassword
  rcases request.credentials.passwordFile with _ | path
  · rcases request.credentials.password with _ | given
    · simp only [hear_prompt_bind]
      rcases (client.prompt ("Password for " ++ user ++ ": ") h.state).1 with e | typed <;> rfl
    · rfl
  · simp only [hear_passwordFile_bind]
    rcases (client.passwordFile path h.state).1 with e | contents <;> rfl

theorem hear_explicit_none {request : Request} (hu : request.credentials.username = none) :
    hear client known (explicit.attempt request) h = (.ok none, h) := by
  simp only [explicit, hu]
  rfl

theorem hear_explicit {request : Request} {user : String}
    (hu : request.credentials.username = some user) :
    hear client known (explicit.attempt request) h =
      let supplied := heardPassword client h request.credentials user
      match supplied.1 with
      | .error e => (.error e, supplied.2)
      | .ok none => (.error (.authentication "no password specified"), supplied.2)
      | .ok (some given) =>
        if known.realm.authenticates user given then
          (.ok (some (.user user)),
            supplied.2.note ⟨.authSuccess, "explicit credentials accepted", [("user", user)]⟩)
        else (.error .invalidCredentials, supplied.2) := by
  simp only [explicit, hu, hear_bind, hear_password]
  rcases (heardPassword client h request.credentials user).1 with e | _ | given
  · rfl
  · rfl
  · simp only [hear_knowledge_bind]
    by_cases hk : known.realm.authenticates user given = true
    · simp only [if_pos hk]
      rfl
    · simp only [if_neg hk]
      rfl

theorem hear_storedToken (sessions : SessionTokens) (request : Request) :
    hear client known ((storedToken sessions).attempt request) h =
      let reply := client.storedToken request.rootUrl h.state
      let after := h.ask (.storedToken request.rootUrl) reply.2
      match reply.1 with
      | .error e => (.error e, after)
      | .ok none => (.ok none, after)
      | .ok (some token) =>
        match sessions.verifyAt token known.now with
        | .error e => (.error (.token e), after)
        | .ok claims =>
          if known.realm.hasUser claims.principal then
            (.ok (some (.user claims.principal)),
              after.note ⟨.authSuccess, "stored session token accepted",
                [("user", claims.principal)]⟩)
          else (.ok none, after) := by
  simp only [storedToken, hear_storedToken_bind]
  rcases (client.storedToken request.rootUrl h.state).1 with e | _ | token
  · rfl
  · rfl
  · simp only [hear_knowledge_bind]
    rcases sessions.verifyAt token known.now with e | claims
    · rfl
    · simp only
      by_cases hk : known.realm.hasUser claims.principal = true
      · simp only [if_pos hk]
        rfl
      · simp only [if_neg hk]
        rfl

theorem hear_buildScope (tokens : BuildScopeTokens) (request : Request) :
    hear client known ((buildScope tokens).attempt request) h =
      let reply := client.buildToken h.state
      let after := h.ask .buildToken reply.2
      match reply.1 with
      | .error e => (.error e, after)
      | .ok none => (.ok none, after)
      | .ok (some token) =>
        match tokens.verifiedRun token with
        | .error e => (.error (.token e), after)
        | .ok run =>
          if known.runs.isExecuting run then
            (.ok (some .system),
              after.note ⟨.buildScopeGrant, "build-scope token accepted", [("run", run)]⟩)
          else (.ok none, after) := by
  simp only [buildScope, hear_buildToken_bind]
  rcases (client.buildToken h.state).1 with e | _ | token
  · rfl
  · rfl
  · simp only
    rcases tokens.verifiedRun token with e | run
    · rfl
    · simp only [hear_knowledge_bind]
      by_cases hk : known.runs.isExecuting run = true
      · simp only [if_pos hk]
        rfl
      · simp only [if_neg hk]
        rfl

theorem hear_anonymous (request : Request) :
    hear client known (anonymous.attempt request) h = (.ok (some .anonymous), h) := rfl

/-! ## The chain -/

@[simp] theorem hear_resolve_nil (request : Request) :
    hear client known (resolve [] request) h = (.ok .anonymous, h) := rfl

/-- A way of authentication decides the chain by a principal or a fatal error; otherwise the next
one is tried in the hearing as it was left, with a rejected token in the log. -/
theorem hear_resolve_cons (strategy : Strategy) (strategies : List Strategy) (request : Request) :
    hear client known (resolve (strategy :: strategies) request) h =
      let attempted := hear client known (strategy.attempt request) h
      let after := attempted.2
      match attempted.1 with
      | .ok (some principal) => (.ok principal, after)
      | .ok none => hear client known (resolve strategies request) after
      | .error e =>
        if e.isFatal then
          (.error e, after.note ⟨.authFailure, e.message,
            [("strategy", strategy.name), ("user", request.credentials.username.getD "")]⟩)
        else
          match e with
          | .token rejected => hear client known (resolve strategies request)
              (after.note ⟨.tokenRejected, rejected.message, [("strategy", strategy.name)]⟩)
          | _ => hear client known (resolve strategies request) after := by
  rw [resolve, hear_bind]
  simp only
  rcases (hear client known (strategy.attempt request) h).1 with e | _ | principal
  · cases e <;> rfl
  · rfl
  · rfl

end Equations

end CommandLink.Auth
