import CommandLink.Channel.Error
import CommandLink.Client.CommandLine
import CommandLink.Config

/-!
# Secrets in diagnostics

Two values that are equal but for secrets are shown alike. What counts as a secret is said without
regard to how anything is shown, from the parts upwards: the text of a password, but not whether there
is one (`Credentials.AlikeButSecrets`), whatever a server asks of its client but for the address under
which a token is to be kept (`Call.AlikeButSecrets`), the text of a reply (`Reply.AlikeButSecrets`), and
so on for frames, command lines and configurations. All of this is `secrets_not_shown`.
-/

namespace CommandLink

/-! ## Secrets that are there or not -/

/-- Of a secret only its presence is shown. -/
theorem shownSecret_congr {a b : Option String} (h : a.isSome = b.isSome) :
    shownSecret a = shownSecret b := by
  cases a
  · cases b
    · rfl
    · cases h
  · cases b
    · cases h
    · rfl

/-- Credentials that differ at most in the text of the password. -/
structure Credentials.AlikeButSecrets (c d : Credentials) : Prop where
  username : c.username = d.username
  password : c.password.isSome = d.password.isSome
  passwordFile : c.passwordFile = d.passwordFile

theorem Credentials.AlikeButSecrets.shown_eq {c d : Credentials} (h : c.AlikeButSecrets d) :
    c.shown = d.shown := by
  rw [Credentials.shown, h.username, shownSecret_congr h.password, h.passwordFile,
    Credentials.shown]

/-! ## Frames -/

/-- Calls that differ at most in secrets. -/
inductive Call.AlikeButSecrets : Call → Call → Prop where
  | execute (args : List String) {c d : Credentials} (h : c.AlikeButSecrets d) :
    AlikeButSecrets (.execute ⟨args, c⟩) (.execute ⟨args, d⟩)
  | hasCommand (name : String) : AlikeButSecrets (.hasCommand name) (.hasCommand name)
  | readPasswordFile (path path' : String) :
    AlikeButSecrets (.readPasswordFile path) (.readPasswordFile path')
  | promptPassword (prompt prompt' : String) :
    AlikeButSecrets (.promptPassword prompt) (.promptPassword prompt')
  | readStoredToken (url url' : String) :
    AlikeButSecrets (.readStoredToken url) (.readStoredToken url')
  | storeToken (url token token' : String) :
    AlikeButSecrets (.storeToken url token) (.storeToken url token')
  | removeToken (url url' : String) : AlikeButSecrets (.removeToken url) (.removeToken url')
  | readBuildToken : AlikeButSecrets .readBuildToken .readBuildToken

theorem Call.AlikeButSecrets.shown_eq {call call' : Call} (h : call.AlikeButSecrets call') :
    call.shown = call'.shown := by
  cases h with
  | execute args h => rw [Call.shown, Invocation.shown, h.shown_eq, Call.shown, Invocation.shown]
  | _ => rfl

/-- Replies that differ at most in the text of a text. -/
inductive Reply.AlikeButSecrets : Reply → Reply → Prop where
  | outcome (o : Outcome) : AlikeButSecrets (.outcome o) (.outcome o)
  | flag (value : Bool) : AlikeButSecrets (.flag value) (.flag value)
  | text {a b : Option String} (h : a.isSome = b.isSome) : AlikeButSecrets (.text a) (.text b)
  | done : AlikeButSecrets .done .done

theorem Reply.AlikeButSecrets.shown_eq {reply reply' : Reply} (h : reply.AlikeButSecrets reply') :
    reply.shown = reply'.shown := by
  cases h with
  | text h => rw [Reply.shown, shownSecret_congr h, Reply.shown]
  | _ => rfl

/-- Whether there is a text does show. -/
theorem Reply.shown_text_ne (value : String) :
    (Reply.text none).shown ≠ (Reply.text (some value)).shown := by
  have hvalue : (Reply.text (some value)).shown = (Reply.text (some "")).shown := rfl
  rw [hvalue]
  decide

/-- Frames that differ at most in secrets. -/
inductive Frame.AlikeButSecrets : Frame → Frame → Prop where
  | request (id : CallId) {call call' : Call} (h : call.AlikeButSecrets call') :
    AlikeButSecrets (.request id call) (.request id call')
  | answered (id : CallId) {reply reply' : Reply} (h : reply.AlikeButSecrets reply') :
    AlikeButSecrets (.response id (.ok reply)) (.response id (.ok reply'))
  | refused (id : CallId) (failure : Failure) :
    AlikeButSecrets (.response id (.error failure)) (.response id (.error failure))
  | property (name : String) (value : Json) :
    AlikeButSecrets (.property name value) (.property name value)
  | ping : AlikeButSecrets .ping .ping

theorem Frame.AlikeButSecrets.shown_eq {frame frame' : Frame} (h : frame.AlikeButSecrets frame') :
    frame.shown = frame'.shown := by
  cases h with
  | request id h => rw [Frame.shown, h.shown_eq, Frame.shown]
  | answered id h => rw [Frame.shown, shownResult, h.shown_eq, Frame.shown, shownResult]
  | _ => rfl

example : (Frame.request 7 (.execute ⟨["login"], ⟨some "alice", some "hunter2", none⟩⟩)).shown =
    "Request \x7b id: CallId(7), call: Execute(CommandInvocation \x7b args: [\"login\"], " ++
      "credentials: CredentialArgs \x7b username: Some(\"alice\"), " ++
      "password: Some(\"<redacted>\"), password_file: None \x7d \x7d) \x7d" := by decide +kernel

/-! ## Command lines and configurations -/

/-- Command lines that differ at most in the text of the password. -/
structure CommandLine.AlikeButSecrets (line line' : CommandLine) : Prop where
  url : line.url = line'.url
  credentials : line.credentials.AlikeButSecrets line'.credentials
  command : line.command = line'.command
  showUsage : line.showUsage = line'.showUsage

theorem CommandLine.AlikeButSecrets.shown_eq {line line' : CommandLine}
    (h : line.AlikeButSecrets line') : line.shown = line'.shown := by
  rw [CommandLine.shown, h.url, h.credentials.shown_eq, h.command, h.showUsage, CommandLine.shown]

/-- Configurations of servers that differ at most in the key and in the passwords of the accounts. -/
structure ServerConfig.AlikeButSecrets (c d : ServerConfig) : Prop where
  rootUrl : c.rootUrl = d.rootUrl
  httpAddress : c.httpAddress = d.httpAddress
  cliPort : c.cliPort = d.cliPort
  sessionSeconds : c.sessionSeconds = d.sessionSeconds
  users : c.users.map UserSeed.name = d.users.map UserSeed.name
  maxConnections : c.maxConnections = d.maxConnections
  shutdownSeconds : c.shutdownSeconds = d.shutdownSeconds
  channel : c.channel = d.channel

/-- Accounts are shown by their names. -/
theorem shown_users_congr {users users' : List UserSeed}
    (h : users.map UserSeed.name = users'.map UserSeed.name) :
    users.map UserSeed.shown = users'.map UserSeed.shown := by
  have hname : UserSeed.shown = (fun name => UserSeed.shown ⟨name, ""⟩) ∘ UserSeed.name := rfl
  rw [hname, ← List.map_map, h, List.map_map]

theorem ServerConfig.AlikeButSecrets.shown_eq {c d : ServerConfig} (h : c.AlikeButSecrets d)
    (key key' : SecretKey) : c.shown key = d.shown key' := by
  have hkey : key.shown = key'.shown := rfl
  rw [ServerConfig.shown, hkey, h.rootUrl, h.httpAddress, h.cliPort, h.sessionSeconds,
    shown_users_congr h.users, h.maxConnections, h.shutdownSeconds, h.channel, ServerConfig.shown]

/-! ## Unexpected replies -/

/-- The error of an unexpected reply tells the kinds of call and reply, and of a text whether there is
one. -/
theorem unexpected_congr {call call' : Call} {reply reply' : Reply} (hcall : call.kind = call'.kind)
    (h : reply.AlikeButSecrets reply') :
    ChannelError.unexpected call reply = ChannelError.unexpected call' reply' := by
  rw [ChannelError.unexpected, hcall, h.shown_eq, ChannelError.unexpected]

/-- **Diagnostics do not depend on secrets.** -/
theorem secrets_not_shown :
    (∀ frame frame' : Frame, frame.AlikeButSecrets frame' → frame.shown = frame'.shown) ∧
    (∀ line line' : CommandLine, line.AlikeButSecrets line' → line.shown = line'.shown) ∧
    (∀ (c d : ServerConfig) (key key' : SecretKey), c.AlikeButSecrets d →
      c.shown key = d.shown key') ∧
    -- the error of a text where another kind of reply is expected
    (∀ (call call' : Call) (a b : String), call.kind = call'.kind →
      (ChannelError.unexpected call (.text (some a))).message =
        (ChannelError.unexpected call' (.text (some b))).message) ∧
    -- what does show of a text
    ∀ a b : Option String, (Reply.text a).shown = (Reply.text b).shown ↔ a.isSome = b.isSome := by
  refine ⟨fun _ _ h => h.shown_eq, fun _ _ h => h.shown_eq, fun _ _ key key' h => h.shown_eq key key',
    fun call call' a b hkind => ?_, fun a b => ⟨fun h => ?_, fun h => ?_⟩⟩
  · exact congrArg ChannelError.message (unexpected_congr hkind (.text rfl))
  · cases a with
    | none =>
      cases b with
      | none => rfl
      | some b => exact absurd h (Reply.shown_text_ne b)
    | some a =>
      cases b with
      | none => exact absurd h.symm (Reply.shown_text_ne a)
      | some b => rfl
  · exact (Reply.AlikeButSecrets.text h).shown_eq

end CommandLink
