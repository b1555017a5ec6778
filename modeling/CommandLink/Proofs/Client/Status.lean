import CommandLink.Client.Program
import CommandLink.Proofs.Channel.Following

/-!
# The status that the program ends with

A run of the program explains how it is used, cannot make anything of its command line, fails to run
the command, or runs it on a server, and its status says which (`Course`, `course_run`). The outcome
of a command that is run is what the server has replied to the call for it (`follow_converse`).

The operating system is given the low byte of the exit code. So an exit code from 0 to 255 is the
status, and no failure to run a command is taken for a success; but a command that ends with another
multiple of 256 is (`status_eq_zero_iff`, `no_failure_hidden_iff`).
-/

namespace CommandLink

/-- A routine that goes on with another and returns has returned itself, and then the other has. -/
theorem Routine.follow_bind_done {ω ρ α β : Type} {routine : Routine ω ρ α}
    {next : α → Routine ω ρ β} {heard : List (Heard ω)} {result : β}
    (h : Routine.follow (routine.bind next) heard = some (.done result)) :
    ∃ first later a, heard = first ++ later ∧ Routine.follow routine first = some (.done a) ∧
      Routine.follow (next a) later = some (.done result) := by
  induction heard generalizing routine with
  | nil =>
    rcases routine with a | ⟨op, f⟩
    · exact ⟨[], [], a, rfl, rfl, h⟩
    · cases h
  | cons x heard ih =>
    rcases routine with a | ⟨op, f⟩
    · exact ⟨[], x :: heard, a, rfl, rfl, h⟩
    · obtain ⟨answer, hanswer, hnext⟩ := Option.bind_eq_some_iff.mp h
      obtain ⟨first, later, a, rfl, hfirst, hlater⟩ := ih hnext
      refine ⟨x :: first, later, a, rfl, ?_, hlater⟩
      rw [Routine.follow, hanswer, Option.bind_some, hfirst]

namespace Client

/-! ## Conversations -/

/-- What a reply to the call for a command comes to. -/
def replied (call : Call) : Except ChannelError Reply → Except ClientError Outcome
  | .ok (.outcome outcome) => .ok outcome
  | .ok reply => .error (.channel (.unexpected call reply))
  | .error e => .error (.channel e)

section

variable {ω ρ : Type} (args : List String) (credentials : Credentials)

/-- To run a command is to connect, to call for the command, and to close the channel. -/
theorem converse_eq : (converse args credentials : Routine ω ρ _) = connect.bind fun
    | .error e => .done (.error e)
    | .ok _ => .ask (.call (.execute ⟨args, credentials⟩)) fun reply =>
        .ask .close fun _ => .done (replied (.execute ⟨args, credentials⟩) reply) := by
  refine congrArg (Dialogue.bind connect) (funext fun result => ?_)
  rcases result with e | entryPoint
  · rfl
  · refine congrArg (Dialogue.ask _) (funext fun reply => ?_)
    rcases reply with e | reply
    · rfl
    · cases reply <;> rfl

variable {args credentials}

/-- **What a conversation comes to**: the error with which connecting has ended, or what the server
has replied to the call for the command. -/
theorem follow_converse {heard : List (Heard ω)} {result : Except ClientError Outcome}
    (h : Routine.follow (converse args credentials : Routine ω ρ _) heard = some (.done result)) :
    (∃ e, Routine.follow (connect : Routine ω ρ _) heard = some (.done (.error e)) ∧
      result = .error e) ∨
    ∃ first entryPoint reply, heard = first ++ [.reply reply, .done] ∧
      Routine.follow (connect : Routine ω ρ _) first = some (.done (.ok entryPoint)) ∧
      result = replied (.execute ⟨args, credentials⟩) reply := by
  rw [converse_eq] at h
  obtain ⟨first, later, connected, rfl, hfirst, hlater⟩ := Routine.follow_bind_done h
  rcases connected with e | entryPoint
  · obtain ⟨rfl, hresult⟩ := Routine.follow_done hlater
    cases hresult
    rw [List.append_nil]
    exact .inl ⟨e, hfirst, rfl⟩
  · rcases later with _ | ⟨x, _ | ⟨y, later⟩⟩
    · cases hlater
    · obtain ⟨reply, -, hnext⟩ := Option.bind_eq_some_iff.mp hlater
      cases hnext
    · obtain ⟨reply, hreply, hnext⟩ := Option.bind_eq_some_iff.mp hlater
      obtain ⟨_, hdone, hend⟩ := Option.bind_eq_some_iff.mp hnext
      obtain ⟨rfl, hresult⟩ := Routine.follow_done hend
      cases x <;> cases hreply
      cases y <;> cases hdone
      cases hresult
      exact .inr ⟨first, entryPoint, reply, rfl, hfirst, rfl⟩

end

/-! ## Runs of the program -/

/-- The machine once the program has started its log. -/
def Machine.logging (machine : Machine) : Machine :=
  { machine with
    files := ((LogConfig.load machine.environment "warn" .compact).start false machine.files).1 }

/-- The address that a command line is for. -/
def Machine.address? (machine : Machine) (line : CommandLine) : Option String :=
  line.url.orElse fun _ => (ClientConfig.load machine.environment).url

/-- What comes of running the command of a command line on the server of an address. -/
def Machine.conversation (machine : Machine) (line : CommandLine) (url : String) :
    Except ClientError Outcome :=
  let config := ClientConfig.load machine.environment
  let state := ClientState.connected url (openStore machine config.credentialsFile)
    config.buildToken (fun _ => .ok none) machine.files
  (machine.network.runCommand url config.channel state line.command line.credentials).2

/-- What a run of the program comes to, and the status that it ends with. -/
inductive Course (machine : Machine) (words : List String) : ℕ → Prop
  | explained (line : CommandLine) (read : CommandLine.parse words = .ok line)
    (asked : line.showUsage = true) : Course machine words 0
  | refused (e : UsageError) (read : CommandLine.parse words = .error e) : Course machine words 2
  | unaddressed (line : CommandLine) (read : CommandLine.parse words = .ok line)
    (unasked : line.showUsage = false) (nowhere : machine.address? line = none) :
    Course machine words 2
  | failed (line : CommandLine) (url : String) (e : ClientError)
    (read : CommandLine.parse words = .ok line) (unasked : line.showUsage = false)
    (address : machine.address? line = some url)
    (failure : machine.conversation line url = .error e)
    (spoken : ∀ server client, .versionMismatch server client ≠ e) : Course machine words 3
  | mismatched (line : CommandLine) (url : String) (server client : UInt32)
    (read : CommandLine.parse words = .ok line) (unasked : line.showUsage = false)
    (address : machine.address? line = some url)
    (failure : machine.conversation line url = .error (.versionMismatch server client)) :
    Course machine words 4
  | ran (line : CommandLine) (url : String) (outcome : Outcome)
    (read : CommandLine.parse words = .ok line) (unasked : line.showUsage = false)
    (address : machine.address? line = some url)
    (success : machine.conversation line url = .ok outcome) :
    Course machine words (outcome.exitCode.toInt % 256).toNat

theorem course_runWords (machine : Machine) (words : List String) :
    Course machine words (runWords machine words).status := by
  unfold runWords
  rcases hread : CommandLine.parse words with e | line
  · exact .refused e hread
  · dsimp only
    unfold runLine
    by_cases hasked : line.showUsage = true
    · rw [if_pos hasked]
      exact .explained line hread hasked
    · have hunasked : line.showUsage = false := Bool.eq_false_iff.mpr hasked
      rw [if_neg hasked]
      dsimp only
      rcases haddress : line.url.orElse fun _ => (ClientConfig.load machine.environment).url
        with _ | url
      · exact .unaddressed line hread hunasked haddress
      · dsimp only
        rcases hresult : machine.network.runCommand url
            (ClientConfig.load machine.environment).channel
            (ClientState.connected url
              (openStore machine (ClientConfig.load machine.environment).credentialsFile)
              (ClientConfig.load machine.environment).buildToken (fun _ => .ok none) machine.files)
            line.command line.credentials with ⟨state, e | outcome⟩
        · have hfailure : machine.conversation line url = .error e := congrArg Prod.snd hresult
          cases e with
          | versionMismatch server client =>
            exact .mismatched line url server client hread hunasked haddress hfailure
          | _ => exact .failed line url _ hread hunasked haddress hfailure (by simp)
        · exact .ran line url outcome hread hunasked haddress (congrArg Prod.snd hresult)

/-- **What a run of the program comes to.** -/
theorem course_run (machine : Machine) (words : List String) :
    Course machine.logging words (run machine words).status := by
  have hstatus : (run machine words).status = (runWords machine.logging words).status := by
    unfold run Machine.logging
    dsimp only
    split
    · rfl
    · rfl
  rw [hstatus]
  exact course_runWords machine.logging words

/-- The usage of the program has been asked for. -/
def UsageAsked (words : List String) : Prop :=
  ∃ line, CommandLine.parse words = .ok line ∧ line.showUsage = true

/-- The server of a command line has run its command. -/
def Ran (machine : Machine) (words : List String) (outcome : Outcome) : Prop :=
  ∃ line url, CommandLine.parse words = .ok line ∧ line.showUsage = false ∧
    machine.address? line = some url ∧ machine.conversation line url = .ok outcome

variable {machine : Machine} {words : List String} {outcome other : Outcome}

theorem Ran.unique (h : Ran machine words outcome) (h' : Ran machine words other) :
    outcome = other := by
  obtain ⟨line, url, hread, -, haddress, hsuccess⟩ := h
  obtain ⟨line', url', hread', -, haddress', hsuccess'⟩ := h'
  obtain rfl : line = line' := Except.ok.inj (hread.symm.trans hread')
  obtain rfl : url = url' := Option.some.inj (haddress.symm.trans haddress')
  exact Except.ok.inj (hsuccess.symm.trans hsuccess')

theorem Ran.not_usageAsked (h : Ran machine words outcome) : ¬ UsageAsked words := by
  rintro ⟨line, hread, hasked⟩
  obtain ⟨line', -, hread', hunasked, -⟩ := h
  obtain rfl : line = line' := Except.ok.inj (hread.symm.trans hread')
  rw [hasked] at hunasked
  cases hunasked

/-- A run of the program comes to one thing only. -/
theorem Course.unique {status status' : Nat} (h : Course machine words status)
    (h' : Course machine words status') : status = status' := by
  cases h <;> cases h' <;> simp_all

/-- The status of a command that has run is the low byte of its exit code. -/
theorem status_of_ran (h : Ran machine.logging words outcome) :
    (run machine words).status = (outcome.exitCode.toInt % 256).toNat := by
  obtain ⟨line, url, hread, hunasked, haddress, hsuccess⟩ := h
  exact (course_run machine words).unique
    (.ran line url outcome hread hunasked haddress hsuccess)

/-- An exit code that fits into a byte is the status. -/
theorem status_of_byte (h : Ran machine.logging words outcome)
    (hnonneg : 0 ≤ outcome.exitCode.toInt) (hbyte : outcome.exitCode.toInt < 256) :
    ((run machine words).status : Int) = outcome.exitCode.toInt := by
  rw [status_of_ran h, Int.emod_eq_of_lt hnonneg hbyte, Int.toNat_of_nonneg hnonneg]

theorem toNat_emod_byte_eq_zero_iff {code : Int} : (code % 256).toNat = 0 ↔ 256 ∣ code := by
  omega

/-- **When the status is zero**: the usage has been asked for, or the command has ended with a
multiple of 256. -/
theorem status_eq_zero_iff (machine : Machine) (words : List String) :
    (run machine words).status = 0 ↔ UsageAsked words ∨
      ∃ outcome, Ran machine.logging words outcome ∧ (256 : Int) ∣ outcome.exitCode.toInt := by
  constructor
  · intro hzero
    generalize hstatus : (run machine words).status = status at hzero
    cases hstatus ▸ course_run machine words with
    | explained line read asked => exact .inl ⟨line, read, asked⟩
    | ran line url outcome read unasked address success =>
      exact .inr ⟨outcome, ⟨line, url, read, unasked, address, success⟩,
        toNat_emod_byte_eq_zero_iff.mp hzero⟩
    | _ => cases hzero
  · rintro (⟨line, hread, hasked⟩ | ⟨outcome, hran, hdvd⟩)
    · exact (course_run machine words).unique (.explained line hread hasked)
    · rw [status_of_ran hran]
      exact toNat_emod_byte_eq_zero_iff.mpr hdvd

/-- **When no failure is hidden**: the status is zero only for the usage and for a success, exactly
if the command has not ended with a multiple of 256 other than zero. -/
theorem no_failure_hidden_iff (machine : Machine) (words : List String) :
    ((run machine words).status = 0 → UsageAsked words ∨
      ∃ outcome, Ran machine.logging words outcome ∧ outcome.exitCode = 0) ↔
    ∀ outcome, Ran machine.logging words outcome → (256 : Int) ∣ outcome.exitCode.toInt →
      outcome.exitCode = 0 := by
  rw [status_eq_zero_iff]
  constructor
  · intro h outcome hran hdvd
    rcases h (.inr ⟨outcome, hran, hdvd⟩) with hasked | ⟨other, hother, hzero⟩
    · exact absurd hasked hran.not_usageAsked
    · rwa [hran.unique hother]
  · rintro h (hasked | ⟨outcome, hran, hdvd⟩)
    · exact .inl hasked
    · exact .inr ⟨outcome, hran, h outcome hran hdvd⟩

/-! ## A failure that looks like a success -/

/-- What a client hears of a server that runs a command, and of the closing of the channel. -/
def heardOf (outcome : Outcome) : List (Heard ClientState) :=
  [.found (some (.ok (EntryPoint.toJson ⟨1, "1", []⟩))), .reply (.ok (.outcome outcome)), .done]

/-- A network with one server, on which a command has an outcome. -/
def networkOf (outcome : Outcome) : Network where
  head _ := some []
  dial _ := .error .connectionRefused
  tunnel _ := some (200, {
    kind := .tunneled
    converse := fun _ state routine =>
      match Routine.follow routine (heardOf outcome) with
      | some (.done result) => (state, result)
      | _ => (state, .error (.channel .closed)) })

/-- A machine on that network. -/
def machineOf (outcome : Outcome) : Machine :=
  ⟨Table.empty, none, ⟨.empty, [], []⟩, networkOf outcome⟩

/-- A command that ends with 256 has failed, and the status is that of a success. -/
theorem exists_failure_with_status_zero : ∃ machine words outcome,
    Ran (Machine.logging machine) words outcome ∧ outcome.exitCode ≠ 0 ∧ ¬ UsageAsked words ∧
      (run machine words).status = 0 := by
  have hread : CommandLine.parse ["-s", "http://localhost:8080", "big"] =
      .ok ⟨some "http://localhost:8080", .none, ["big"], false⟩ := by decide +kernel
  have hran : Ran (machineOf ⟨256, "", ""⟩).logging ["-s", "http://localhost:8080", "big"]
      ⟨256, "", ""⟩ := by
    refine ⟨_, _, hread, rfl, rfl, ?_⟩
    decide +kernel
  refine ⟨_, _, _, hran, by decide, hran.not_usageAsked, ?_⟩
  rw [status_of_ran hran]
  rfl

end Client

end CommandLink
