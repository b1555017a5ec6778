import CommandLink.Proofs.Server.Execution
import CommandLink.Proofs.Text.Order
import Mathlib.Data.List.Induction
import Mathlib.Data.String.Basic

/-!
# Finding commands

A server registers commands on top of the built-in ones, and a later one takes the place of an
earlier one of its name (`get?_registered`). Its clients find out in several ways which commands
there are: they read what it publishes, ask for a name, run `help`, or just execute. All the answers
come from one table, in which every command is under its own name, so they agree
(`discovery_agrees`).

The lines of `help` are laid out by a width in bytes and filled up by characters. A name has no more
characters than bytes (`length_le_utf8ByteSize`), so it fits, and the descriptions start in one
column whatever the names are made of (`describes_lineAbout`).
-/

namespace CommandLink.Server

variable {ρ : Type}

/-! ## Registrations -/

/-- The commands of a server that registers some on top of the built-in ones. -/
def registered (added : List (Command ρ)) : Registry ρ := added.foldl Registry.register builtins

/-- All that such a server registers, in order. -/
def registrations (added : List (Command ρ)) : List (Command ρ) :=
  [help, whoAmI, version, login, logout] ++ added

/-- The last registration under a name. -/
def latest? (history : List (Command ρ)) (name : String) : Option (Command ρ) :=
  (history.filter fun c => c.name = name).getLast?

theorem name_of_latest? {history : List (Command ρ)} {name : String} {c : Command ρ}
    (h : latest? history name = some c) : c.name = name := by
  simpa using List.of_mem_filter (List.mem_of_getLast? h)

theorem get?_foldl_register (history : List (Command ρ)) (name : String) :
    (history.foldl Registry.register TextMap.empty).get? name = latest? history name := by
  induction history using List.reverseRecOn with
  | nil => rfl
  | append_singleton history c ih =>
    rw [List.foldl_append, List.foldl_cons, List.foldl_nil, Registry.register,
      TextMap.get?_insert, ih, latest?, latest?, List.filter_append, List.getLast?_append]
    by_cases h : name = c.name
    · simp [h]
    · simp [h, Ne.symm h]

/-- A server has the command that was registered last under a name. -/
theorem get?_registered (added : List (Command ρ)) (name : String) :
    (registered added).get? name = latest? (registrations added) name := by
  rw [registered, builtins, ← List.foldl_append]
  exact get?_foldl_register _ name

/-- Every command is under its own name. -/
theorem name_of_mem_entries {added : List (Command ρ)} {e : String × Command ρ}
    (he : e ∈ (registered added).entries) : e.2.name = e.1 :=
  name_of_latest? ((get?_registered added e.1).symm.trans (TextMap.get?_eq_some_iff.mpr he))

/-! ## What is listed -/

theorem map_name_infos (added : List (Command ρ)) :
    (registered added).infos.map CommandInfo.name = (registered added).keys := by
  rw [Registry.infos, List.map_map, TextMap.keys]
  exact List.map_congr_left fun e he => name_of_mem_entries he

theorem sorted_infos (added : List (Command ρ)) :
    (registered added).infos.Pairwise fun a b =>
      Text.Utf8.ofString a.name < Text.Utf8.ofString b.name := by
  rw [Registry.infos, List.pairwise_map]
  refine (registered added).sorted.imp_of_mem fun {a b} ha hb hlt => ?_
  rw [Command.info, Command.info, name_of_mem_entries ha, name_of_mem_entries hb]
  exact Text.Utf8.ofString_lt hlt

theorem mem_infos {added : List (Command ρ)} {info : CommandInfo} :
    info ∈ (registered added).infos ↔
      (latest? (registrations added) info.name).map Command.info = some info := by
  rw [← get?_registered, Registry.infos, List.mem_map, Option.map_eq_some_iff]
  constructor
  · rintro ⟨e, he, rfl⟩
    refine ⟨e.2, TextMap.get?_eq_some_iff.mpr ?_, rfl⟩
    rw [Command.info, name_of_mem_entries he]
    exact he
  · rintro ⟨c, hc, hinfo⟩
    exact ⟨(info.name, c), TextMap.get?_eq_some_iff.mp hc, hinfo⟩

/-- A name occurs exactly once in what a server publishes. -/
def ListedOnce (profile : Profile) (commands : Registry ρ) (name : String) : Prop :=
  ((entryPoint profile commands).commands.map CommandInfo.name).count name = 1

instance (profile : Profile) (commands : Registry ρ) (name : String) :
    Decidable (ListedOnce profile commands name) := inferInstanceAs (Decidable (_ = _))

theorem listedOnce_iff {profile : Profile} {added : List (Command ρ)} {name : String} :
    ListedOnce profile (registered added) name ↔ (registered added).contains name = true := by
  rw [ListedOnce, entryPoint, map_name_infos, (TextMap.nodup_keys _).count, TextMap.contains_iff]
  simp

/-! ## Execution -/

section Execution

variable (profile : Profile) (commands : Registry ρ) (connection : String)
  (invocation : Invocation)

/-- An execution goes on to authentication: it resolves the principal of the request, whatever it
does then. -/
def Authenticates : Prop :=
  ∃ next : Except AuthError Principal → Routine Auth.Knowledge ρ (Option Outcome),
    execute profile commands connection invocation = (do
      Routine.log (.span invocation.commandName connection)
      let resolved ← resolve profile ⟨invocation.credentials, profile.rootUrl⟩
      next resolved)

/-- An execution answers that there is no such command, without asking anything. -/
def AnswersUnknown : Prop :=
  execute profile commands connection invocation = (do
    Routine.log (.span invocation.commandName connection)
    return some (unknownCommand invocation.commandName))

end Execution

section Execution

variable {profile : Profile} {commands : Registry ρ} {connection : String}
  {invocation : Invocation}

theorem asks_answerQuestion (q : Auth.Question) :
    ∃ op next, (answerQuestion q : Routine Auth.Knowledge ρ _) = .ask op next := by
  cases q <;> exact ⟨_, _, rfl⟩

/-- Nobody is authenticated without a question: there is one about the password, or, without a user
name, about the token that the client keeps. -/
theorem asks_standard (sessions : SessionTokens) (tokens : BuildScopeTokens)
    (request : Auth.Request) :
    ∃ q next, Auth.resolve (Auth.standard sessions tokens) request = .ask q next := by
  obtain ⟨⟨username, password, passwordFile⟩, url⟩ := request
  rcases username with _ | user
  · exact ⟨_, _, rfl⟩
  · rcases passwordFile with _ | path
    · rcases password with _ | given
      · exact ⟨_, _, rfl⟩
      · exact ⟨_, _, rfl⟩
    · exact ⟨_, _, rfl⟩

theorem asks_resolve (profile : Profile) (request : Auth.Request) :
    ∃ op next, (resolve profile request : Routine Auth.Knowledge ρ _) = .ask op next := by
  obtain ⟨q, next, hresolve⟩ := asks_standard profile.sessions profile.tokens request
  obtain ⟨op, heard, hq⟩ := asks_answerQuestion (ρ := ρ) q
  rw [resolve, hresolve, Dialogue.interpret, hq]
  exact ⟨_, _, rfl⟩

theorem authenticates_of_get? {command : Command ρ}
    (h : commands.get? invocation.commandName = some command) :
    Authenticates profile commands connection invocation := by
  rw [Authenticates, execute, h]
  exact ⟨_, rfl⟩

theorem answersUnknown_of_get? (h : commands.get? invocation.commandName = none) :
    AnswersUnknown profile commands connection invocation := by
  rw [AnswersUnknown, execute, h]

theorem not_authenticates (h : AnswersUnknown profile commands connection invocation) :
    ¬ Authenticates profile commands connection invocation := by
  rintro ⟨next, hnext⟩
  obtain ⟨op, heard, hresolve⟩ :=
    asks_resolve (ρ := ρ) profile ⟨invocation.credentials, profile.rootUrl⟩
  rw [h, hresolve] at hnext
  -- behind the entry in the log, the one has ended and the other asks
  injection hnext with _ hlater
  cases congrFun hlater ()

theorem authenticates_iff : Authenticates profile commands connection invocation ↔
    commands.contains invocation.commandName = true := by
  rw [TextMap.contains]
  rcases h : commands.get? invocation.commandName with _ | command
  · simpa using not_authenticates (answersUnknown_of_get? h)
  · simpa using authenticates_of_get? h

theorem answersUnknown_iff : AnswersUnknown profile commands connection invocation ↔
    ¬ commands.contains invocation.commandName = true := by
  rw [← authenticates_iff]
  refine ⟨not_authenticates, fun h => answersUnknown_of_get? ?_⟩
  rw [authenticates_iff, TextMap.contains] at h
  simpa using h

/-- A body that only returns an outcome is all that is left once there is a principal. -/
theorem result_execution_of_return {known : Auth.Knowledge} {replies : Replies}
    {command : Command ρ} {principal : Principal} {outcome : Outcome}
    (hcommand : commands.get? invocation.commandName = some command)
    (hresolved : (resolution profile known invocation replies : Solo ρ _).result =
      some (.ok principal))
    (hrun : command.run ⟨invocation.args.drop 1, principal, profile, commands.infos⟩ =
      return some outcome) :
    (execution profile commands connection known invocation replies).result =
      some (some outcome) := by
  rw [execution_known hcommand, Solo.bind, hresolved]
  dsimp only
  rw [afterResolution, hrun]
  rfl

end Execution

/-! ## Help -/

/-- Help with a name succeeds where there is a command of the name. -/
theorem help_run_name {ctx : Context} {name : String} {more : List String}
    (h : ctx.args = name :: more) :
    ∃ outcome, (help : Command ρ).run ctx = (return some outcome) ∧
      (outcome.exitCode = 0 ↔ name ∈ ctx.commands.map CommandInfo.name) := by
  rw [help]
  rcases hfind : ctx.commands.find? fun c => c.name = name with _ | c
  · simp only [h, hfind]
    refine ⟨_, rfl, iff_of_false (by decide : ¬ (-1 : Int32) = 0) ?_⟩
    simpa using hfind
  · simp only [h, hfind]
    refine ⟨_, rfl, iff_of_true rfl ?_⟩
    have hname : c.name = name := by simpa using List.find?_some hfind
    exact List.mem_map.mpr ⟨c, List.mem_of_find?_eq_some hfind, hname⟩

theorem help_run_nil {ctx : Context} (h : ctx.args = []) :
    (help : Command ρ).run ctx = (return some ⟨0, listing ctx.commands, ""⟩) := by
  rw [help]
  simp only [h]
  rfl

/-- Help is not replaced by commands of other names. -/
theorem get?_registered_help {added : List (Command ρ)} (h : ∀ c ∈ added, c.name ≠ "help") :
    (registered added).get? "help" = some help := by
  have hnone : (added.filter fun c => c.name = "help") = [] := by simpa using h
  rw [get?_registered, latest?, registrations, List.filter_append, hnone, List.append_nil]
  rfl

/-! ### Lines -/

/-- A line about a command: its name, behind a margin, and from a column on its description. -/
def Describes (column : ℕ) (info : CommandInfo) (line : List Char) : Prop :=
  ∃ blanks, line = "  ".toList ++ info.name.toList ++ List.replicate blanks ' ' ++
      info.description.toList ∧ 2 + info.name.length + blanks = column

/-- A command whose name and description stay on one line. -/
def OneLine (info : CommandInfo) : Prop :=
  '\n' ∉ info.name.toList ∧ '\n' ∉ info.description.toList

instance (info : CommandInfo) : Decidable (OneLine info) := inferInstanceAs (Decidable (_ ∧ _))

/-- A line of a listing with names of some width. -/
def lineAbout (width : ℕ) (info : CommandInfo) : List Char :=
  "  ".toList ++ (padded width info.name).toList ++ "  ".toList ++ info.description.toList

theorem length_le_utf8ByteSize (s : String) : s.length ≤ s.utf8ByteSize := by
  have hchars (cs : List Char) : cs.length ≤ String.utf8Len cs := by
    induction cs with
    | nil => exact Nat.zero_le _
    | cons c cs ih =>
      rw [String.utf8Len_cons, List.length_cons]
      exact Nat.add_le_add ih c.utf8Size_pos
  simpa [String.length_toList] using hchars s.toList

/-- A listing is made of lines that are wide enough for every name. -/
theorem toList_listing (commands : List CommandInfo) :
    ∃ width, (∀ info ∈ commands, info.name.length ≤ width) ∧
      (listing commands).toList = (commands.map (lineAbout width)).flatMap (· ++ ['\n']) := by
  refine ⟨(commands.map fun c => c.name.utf8ByteSize).foldl max 0, fun info hinfo => ?_, ?_⟩
  -- the width is that of the name with the most bytes
  · have hmem : info.name.utf8ByteSize ∈ commands.map fun c => c.name.utf8ByteSize :=
      List.mem_map.mpr ⟨info, hinfo, rfl⟩
    rw [List.foldl_max]
    exact (length_le_utf8ByteSize info.name).trans
      ((List.le_max?_getD_of_mem hmem).trans (Nat.le_max_right _ _))
  · simp only [listing, String.toList_join, List.flatMap_map, String.toList_append, lineAbout]
    rfl

theorem describes_lineAbout {width : ℕ} {info : CommandInfo} (h : info.name.length ≤ width) :
    Describes (width + 4) info (lineAbout width info) := by
  refine ⟨width - info.name.length + 2, ?_, by omega⟩
  simp [lineAbout, padded, List.replicate_add]

theorem not_mem_lineAbout {width : ℕ} {info : CommandInfo} (h : OneLine info) :
    '\n' ∉ lineAbout width info := by
  simp [lineAbout, padded, h.1, h.2]

theorem splitOn_lines {lines : List (List Char)} (h : ∀ l ∈ lines, '\n' ∉ l) :
    Text.splitOn '\n' (lines.flatMap (· ++ ['\n'])) = lines ++ [[]] := by
  induction lines with
  | nil => rfl
  | cons l lines ih =>
    rw [List.flatMap_cons, List.append_assoc, List.singleton_append,
      Text.splitOn_append (h l List.mem_cons_self), ih fun l hl => h l (List.mem_cons_of_mem _ hl)]
    rfl

/-- **A listing has one line about each command, in order, with all descriptions in one column.** -/
theorem lines_listing {commands : List CommandInfo} (h : ∀ info ∈ commands, OneLine info) :
    ∃ lines column, Text.splitOn '\n' (listing commands).toList = lines ++ [[]] ∧
      List.Forall₂ (Describes column) commands lines := by
  obtain ⟨width, hwidth, hlisting⟩ := toList_listing commands
  refine ⟨commands.map (lineAbout width), width + 4, ?_, ?_⟩
  · rw [hlisting]
    refine splitOn_lines fun l hl => ?_
    obtain ⟨info, hinfo, rfl⟩ := List.mem_map.mp hl
    exact not_mem_lineAbout (h info hinfo)
  · rw [List.forall₂_map_right_iff, List.forall₂_same]
    exact fun info hinfo => describes_lineAbout (hwidth info hinfo)

example : listing [⟨"größe", "Tells the size."⟩, ⟨"version", "Tells the version."⟩] =
    "  größe    Tells the size.\n  version  Tells the version.\n" := by decide

/-! ## The ways to find a command -/

theorem oneLine_builtins :
    ∀ c ∈ [help, whoAmI, version, login, logout], OneLine (Command.info (ρ := ρ) c) := by
  simp [OneLine, Command.info, help, whoAmI, version, login, logout]

theorem oneLine_infos {added : List (Command ρ)} (h : ∀ c ∈ added, OneLine c.info)
    {info : CommandInfo} (hinfo : info ∈ (registered added).infos) : OneLine info := by
  obtain ⟨c, hc, rfl⟩ := Option.map_eq_some_iff.mp (mem_infos.mp hinfo)
  rcases List.mem_append.mp (List.mem_of_mem_filter (List.mem_of_getLast? hc)) with hc | hc
  · exact oneLine_builtins c hc
  · exact h c hc

/-- All the ways to find a command give one answer for a name. -/
structure FoundAlike (profile : Profile) (commands : Registry ρ) (connection name : String) :
    Prop where
  /-- Asking for a command by its name answers whether the name is listed. -/
  flag : handler profile commands connection (.hasCommand name) =
    (return .answered (.ok (.flag (decide (ListedOnce profile commands name)))))
  /-- Help about the name, on behalf of anybody, succeeds if the name is listed, and only then. -/
  help : ∀ known invocation replies principal more, invocation.args = "help" :: name :: more →
    (resolution profile known invocation replies : Solo ρ _).result = some (.ok principal) →
    ∃ outcome, (execution profile commands connection known invocation replies).result =
        some (some outcome) ∧
      (outcome.exitCode = 0 ↔ ListedOnce profile commands name)
  /-- To execute the name goes on to authentication if the name is listed, and only then. -/
  authenticates : ∀ invocation : Invocation, invocation.commandName = name →
    (Authenticates profile commands connection invocation ↔ ListedOnce profile commands name)
  /-- To execute the name is answered by `unknownCommand` if it is not listed, and only then. -/
  unknown : ∀ invocation : Invocation, invocation.commandName = name →
    (AnswersUnknown profile commands connection invocation ↔ ¬ ListedOnce profile commands name)

theorem foundAlike_registered (profile : Profile) (connection : String)
    {added : List (Command ρ)} (h : ∀ c ∈ added, c.name ≠ "help") (name : String) :
    FoundAlike profile (registered added) connection name where
  flag := by
    rw [handler]
    simp only [listedOnce_iff, Bool.decide_eq_true]
  help known invocation replies principal more hargs hresolved := by
    have hname : (registered added).get? invocation.commandName = some Server.help := by
      rw [Invocation.commandName, hargs]
      exact get?_registered_help h
    have hdrop : invocation.args.drop 1 = name :: more := by
      rw [hargs]
      rfl
    let ctx : Context :=
      ⟨invocation.args.drop 1, principal, profile, (registered added).infos⟩
    obtain ⟨outcome, hrun, hcode⟩ := help_run_name (ρ := ρ) (show ctx.args = name :: more from hdrop)
    refine ⟨outcome, result_execution_of_return hname hresolved hrun, ?_⟩
    rw [hcode, listedOnce_iff, TextMap.contains_iff, ← map_name_infos]
  authenticates invocation hname := by
    rw [authenticates_iff, listedOnce_iff, hname]
  unknown invocation hname := by
    rw [answersUnknown_iff, listedOnce_iff, hname]

/-- **All the ways to find a command agree**, on a server that has registered commands on top of the
built-in ones, none of them in the place of `help`, with names and descriptions that stay on one
line. What it lists is strictly sorted by the bytes of the names, and each name has the description
of its last registration. Help by itself prints one line about each command that is listed, in
order, and the descriptions all start in one column. -/
theorem discovery_agrees (profile : Profile) (connection : String) {added : List (Command ρ)}
    (hhelp : ∀ c ∈ added, c.name ≠ "help") (hlines : ∀ c ∈ added, OneLine c.info) :
    let listed := (entryPoint profile (registered added)).commands
    (∀ name, FoundAlike profile (registered added) connection name) ∧
    (listed.Pairwise fun a b => Text.Utf8.ofString a.name < Text.Utf8.ofString b.name) ∧
    (∀ info, info ∈ listed ↔
      (latest? (registrations added) info.name).map Command.info = some info) ∧
    ∀ known invocation replies principal, invocation.args = ["help"] ∨ invocation.args = [] →
      (resolution profile known invocation replies : Solo ρ _).result = some (.ok principal) →
      ∃ stdout, (execution profile (registered added) connection known invocation replies).result =
          some (some ⟨0, stdout, ""⟩) ∧
        ∃ lines column, Text.splitOn '\n' stdout.toList = lines ++ [[]] ∧
          List.Forall₂ (Describes column) listed lines := by
  intro listed
  refine ⟨foundAlike_registered profile connection hhelp, sorted_infos added,
    fun info => mem_infos, fun known invocation replies principal hargs hresolved => ?_⟩
  have hname : (registered added).get? invocation.commandName = some help := by
    rcases hargs with hargs | hargs <;> rw [Invocation.commandName, hargs] <;>
      exact get?_registered_help hhelp
  have hdrop : invocation.args.drop 1 = [] := by
    rcases hargs with hargs | hargs <;> rw [hargs] <;> rfl
  exact ⟨listing (registered added).infos,
    result_execution_of_return hname hresolved (help_run_nil hdrop),
    lines_listing fun info hinfo => oneLine_infos hlines hinfo⟩

/-- A server that nobody has an account on. -/
def openProfile : Profile :=
  ⟨"https://relay.example", "1.0", ⟨⟨⟨"key"⟩⟩, Duration.seconds 60⟩, ⟨⟨⟨"key"⟩⟩⟩⟩

/-- A command with a name of more bytes than characters, and another in the place of `version`. -/
def measuring : List (Command Unit) :=
  [⟨"größe", "Tells the size.", fun _ => return some ⟨0, "3\n", ""⟩⟩,
    ⟨"version", "Tells the version at length.", fun _ => return some ⟨0, "1.0.0\n", ""⟩⟩]

theorem discovery_agrees_measuring :
    handler openProfile (registered measuring) "c-1" (.hasCommand "größe") =
      (return .answered (.ok (.flag true))) ∧
    Authenticates openProfile (registered measuring) "c-1" ⟨["größe"], .none⟩ ∧
    AnswersUnknown openProfile (registered measuring) "c-1" ⟨["grösse"], .none⟩ ∧
    (∃ outcome, (execution openProfile (registered measuring) "c-1"
        ⟨Table.empty, Table.empty, .ofSeconds 0⟩ ⟨["help", "größe"], .none⟩
        [.ok (.text none), .ok (.text none)]).result = some (some outcome) ∧
      outcome.exitCode = 0) ∧
    ⟨"version", "Tells the version at length."⟩ ∈
      (entryPoint openProfile (registered measuring)).commands := by
  have hhelp : ∀ c ∈ measuring, c.name ≠ "help" := by decide
  have hlines : ∀ c ∈ measuring, OneLine c.info := by decide
  obtain ⟨hfound, -, hlisted, -⟩ := discovery_agrees openProfile "c-1" hhelp hlines
  have hsize : ListedOnce openProfile (registered measuring) "größe" := by decide
  have hnone : ¬ ListedOnce openProfile (registered measuring) "grösse" := by decide
  obtain ⟨outcome, hresult, hcode⟩ := (hfound "größe").help
    ⟨Table.empty, Table.empty, .ofSeconds 0⟩ ⟨["help", "größe"], .none⟩
    [.ok (.text none), .ok (.text none)] .anonymous [] rfl rfl
  refine ⟨(hfound "größe").flag.trans ?_, ((hfound "größe").authenticates _ rfl).mpr hsize,
    ((hfound "grösse").unknown _ rfl).mpr hnone, ⟨outcome, hresult, hcode.mpr hsize⟩,
    (hlisted _).mpr rfl⟩
  rw [decide_eq_true hsize]

end CommandLink.Server
