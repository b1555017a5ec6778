import CommandLink.Proofs.Token.Validity
import CommandLink.Token.BuildScope
import Mathlib.Data.List.Induction

/-!
# Build-scope tokens and the runs they name

A build-scope token is good exactly while the run that it names is going on. After a history of what
has happened to runs, that is if the last of it that is about the run is its start (`state?_after`,
`validate_after_names`). A token that is accepted as a build-scope token is refused as a session
token at every time, and the other way round: the two read the same field as an expiry, and one asks
for the value that the other does not allow. All of this is `follows_history`.
-/

namespace CommandLink

/-! ## Histories of runs -/

/-- What happens to a run. -/
inductive RunChange where
  | schedule
  | begin
  | finish
  | remove
  deriving DecidableEq, Repr

/-- The state in which a change leaves a run that is known after it. -/
def RunChange.state? : RunChange → Option RunState
  | .schedule => some .pending
  | .begin => some .executing
  | .finish => some .finished
  | .remove => none

namespace Runs

/-- The runs after a change of one of them. -/
def change (runs : Runs) (run : String) : RunChange → Runs
  | .schedule => runs.schedule run
  | .begin => runs.begin run
  | .finish => runs.finish run
  | .remove => (runs.remove run).1

/-- The runs after a history. At first no run is known. -/
def after (history : List (String × RunChange)) : Runs :=
  history.foldl (fun runs event => runs.change event.1 event.2) .empty

/-- The last of a history that is about a run. -/
def last? (history : List (String × RunChange)) (run : String) : Option RunChange :=
  ((history.filter (·.1 = run)).getLast?).map Prod.snd

theorem last?_concat (history : List (String × RunChange)) (event : String × RunChange)
    (run : String) :
    last? (history ++ [event]) run = if event.1 = run then some event.2 else last? history run := by
  by_cases h : event.1 = run
  · simp [last?, h]
  · simp [last?, h]

theorem state?_change (runs : Runs) (run other : String) (change : RunChange) :
    (runs.change run change).state? other =
      if run = other then change.state? else runs.state? other := by
  cases change
  all_goals
    simp only [Runs.change, schedule, begin, finish, remove, state?, Table.get?_insert,
      Table.get?_erase, eq_comm, RunChange.state?]

/-- **The state of a run** is that in which its last change has left it. -/
theorem state?_after (history : List (String × RunChange)) (run : String) :
    (after history).state? run = (last? history run).bind RunChange.state? := by
  induction history using List.reverseRecOn with
  | nil => rfl
  | append_singleton history event ih =>
    have hafter : after (history ++ [event]) = (after history).change event.1 event.2 :=
      List.foldl_concat ..
    rw [hafter, state?_change, ih, last?_concat]
    split_ifs
    · rfl
    · rfl

theorem isExecuting_after (history : List (String × RunChange)) (run : String) :
    (after history).isExecuting run = true ↔ last? history run = some .begin := by
  rw [isExecuting, state?_after, decide_eq_true_eq]
  rcases last? history run with _ | change
  · simp
  · cases change <;> simp [RunChange.state?]

end Runs

/-! ## Tokens -/

namespace BuildScopeTokens

variable {tokens : BuildScopeTokens} {token run : String}

/-- What it takes for a token to be accepted. -/
theorem verifiedRun_eq_ok_iff : tokens.verifiedRun token = .ok run ↔
    ∃ field, tokens.codec.decode token 2 = .ok [run, field] ∧
      parseExpiry field = .ok unboundedExpiry := by
  unfold verifiedRun
  rcases tokens.codec.decode token 2 with e | fields
  · simp [bind, Except.bind]
  · simp only [bind, Except.bind]
    split
    · rename_i run' field
      rcases hp : parseExpiry field with e | expiry
      · simp [hp]
      · by_cases he : expiry = unboundedExpiry
        · simp [he, pure, Except.pure, hp]
        · simp [he, hp, throw, throwThe, MonadExceptOf.throw]
    · rename_i hne
      simp only [throw, throwThe, MonadExceptOf.throw, reduceCtorEq, Except.ok.injEq, false_iff,
        not_exists, not_and]
      exact fun field h => absurd h (hne run field)

/-- A token is the token of a run, with some spelling of the expiry that stands for none. -/
def Names (tokens : BuildScopeTokens) (token run : String) : Prop :=
  ∃ field, tokens.codec.encode [run, field] = .ok token ∧ parseExpiry field = .ok unboundedExpiry

/-- The tokens of runs are those that are accepted. -/
theorem verifiedRun_eq_ok_iff_names : tokens.verifiedRun token = .ok run ↔ tokens.Names token run := by
  rw [verifiedRun_eq_ok_iff, Names]
  apply exists_congr
  intro field
  rw [TokenCodec.decode_eq_ok_iff, TokenCodec.encode_eq_ok_iff]
  simp

theorem Names.unique {other : String} (h : tokens.Names token run)
    (h' : tokens.Names token other) : run = other := by
  rw [← verifiedRun_eq_ok_iff_names] at h h'
  rw [h, Except.ok.injEq] at h'
  exact h'

/-- What becomes of a token depends on the runs only through the one that it names. -/
theorem validate_after_names (h : tokens.Names token run) (runs : Runs) :
    tokens.validate runs token = .ok (runs.isExecuting run) := by
  rw [validate, verifiedRun_eq_ok_iff_names.mpr h]
  rfl

theorem validate_eq_error {error : TokenError} (h : tokens.verifiedRun token = .error error)
    (runs : Runs) : tokens.validate runs token = .error error := by
  rw [validate, h]
  rfl

theorem exists_names_of_validate {runs : Runs} {good : Bool}
    (h : tokens.validate runs token = .ok good) :
    ∃ run, tokens.Names token run ∧ good = runs.isExecuting run := by
  rcases hv : tokens.verifiedRun token with error | run
  · rw [validate_eq_error hv] at h
    cases h
  · have hnames := verifiedRun_eq_ok_iff_names.mp hv
    rw [validate_after_names hnames, Except.ok.injEq] at h
    exact ⟨run, hnames, h.symm⟩

/-! ## Issuing -/

theorem issue_eq_ok_iff : tokens.issue run = .ok token ↔
    run ≠ "" ∧ tokens.codec.encode [run, Text.decimal unboundedExpiry] = .ok token := by
  unfold issue
  split_ifs with hempty
  · simp [hempty]
  · simp [hempty]

theorem parseExpiry_unbounded : parseExpiry (Text.decimal unboundedExpiry) = .ok unboundedExpiry := by
  rw [parseExpiry, Text.int64?_decimal (by decide) (by decide)]

theorem names_of_issue (h : tokens.issue run = .ok token) : tokens.Names token run :=
  ⟨_, (issue_eq_ok_iff.mp h).2, parseExpiry_unbounded⟩

/-- A token is issued for every run that has an identifier without a colon. -/
theorem exists_issue_iff : (∃ token, tokens.issue run = .ok token) ↔
    run ≠ "" ∧ ':' ∉ run.toList := by
  constructor
  · rintro ⟨token, hi⟩
    obtain ⟨hne, hencode⟩ := issue_eq_ok_iff.mp hi
    obtain ⟨-, hplain, -⟩ := (TokenCodec.encode_eq_ok_iff _).mp hencode
    exact ⟨hne, hplain run (by simp)⟩
  · rintro ⟨hne, hcolon⟩
    let fields := [run, Text.decimal unboundedExpiry]
    have hplain : TokenCodec.Plain fields := by
      intro field hfield
      rcases List.mem_pair.mp hfield with rfl | rfl
      · exact hcolon
      · exact SessionTokens.colon_not_mem_decimal _
    refine ⟨String.ofList (TokenCodec.join (TokenCodec.chars fields)
      (tokens.codec.sign (TokenCodec.chars fields))), issue_eq_ok_iff.mpr ⟨hne, ?_⟩⟩
    exact (TokenCodec.encode_eq_ok_iff _).mpr ⟨by simp, hplain, String.toList_ofList⟩

/-! ## The two kinds of tokens -/

/-- A token of a run is no session token. -/
theorem verifyAt_of_names (h : tokens.Names token run) (lifetime : Duration) (now : Instant) :
    (SessionTokens.mk tokens.codec lifetime).verifyAt token now =
      .error (.malformed .withoutExpiry) := by
  obtain ⟨field, hdecode, hparse⟩ := verifiedRun_eq_ok_iff.mp (verifiedRun_eq_ok_iff_names.mpr h)
  have hdecode' : (SessionTokens.mk tokens.codec lifetime).codec.decode token 2 =
      .ok [run, field] := hdecode
  rw [SessionTokens.verifyAt_of_decode hdecode' hparse, SessionTokens.judged, if_pos rfl]

/-- A session token names no run. -/
theorem verifiedRun_of_verifyAt {lifetime : Duration} {claims : SessionClaims} {now : Instant}
    (h : (SessionTokens.mk tokens.codec lifetime).verifyAt token now = .ok claims) :
    tokens.verifiedRun token = .error (.malformed .timedRun) := by
  obtain ⟨field, expiry, hdecode, hparse, hbounded⟩ := SessionTokens.exists_expiry_of_verifyAt h
  simp only [verifiedRun, hdecode, hparse, bind, Except.bind, ne_eq, hbounded, not_false_eq_true,
    if_true, throw, throwThe, MonadExceptOf.throw]

/-- **Build-scope tokens follow the history of their runs**, and never act as session tokens. -/
theorem follows_history (tokens : BuildScopeTokens) :
    -- the token of a run that is going on, and of one that is not
    (∀ history token, tokens.validate (Runs.after history) token = .ok true ↔
      ∃ run, tokens.Names token run ∧ Runs.last? history run = some .begin) ∧
    (∀ history token, tokens.validate (Runs.after history) token = .ok false ↔
      ∃ run, tokens.Names token run ∧ Runs.last? history run ≠ some .begin) ∧
    -- any other token
    (∀ token, (¬ ∃ run, tokens.Names token run) →
      ∃ error, ∀ history, tokens.validate (Runs.after history) token = .error error) ∧
    -- what is issued
    (∀ run, (∃ token, tokens.issue run = .ok token) ↔ run ≠ "" ∧ ':' ∉ run.toList) ∧
    (∀ run token, tokens.issue run = .ok token →
      tokens.Names token run ∧ tokens.verifiedRun token = .ok run) ∧
    -- either kind of tokens is refused as the other
    (∀ token run, tokens.verifiedRun token = .ok run → ∀ lifetime now,
      (SessionTokens.mk tokens.codec lifetime).verifyAt token now =
        .error (.malformed .withoutExpiry)) ∧
    ∀ token lifetime now claims,
      (SessionTokens.mk tokens.codec lifetime).verifyAt token now = .ok claims →
      tokens.verifiedRun token = .error (.malformed .timedRun) := by
  refine ⟨fun history token => ⟨fun h => ?_, ?_⟩, fun history token => ⟨fun h => ?_, ?_⟩,
    fun token hnames => ?_, fun run => exists_issue_iff, fun run token hi => ?_,
    fun token run hv => verifyAt_of_names (verifiedRun_eq_ok_iff_names.mp hv),
    fun token lifetime now claims => verifiedRun_of_verifyAt⟩
  · obtain ⟨run, hnames, hgood⟩ := exists_names_of_validate h
    exact ⟨run, hnames, (Runs.isExecuting_after history run).mp hgood.symm⟩
  · rintro ⟨run, hnames, hlast⟩
    rw [validate_after_names hnames, (Runs.isExecuting_after history run).mpr hlast]
  · obtain ⟨run, hnames, hgood⟩ := exists_names_of_validate h
    refine ⟨run, hnames, fun hlast => ?_⟩
    rw [(Runs.isExecuting_after history run).mpr hlast] at hgood
    cases hgood
  · rintro ⟨run, hnames, hlast⟩
    rw [validate_after_names hnames, Except.ok.injEq, Bool.eq_false_iff]
    exact fun hgood => hlast ((Runs.isExecuting_after history run).mp hgood)
  · rcases hv : tokens.verifiedRun token with error | run
    · exact ⟨error, fun history => validate_eq_error hv _⟩
    · exact absurd ⟨run, verifiedRun_eq_ok_iff_names.mp hv⟩ hnames
  · have hnames := names_of_issue hi
    exact ⟨hnames, verifiedRun_eq_ok_iff_names.mpr hnames⟩

end BuildScopeTokens

end CommandLink
