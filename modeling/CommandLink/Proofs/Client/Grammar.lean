import CommandLink.Client.CommandLine
import Mathlib.Data.List.Induction

/-!
# The grammar of the command line

A command line consists of settings, each of them an option with its value or a request for the
usage, and of what stands behind them (`Tail`): nothing, a double dash and a command, a command
alone, or a word at which reading fails. Every list of words is of this form (`exists_tail`), and
reading it puts the settings in place and takes the command, or ends with the failure (`parse_tail`).
So a command line that is written down from settings and a command is read as just these, whatever
the values and the words of the command look like (`parse_follows_grammar`).
-/

namespace CommandLink.CommandLine

/-! ## Settings -/

/-- The options that take a value. -/
inductive Valued where
  | url
  | username
  | password
  | passwordFile
  deriving DecidableEq, Repr

/-- How an option is written. -/
def Valued.word : Valued → String
  | .url => "-s"
  | .username => "-u"
  | .password => "-p"
  | .passwordFile => "--password-file"

/-- One thing that is set in front of the command. -/
inductive Setting where
  | value (option : Valued) (text : String)
  /-- The usage is asked for, by the short option or by the long one. -/
  | usage (long : Bool)
  deriving DecidableEq, Repr

namespace Setting

/-- The words of a setting. -/
def words : Setting → List String
  | .value option text => [option.word, text]
  | .usage false => ["-h"]
  | .usage true => ["--help"]

/-- The value that a setting gives an option. -/
def value? (option : Valued) : Setting → Option String
  | .value other text => if other = option then some text else none
  | .usage _ => none

/-- Whether a setting asks for the usage. -/
def isUsage : Setting → Bool
  | .value _ _ => false
  | .usage _ => true

/-- Puts a setting in place. -/
def put (line : CommandLine) : Setting → CommandLine
  | .value .url text => { line with url := some text }
  | .value .username text =>
    { line with credentials := { line.credentials with username := some text } }
  | .value .password text =>
    { line with credentials := { line.credentials with password := some text } }
  | .value .passwordFile text =>
    { line with credentials := { line.credentials with passwordFile := some text } }
  | .usage _ => { line with showUsage := true }

end Setting

/-- The words of settings. -/
def written (settings : List Setting) : List String := settings.flatMap Setting.words

theorem written_cons (setting : Setting) (settings : List Setting) :
    written (setting :: settings) = setting.words ++ written settings := List.flatMap_cons

/-- The last value that settings give an option. -/
def lastValue (option : Valued) (settings : List Setting) : Option String :=
  (settings.filterMap (Setting.value? option)).getLast?

/-- What settings and a command ask for. Without a command, help is asked for. -/
def asked (settings : List Setting) (command : List String) : CommandLine where
  url := lastValue .url settings
  credentials :=
    { username := lastValue .username settings
      password := lastValue .password settings
      passwordFile := lastValue .passwordFile settings }
  command := if command = [] then ["help"] else command
  showUsage := settings.any Setting.isUsage

theorem lastValue_concat (option : Valued) (settings : List Setting) (setting : Setting) :
    lastValue option (settings ++ [setting]) =
      (setting.value? option).or (lastValue option settings) := by
  rw [lastValue, List.filterMap_append, List.getLast?_append, lastValue]
  rcases h : setting.value? option with _ | text
  · simp [h]
  · simp [h]

/-- Settings that are put in place one after the other. -/
theorem withCommand_foldl_put (settings : List Setting) (command : List String) :
    (settings.foldl Setting.put start).withCommand command = asked settings command := by
  induction settings using List.reverseRecOn with
  | nil => rfl
  | append_singleton settings setting ih =>
    have hput : ∀ line : CommandLine,
        (setting.put line).withCommand command = setting.put (line.withCommand command) := by
      intro line
      rcases setting with ⟨_ | _, text⟩ | long
      all_goals rfl
    rw [List.foldl_append, List.foldl_cons, List.foldl_nil, hput, ih]
    simp only [asked, lastValue_concat, List.any_append, List.any_cons, List.any_nil, Bool.or_false]
    rcases setting with ⟨_ | _, text⟩ | long
    all_goals simp [Setting.put, Setting.value?, Setting.isUsage]

/-- A setting is read from its words, whatever stands behind them. -/
theorem parseFrom_words (line : CommandLine) (setting : Setting) (rest : List String) :
    parseFrom line (setting.words ++ rest) = parseFrom (setting.put line) rest := by
  rcases setting with ⟨_ | _, text⟩ | _ | _
  all_goals rfl

theorem parseFrom_written (line : CommandLine) (settings : List Setting) (rest : List String) :
    parseFrom line (written settings ++ rest) = parseFrom (settings.foldl Setting.put line) rest := by
  induction settings generalizing line with
  | nil => rfl
  | cons setting settings ih =>
    rw [written_cons, List.append_assoc, parseFrom_words]
    exact ih _

/-! ## What stands behind the settings -/

/-- A word that looks like an option and is none. -/
structure Unknown (word : String) : Prop where
  option : isOption word = true
  valued : ∀ option : Valued, word ≠ option.word
  other : word ∉ ["-h", "--help", "--"]

/-- What stands behind the settings, and what it comes to: the words of the command, or a failure. -/
inductive Tail : List String → Except UsageError (List String) → Prop
  | nothing : Tail [] (.ok [])
  | dashes (words : List String) : Tail ("--" :: words) (.ok words)
  | command (word : String) (words : List String) (plain : isOption word = false) :
    Tail (word :: words) (.ok (word :: words))
  | missing (option : Valued) : Tail [option.word] (.error (.missingValue option.word))
  | unknown (word : String) (words : List String) (unknown : Unknown word) :
    Tail (word :: words) (.error (.unknownOption word))

theorem withValue?_eq_none {line : CommandLine} {word : String}
    (h : ∀ option : Valued, word ≠ option.word) : line.withValue? word = none := by
  have hs : word ≠ "-s" := h .url
  have hu : word ≠ "-u" := h .username
  have hp : word ≠ "-p" := h .password
  have hf : word ≠ "--password-file" := h .passwordFile
  rw [withValue?, if_neg hs, if_neg hu, if_neg hp, if_neg hf]

theorem exists_option_of_withValue? {line : CommandLine} {word : String}
    {put : String → CommandLine} (h : line.withValue? word = some put) :
    ∃ option : Valued, word = option.word := by
  by_contra hnone
  rw [withValue?_eq_none fun option hword => hnone ⟨option, hword⟩] at h
  cases h

theorem withValue?_word_ne_none (line : CommandLine) (option : Valued) :
    line.withValue? option.word ≠ none := by
  cases option <;> simp [withValue?, Valued.word]

theorem Valued.isOption_word (option : Valued) : isOption option.word = true := by
  cases option <;> decide

theorem parseFrom_tail {rest : List String} {outcome : Except UsageError (List String)}
    (h : Tail rest outcome) (line : CommandLine) :
    parseFrom line rest = outcome.map line.withCommand := by
  cases h with
  | nothing => rfl
  | dashes words => rfl
  | command word words plain =>
    have hne : ∀ other, isOption other = true → word ≠ other := by
      rintro other hother rfl
      rw [plain] at hother
      cases hother
    rw [parseFrom, withValue?_eq_none fun option => hne _ option.isOption_word]
    have hshort : word ≠ "-h" := hne _ (by decide)
    have hlong : word ≠ "--help" := hne _ (by decide)
    have hdashes : word ≠ "--" := hne _ (by decide)
    simp only [hshort, hlong, hdashes, plain, or_self, Bool.false_eq_true, if_false]
    rfl
  | missing option => cases option <;> rfl
  | unknown word words unknown =>
    have hother := unknown.other
    simp only [List.mem_cons, List.not_mem_nil, or_false, not_or] at hother
    rw [parseFrom, withValue?_eq_none unknown.valued]
    simp only [hother, unknown.option, or_self, if_false, if_true]
    rfl

/-- **What a command line asks for**: its settings and its command, unless reading it fails. -/
theorem parse_tail {rest : List String} {outcome : Except UsageError (List String)}
    (h : Tail rest outcome) (settings : List Setting) :
    parse (written settings ++ rest) = outcome.map (asked settings) := by
  rw [parse, parseFrom_written, parseFrom_tail h]
  rcases outcome with e | command
  · rfl
  · exact congrArg Except.ok (withCommand_foldl_put settings command)

/-- **Every list of words is a command line**: settings, and something behind them. -/
theorem exists_tail (words : List String) : ∃ settings rest outcome,
    words = written settings ++ rest ∧ Tail rest outcome := by
  have front (setting : Setting) {rest : List String} (h : ∃ settings tail outcome,
      rest = written settings ++ tail ∧ Tail tail outcome) : ∃ settings tail outcome,
        setting.words ++ rest = written settings ++ tail ∧ Tail tail outcome := by
    obtain ⟨settings, tail, outcome, rfl, ht⟩ := h
    exact ⟨setting :: settings, tail, outcome, by rw [written_cons, List.append_assoc], ht⟩
  have stop {rest : List String} {outcome : Except UsageError (List String)}
      (h : Tail rest outcome) : ∃ settings tail outcome,
        rest = written settings ++ tail ∧ Tail tail outcome :=
    ⟨[], rest, outcome, rfl, h⟩
  fun_induction parseFrom start words with
  | case1 => exact stop .nothing
  | case2 line word put hput =>
    obtain ⟨option, rfl⟩ := exists_option_of_withValue? hput
    exact stop (.missing option)
  | case3 line word put hput text words ih =>
    obtain ⟨option, rfl⟩ := exists_option_of_withValue? hput
    exact front (.value option text) ih
  | case4 line word words hnone husage ih =>
    rcases husage with rfl | rfl
    · exact front (.usage false) ih
    · exact front (.usage true) ih
  | case5 line words => exact stop (.dashes words)
  | case6 line word words hnone husage hdashes hoption =>
    refine stop (.unknown word words ⟨hoption, fun option => ?_, ?_⟩)
    · rintro rfl
      exact withValue?_word_ne_none line option hnone
    · simpa [hdashes] using husage
  | case7 line word words hnone husage hdashes hoption =>
    exact stop (.command word words (Bool.eq_false_iff.mpr hoption))

/-! ## Failures -/

/-- Why reading fails at what stands behind the settings. -/
def FailsAt (rest : List String) (e : UsageError) : Prop :=
  (∃ option : Valued, rest = [option.word] ∧ e = .missingValue option.word) ∨
    ∃ word words, rest = word :: words ∧ Unknown word ∧ e = .unknownOption word

theorem failsAt_iff_tail {rest : List String} {e : UsageError} :
    FailsAt rest e ↔ Tail rest (.error e) := by
  constructor
  · rintro (⟨option, rfl, rfl⟩ | ⟨word, words, rfl, hunknown, rfl⟩)
    · exact .missing option
    · exact .unknown word words hunknown
  · intro h
    cases h with
    | missing option => exact .inl ⟨option, rfl, rfl⟩
    | unknown word words unknown => exact .inr ⟨word, words, rfl, unknown, rfl⟩

theorem isOption_eq_false_iff {word : String} :
    isOption word = false ↔ word.toList.head? ≠ some '-' ∨ word = "-" := by
  rw [isOption, Bool.and_eq_false_iff, decide_eq_false_iff_not, decide_eq_false_iff_not, not_not]

/-- **Reading a command line follows its grammar.** The settings may be in any order and any
number. -/
theorem parse_follows_grammar :
    -- a command behind a double dash
    (∀ settings command, parse (written settings ++ "--" :: command) = .ok (asked settings command)) ∧
    -- a command that does not begin like an option, or none
    (∀ settings command,
      (∀ word ∈ command.head?, word.toList.head? ≠ some '-' ∨ word = "-") →
      parse (written settings ++ command) = .ok (asked settings command)) ∧
    -- the first word that is no setting and cannot begin the command
    ∀ words e, parse words = .error e ↔
      ∃ settings rest, words = written settings ++ rest ∧ FailsAt rest e := by
  refine ⟨fun settings command => parse_tail (.dashes command) settings,
    fun settings command hfirst => ?_, fun words e => ⟨fun h => ?_, ?_⟩⟩
  · rcases command with _ | ⟨word, command⟩
    · exact parse_tail .nothing settings
    · exact parse_tail (.command word command (isOption_eq_false_iff.mpr (hfirst word rfl))) settings
  · obtain ⟨settings, rest, outcome, rfl, ht⟩ := exists_tail words
    rw [parse_tail ht] at h
    rcases outcome with e' | command
    · cases h
      exact ⟨settings, rest, rfl, failsAt_iff_tail.mpr ht⟩
    · cases h
  · rintro ⟨settings, rest, rfl, hfails⟩
    exact parse_tail (failsAt_iff_tail.mp hfails) settings

/-- Values that look like options, an option that is given twice, and a command that begins with a
dash alone. -/
theorem parse_follows_grammar_dashes :
    (∀ word ∈ ["-", "-x"].head?, word.toList.head? ≠ some '-' ∨ word = "-") ∧
    parse ["-p", "-u", "--help", "-s", "--", "-p", "-h", "-", "-x"] =
      .ok ⟨some "--", ⟨none, some "-h", none⟩, ["-", "-x"], true⟩ := by
  let settings : List Setting :=
    [.value .password "-u", .usage true, .value .url "--", .value .password "-h"]
  have hfirst : ∀ word ∈ ["-", "-x"].head?, word.toList.head? ≠ some '-' ∨ word = "-" := by
    decide
  exact ⟨hfirst, parse_follows_grammar.2.1 settings ["-", "-x"] hfirst⟩

end CommandLink.CommandLine
