import CommandLink.Config
import CommandLink.Proofs.Text.Blank
import CommandLink.Proofs.Token.BuildScope

/-!
# Build-scope tokens in an environment

A run exports its token to the programs that it starts, and a client takes the token from its
environment, without the white space around it. A token ends in its signature, so nothing is taken
from its end; but it begins with the identifier of the run, and where that begins with white space
the client is left with another identifier under the signature of this one (`trimChars_join`). So
the token of a run reaches a client exactly if the identifier of the run does not begin with white
space (`exported_token_loads_iff`); with any other identifier it is lost (`exported_token_lost`).
-/

namespace CommandLink

/-- The environment of a program that is started with exactly some variables. There is no such
program if a value holds a NUL, since a NUL ends a value. -/
def Environment.ofEntries? (entries : List (String × String)) : Option Environment :=
  if ∀ entry ∈ entries, '\x00' ∉ entry.2.toList then
    some (.ofList (entries.map fun entry => (entry.1, Text.Utf8.ofString entry.2)))
  else none

namespace Text

/-- A text begins with white space. -/
def BeginsBlank (s : String) : Prop := ∃ c, s.toList.head? = some c ∧ isBlank c = true

/-- A text without the white space at its beginning. -/
def trimStart (s : String) : String := String.ofList (s.toList.dropWhile isBlank)

theorem trimStart_eq_self_iff {s : String} : trimStart s = s ↔ ¬ BeginsBlank s := by
  rw [← String.toList_inj, trimStart, String.toList_ofList, BeginsBlank]
  rcases s.toList with _ | ⟨c, cs⟩
  · simp
  · by_cases h : isBlank c = true
    · have hshort : (cs.dropWhile isBlank).length ≤ cs.length :=
        (List.dropWhile_sublist _).length_le
      have hne : cs.dropWhile isBlank ≠ c :: cs := fun heq => by
        rw [heq, List.length_cons] at hshort
        omega
      simp [h, hne]
    · simp [h]

theorem mem_of_mem_trimStart {s : String} {c : Char} (h : c ∈ (trimStart s).toList) :
    c ∈ s.toList := by
  rw [trimStart, String.toList_ofList] at h
  exact (List.dropWhile_sublist _).subset h

end Text

namespace TokenCodec

variable (codec : TokenCodec)

/-- A signature holds no white space. -/
theorem isBlank_of_mem_sign {parts : List (List Char)} {c : Char} (h : c ∈ codec.sign parts) :
    Text.isBlank c = false := by
  have hdigit := Bytes.isSome_hexValue?_of_mem h
  by_contra hblank
  rw [Bool.not_eq_false, Text.isBlank, Text.inRanges_iff] at hblank
  obtain ⟨range, hrange, hlow, hhigh⟩ := hblank
  have hnone : Bytes.hexValue? c = none := by
    simp only [Text.blankRanges, List.mem_cons, List.not_mem_nil, or_false] at hrange
    rcases hrange with rfl | rfl | rfl | rfl | rfl | rfl | rfl | rfl | rfl | rfl
    all_goals
      dsimp only at hlow hhigh
      rw [Bytes.hexValue?, if_neg (by omega), if_neg (by omega), if_neg (by omega)]
  rw [hnone] at hdigit
  cases hdigit

theorem nul_not_mem_sign (parts : List (List Char)) : '\x00' ∉ codec.sign parts := fun h =>
  absurd (Bytes.isSome_hexValue?_of_mem h) (by decide)

theorem join_pair (name field : String) (signature : List Char) :
    join (chars [name, field]) signature =
      name.toList ++ ':' :: (field.toList ++ ':' :: signature) := by
  simp [join, chars]

/-- **What is trimmed from a token** is the white space at the beginning of its first field. -/
theorem trimChars_join (name field : String) (parts : List (List Char)) :
    Text.trimChars (join (chars [name, field]) (codec.sign parts)) =
      join (chars [Text.trimStart name, field]) (codec.sign parts) := by
  have hsplit : join (chars [name, field]) (codec.sign parts) =
      name.toList.takeWhile Text.isBlank ++
        join (chars [Text.trimStart name, field]) (codec.sign parts) := by
    rw [join_pair, join_pair, ← List.append_assoc, Text.trimStart, String.toList_ofList,
      List.takeWhile_append_dropWhile]
  rw [hsplit, Text.trimChars_append_of_blank (List.all_eq_true.mp List.all_takeWhile)]
  refine Text.trimChars_eq_self (fun c hc => ?_) fun c hc => ?_
  · rw [join_pair, List.head?_append, Option.or_eq_some_iff] at hc
    rcases hc with hc | ⟨-, hc⟩
    · rw [Text.trimStart, String.toList_ofList] at hc
      exact Text.head?_dropWhile_eq_false hc
    · cases hc
      decide
  · rw [join, List.getLast?_append, Option.or_eq_some_iff] at hc
    rcases hc with hc | ⟨hnil, -⟩
    · exact codec.isBlank_of_mem_sign (List.mem_of_getLast? hc)
    · have hlength := codec.length_sign parts
      rw [List.getLast?_eq_none_iff.mp hnil] at hlength
      cases hlength

end TokenCodec

namespace BuildScopeTokens

open Digest.Sha256 (Collision)

variable {tokens : BuildScopeTokens} {run token : String} {entries : List (String × String)}

/-- The fields of the token of a run. -/
def fields (run : String) : List String := [run, Text.decimal unboundedExpiry]

theorem environment_eq_ok_iff : tokens.environment run = .ok entries ↔
    ∃ token, tokens.issue run = .ok token ∧
      entries = [(buildTokenVariable, token), (runVariable, run)] := by
  unfold environment
  rcases tokens.issue run with e | token
  · simp [bind, Except.bind]
  · simp [bind, Except.bind, pure, Except.pure, eq_comm]

/-- A token that is issued: the run and the expiry that stands for none, under their signature. -/
theorem toList_of_issue (h : tokens.issue run = .ok token) :
    TokenCodec.Plain (fields run) ∧ token.toList =
      TokenCodec.join (TokenCodec.chars (fields run))
        (tokens.codec.sign (TokenCodec.chars (fields run))) :=
  (tokens.codec.encode_eq_ok_iff.mp (issue_eq_ok_iff.mp h).2).2

/-- A program can be started with the exported variables, unless the run has a NUL in its name. -/
theorem exists_ofEntries? (h : tokens.issue run = .ok token) (hnul : '\x00' ∉ run.toList) :
    ∃ env, Environment.ofEntries? [(buildTokenVariable, token), (runVariable, run)] = some env ∧
      env.text? buildTokenVariable = some token := by
  have htoken : '\x00' ∉ token.toList := by
    have hexpiry : '\x00' ∉ (Text.decimal unboundedExpiry).toList := by decide
    have hsign := tokens.codec.nul_not_mem_sign (TokenCodec.chars (fields run))
    rw [(toList_of_issue h).2, fields, TokenCodec.join_pair]
    simp only [List.mem_append, List.mem_cons, not_or]
    exact ⟨hnul, by decide, hexpiry, by decide, hsign⟩
  refine ⟨_, if_pos (by simp [hnul, htoken]), ?_⟩
  have hapart : buildTokenVariable ≠ runVariable := by decide
  rw [Environment.text?]
  simp [Table.ofList, hapart, Text.Utf8.toString?_ofString]

/-- What a client loads of the token of a run: the token without the white space at the beginning
of the run. -/
theorem trimmed?_of_issue (h : tokens.issue run = .ok token) {env : Environment}
    (htext : env.text? buildTokenVariable = some token) :
    ∃ loaded, env.trimmed? buildTokenVariable = some loaded ∧ loaded.toList =
      TokenCodec.join (TokenCodec.chars (fields (Text.trimStart run)))
        (tokens.codec.sign (TokenCodec.chars (fields run))) := by
  have htrim : (Text.trim token).toList =
      TokenCodec.join (TokenCodec.chars (fields (Text.trimStart run)))
        (tokens.codec.sign (TokenCodec.chars (fields run))) := by
    rw [Text.toList_trim, (toList_of_issue h).2, fields, TokenCodec.trimChars_join, fields]
  have hne : Text.trim token ≠ "" := fun hempty => by
    rw [hempty, fields, TokenCodec.join_pair] at htrim
    simp at htrim
  refine ⟨Text.trim token, ?_, htrim⟩
  rw [Environment.trimmed?, htext, Option.map_some, Option.filter_some, if_pos (by simpa using hne)]

theorem plain_fields_trimStart (h : TokenCodec.Plain (fields run)) :
    TokenCodec.Plain (fields (Text.trimStart run)) := by
  intro field hfield
  rcases List.mem_pair.mp hfield with rfl | rfl
  · exact fun hcolon => h run (by simp [fields]) (Text.mem_of_mem_trimStart hcolon)
  · exact h _ (by simp [fields])

/-- The identifier of one run under the signature of another names neither of them, unless the
signature is that of both. -/
theorem verifiedRun_of_signed {other : String} (hrun : TokenCodec.Plain (fields run))
    (hother : TokenCodec.Plain (fields other)) (hne : other ≠ run)
    (htoken : token.toList = TokenCodec.join (TokenCodec.chars (fields other))
      (tokens.codec.sign (TokenCodec.chars (fields run)))) :
    tokens.verifiedRun token ≠ .ok run ∧
      (tokens.verifiedRun token = .error .invalidSignature ∨
        Collision (tokens.codec.hashed (TokenCodec.chars (fields other)))
          (tokens.codec.hashed (TokenCodec.chars (fields run)))) := by
  have hcolon := tokens.codec.colon_not_mem_sign
  constructor
  · intro hverified
    obtain ⟨field, hdecode, -⟩ := verifiedRun_eq_ok_iff.mp hverified
    obtain ⟨-, hplain, hjoin⟩ := tokens.codec.decode_eq_ok_iff.mp hdecode
    have hparts := (TokenCodec.join_inj (TokenCodec.plain_iff.mp hother)
      (TokenCodec.plain_iff.mp hplain) (hcolon _) (hcolon _) (htoken.symm.trans hjoin)).1
    exact hne (List.cons.inj (TokenCodec.chars_injective hparts)).1
  · by_cases hsign : tokens.codec.sign (TokenCodec.chars (fields run)) =
        tokens.codec.sign (TokenCodec.chars (fields other))
    · refine .inr ⟨fun hhashed => hne ?_, TokenCodec.digest_eq_of_sign_eq hsign.symm⟩
      have hparts := tokens.codec.hashed_injective (TokenCodec.plain_iff.mp hother)
        (TokenCodec.plain_iff.mp hrun) hhashed
      exact (List.cons.inj (TokenCodec.chars_injective hparts)).1
    · have hdecode := tokens.codec.decode_join_of_ne hother (hcolon _) hsign
      rw [← htoken, String.ofList_toList] at hdecode
      have hcount : tokens.codec.decode token 2 = .error .invalidSignature := hdecode
      exact .inl (by simp [verifiedRun, hcount, bind, Except.bind])

/-- **Which exported tokens a client can use**: it loads one in any case, and the token names the run
exactly if the identifier of the run does not begin with white space. Then it is good for as long as
the run is going on, and otherwise its signature is refused, unless two strings of bytes have one
digest. -/
theorem exported_token_loads_iff (hexport : tokens.environment run = .ok entries)
    (hnul : '\x00' ∉ run.toList) :
    ∃ env loaded, Environment.ofEntries? entries = some env ∧
      (ClientConfig.load env).buildToken = some loaded ∧
      (tokens.verifiedRun loaded = .ok run ↔ ¬ Text.BeginsBlank run) ∧
      (¬ Text.BeginsBlank run → ∀ runs : Runs,
        tokens.validate runs loaded = .ok true ↔ runs.isExecuting run = true) ∧
      (Text.BeginsBlank run → tokens.verifiedRun loaded = .error .invalidSignature ∨
        Collision (tokens.codec.hashed (TokenCodec.chars (fields (Text.trimStart run))))
          (tokens.codec.hashed (TokenCodec.chars (fields run)))) := by
  obtain ⟨token, hissue, rfl⟩ := environment_eq_ok_iff.mp hexport
  obtain ⟨env, henv, htext⟩ := exists_ofEntries? hissue hnul
  obtain ⟨loaded, hload, hloaded⟩ := trimmed?_of_issue hissue htext
  obtain ⟨hplain, htoken⟩ := toList_of_issue hissue
  have hkept : ¬ Text.BeginsBlank run → tokens.Names loaded run := fun hfirst => by
    rw [Text.trimStart_eq_self_iff.mpr hfirst, ← htoken] at hloaded
    rw [String.toList_inj.mp hloaded]
    exact names_of_issue hissue
  have hlost : Text.BeginsBlank run → _ := fun hfirst => verifiedRun_of_signed hplain
    (plain_fields_trimStart hplain) (fun h => Text.trimStart_eq_self_iff.mp h hfirst) hloaded
  refine ⟨env, loaded, henv, hload, ⟨fun hverified hfirst => (hlost hfirst).1 hverified,
    fun hfirst => verifiedRun_eq_ok_iff_names.mpr (hkept hfirst)⟩, fun hfirst runs => ?_,
    fun hfirst => (hlost hfirst).2⟩
  rw [validate_after_names (hkept hfirst), Except.ok.injEq]

/-- A run with white space within its identifier and at its end. -/
theorem exported_token_loads_iff_blankEnd :
    ∃ entries, (BuildScopeTokens.mk ⟨⟨"k"⟩⟩).environment "job 7\n" = .ok entries ∧
      '\x00' ∉ "job 7\n".toList ∧ ∃ env loaded, Environment.ofEntries? entries = some env ∧
        (ClientConfig.load env).buildToken = some loaded ∧
        (BuildScopeTokens.mk ⟨⟨"k"⟩⟩).verifiedRun loaded = .ok "job 7\n" := by
  obtain ⟨token, hissue⟩ : ∃ token, (BuildScopeTokens.mk ⟨⟨"k"⟩⟩).issue "job 7\n" = .ok token :=
    exists_issue_iff.mpr (by decide)
  have hexport := environment_eq_ok_iff.mpr ⟨token, hissue, rfl⟩
  have hnul : '\x00' ∉ "job 7\n".toList := by decide
  obtain ⟨env, loaded, henv, hload, hiff, -⟩ := exported_token_loads_iff hexport hnul
  refine ⟨_, hexport, hnul, env, loaded, henv, hload, hiff.mpr ?_⟩
  rintro ⟨c, hc, hblank⟩
  cases hc
  exact absurd hblank (by decide)

/-- The token of a run whose identifier begins with a blank is refused when a client presents it
while the run is going on. -/
theorem exported_token_lost :
    let tokens : BuildScopeTokens := ⟨⟨⟨"k"⟩⟩⟩
    let signature := "33464807f57218c262db531e09d719f0e576c2de0a31cc25a3263c9664c74a3e"
    let entries := [(buildTokenVariable, " a:-1:" ++ signature), (runVariable, " a")]
    let runs := Runs.begin .empty " a"
    tokens.environment " a" = .ok entries ∧ '\x00' ∉ " a".toList ∧
      ((Environment.ofEntries? entries).map fun env => (ClientConfig.load env).buildToken) =
        some (some ("a:-1:" ++ signature)) ∧
      tokens.verifiedRun ("a:-1:" ++ signature) = .error .invalidSignature ∧
      runs.isExecuting " a" = true ∧
      tokens.validate runs ("a:-1:" ++ signature) = .error .invalidSignature := by
  decide +kernel

end BuildScopeTokens

end CommandLink
