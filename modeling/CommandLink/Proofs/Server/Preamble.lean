import CommandLink.Proofs.Text.Repaired
import CommandLink.Server.Preamble

/-!
# The opening line of a direct connection

What is read of a direct connection is a line with its newline, as many bytes as a line may have, or
all that has come so far (`Reached`, `read_reached`), however the stream is cut into pieces
(`readAll_eq_read_flatten`). The line is compared as a text, but no other bytes are read as the text
that it has to be, since a text in which something has been replaced is another one
(`ofLine_eq_accepted_iff`). So exactly the streams that begin with the line and not too many
carriage returns are accepted, and nothing behind the newline is touched (`opens_exactly`).
-/

namespace CommandLink.Server.Preamble

/-! ## The line as a text -/

/-- The bytes of the line that opens a direct connection, with some carriage returns at its end. -/
def openingLine (returns : ℕ) : Bytes :=
  Text.Utf8.ofString preamble ++ List.replicate returns 13

theorem length_openingLine (returns : ℕ) : (openingLine returns).length = 20 + returns := by
  rw [openingLine, List.length_append, List.length_replicate]
  rfl

/-- What a client writes is the line without carriage returns. -/
theorem greeting_eq : greeting = openingLine 0 ++ [10] := by decide

theorem newline_not_mem_openingLine (returns : ℕ) : 10 ∉ openingLine returns := by
  rw [openingLine, List.mem_append, not_or]
  refine ⟨by decide, fun h => ?_⟩
  exact absurd (List.eq_of_mem_replicate h) (by decide)

/-- The opening line as characters. -/
theorem encode_openingLine (returns : ℕ) :
    Text.Utf8.encode (preamble.toList ++ List.replicate returns '\r') = openingLine returns := by
  have hreturns : Text.Utf8.encode (List.replicate returns '\r') = List.replicate returns 13 := by
    induction returns with
    | zero => rfl
    | succ returns ih =>
      rw [List.replicate_succ, Text.Utf8.encode_cons, ih]
      rfl
  rw [Text.Utf8.encode_append, hreturns]
  rfl

theorem withoutReturns_eq_preamble_iff {text : String} : withoutReturns text = preamble ↔
    ∃ returns, text.toList = preamble.toList ++ List.replicate returns '\r' := by
  rw [← String.toList_inj, withoutReturns, String.toList_ofList]
  constructor
  · intro h
    let returns := text.toList.reverse.takeWhile (· = '\r')
    have hreturns : ∀ c ∈ returns.reverse, c = '\r' := fun c hc =>
      of_decide_eq_true (List.all_eq_true.mp List.all_takeWhile c (List.mem_reverse.mp hc))
    refine ⟨returns.reverse.length, ?_⟩
    calc text.toList
      _ = (returns ++ text.toList.reverse.dropWhile (· = '\r')).reverse := by
        rw [List.takeWhile_append_dropWhile, List.reverse_reverse]
      _ = preamble.toList ++ returns.reverse := by rw [List.reverse_append, h]
      _ = _ := congrArg _ (List.eq_replicate_of_mem hreturns)
  · rintro ⟨returns, h⟩
    rw [h, List.reverse_append, List.reverse_replicate, List.dropWhile_append_of_pos (by simp)]
    decide

/-- **A line is accepted by its bytes**, although it is compared as a text. -/
theorem ofLine_eq_accepted_iff {line : Bytes} :
    ofLine line.reverse = .accepted ↔ ∃ returns, line = openingLine returns := by
  have hof : ofLine line.reverse = .accepted ↔ withoutReturns (Text.repaired line) = preamble := by
    rw [ofLine, List.reverse_reverse]
    split_ifs with h
    · simp [h]
    · simp [h]
  rw [hof, withoutReturns_eq_preamble_iff]
  apply exists_congr
  intro returns
  constructor
  · intro h
    -- nothing has been replaced in the text that the line has to be
    have hnone : Text.replacement ∉ (Text.repaired line).toList := by
      rw [h, List.mem_append, not_or]
      refine ⟨by decide, fun hmem => ?_⟩
      exact absurd (List.eq_of_mem_replicate hmem) (by decide)
    rw [← Text.ofString_repaired hnone, Text.Utf8.ofString, h, encode_openingLine]
  · rintro rfl
    rw [← encode_openingLine, Text.repaired_encode, String.toList_ofList]

theorem ofLine_cases (line : Bytes) :
    ofLine line = .accepted ∨ ∃ text, ofLine line = .rejected text := by
  rw [ofLine]
  split_ifs
  · exact .inl rfl
  · exact .inr ⟨_, rfl⟩

/-! ## Reading -/

/-- How far a stream is read, with what it comes to and what is left. -/
inductive Reached : (stream : Bytes) → Preamble → (rest : Bytes) → Prop
  /-- A whole line. -/
  | line (line rest : Bytes) (plain : 10 ∉ line) (short : line.length < preambleLimit) :
    Reached (line ++ 10 :: rest) (ofLine line.reverse) rest
  /-- All that has come. -/
  | all (line : Bytes) (plain : 10 ∉ line) (short : line.length < preambleLimit) :
    Reached line (.reading line.reverse) []
  /-- As many bytes as a line may have. -/
  | limit (line rest : Bytes) (plain : 10 ∉ line) (long : line.length = preambleLimit) :
    Reached (line ++ rest) (.rejected (Text.repaired line)) rest

/-- Bytes that come within the limit and are no newlines are part of the line. -/
theorem read_append {before line : Bytes} (hplain : 10 ∉ line)
    (hshort : before.length + line.length < preambleLimit) (rest : Bytes) :
    (reading before).read (line ++ rest) = (reading (line.reverse ++ before)).read rest := by
  induction line generalizing before with
  | nil => rfl
  | cons b line ih =>
    rw [List.mem_cons, not_or] at hplain
    rw [List.length_cons] at hshort
    have hpush : push before b = .reading (b :: before) := by
      rw [push, if_neg (Ne.symm hplain.1), if_pos (by omega)]
    have hbytes : (b :: before).length + line.length < preambleLimit := by
      rw [List.length_cons]
      omega
    rw [List.cons_append, read, hpush, ih hplain.2 hbytes, List.reverse_cons, List.append_assoc]
    rfl

theorem read_accepted (bytes : Bytes) : accepted.read bytes = (accepted, bytes) := by
  cases bytes <;> rfl

theorem read_rejected (text : String) (bytes : Bytes) :
    (rejected text).read bytes = (rejected text, bytes) := by
  cases bytes <;> rfl

theorem read_ofLine (line bytes : Bytes) : (ofLine line).read bytes = (ofLine line, bytes) := by
  rcases ofLine_cases line with h | ⟨text, h⟩
  · rw [h, read_accepted]
  · rw [h, read_rejected]

/-- **How far a stream is read.** -/
theorem read_reached {stream rest : Bytes} {p : Preamble} (h : Reached stream p rest) :
    start.read stream = (p, rest) := by
  cases h with
  | line line rest plain short =>
    rw [start, read_append plain (by simpa using short), List.append_nil, read, push, if_pos rfl,
      read_ofLine]
  | all _ plain short =>
    have hread : (reading []).read (stream ++ []) = (reading (stream.reverse ++ [])).read [] :=
      read_append plain (by simpa using short) []
    rw [List.append_nil, List.append_nil] at hread
    rw [start, hread]
    rfl
  | limit line rest plain long =>
    have hne : line ≠ [] := fun hnil => by
      rw [hnil] at long
      cases long
    obtain ⟨first, b, rfl⟩ : ∃ first b, line = first ++ [b] :=
      ⟨_, _, (List.dropLast_concat_getLast hne).symm⟩
    rw [List.mem_append, not_or, List.mem_singleton] at plain
    rw [List.length_append, List.length_singleton] at long
    have hfull : ¬ (first.reverse ++ []).length + 1 < preambleLimit := by
      rw [List.append_nil, List.length_reverse]
      omega
    have hfirst : ([] : Bytes).length + first.length < preambleLimit := by
      rw [List.length_nil]
      omega
    rw [start, List.append_assoc, read_append plain.1 hfirst, List.singleton_append, read, push,
      if_neg (Ne.symm plain.2), if_neg hfull, read_rejected]
    simp

/-- **Every stream is read to one of three ends.** -/
theorem exists_reached (stream : Bytes) : ∃ p rest, Reached stream p rest := by
  let line := stream.takeWhile (· ≠ 10)
  have hsplit : stream = line ++ stream.dropWhile (· ≠ 10) :=
    List.takeWhile_append_dropWhile.symm
  have hplain : 10 ∉ line := fun h => by simpa using List.all_eq_true.mp List.all_takeWhile 10 h
  by_cases hshort : line.length < preambleLimit
  · rcases hrest : stream.dropWhile (· ≠ 10) with _ | ⟨b, rest⟩
    · rw [hrest, List.append_nil] at hsplit
      exact ⟨_, _, hsplit ▸ Reached.all line hplain hshort⟩
    · have hb : b = 10 := by
        have hhead := List.head?_dropWhile_not (· ≠ (10 : UInt8)) stream
        rw [hrest] at hhead
        simpa using hhead
      rw [hrest, hb] at hsplit
      exact ⟨_, _, hsplit ▸ Reached.line line rest hplain hshort⟩
  · rw [Nat.not_lt] at hshort
    have hlength : (stream.take preambleLimit).length = preambleLimit := by
      have hline : line.length ≤ stream.length := (List.takeWhile_sublist _).length_le
      rw [List.length_take]
      omega
    have htake : 10 ∉ stream.take preambleLimit := by
      rw [hsplit, List.take_append_of_le_length hshort]
      exact fun h => hplain (List.take_subset _ _ h)
    have hreached := Reached.limit _ (stream.drop preambleLimit) htake hlength
    rw [List.take_append_drop] at hreached
    exact ⟨_, _, hreached⟩

/-- What is decided is not read on. -/
theorem read_append_pieces (p : Preamble) (piece later : Bytes) :
    p.read (piece ++ later) = match p.read piece with
      | (.reading line, _) => (reading line).read later
      | (decided, rest) => (decided, rest ++ later) := by
  induction piece generalizing p with
  | nil =>
    cases p with
    | reading line => rfl
    | accepted => exact read_accepted later
    | rejected text => exact read_rejected text later
  | cons b piece ih =>
    cases p with
    | reading line => exact ih (push line b)
    | accepted => rfl
    | rejected text => rfl

/-- **How a stream is cut into pieces makes no difference.** -/
theorem readAll_eq_read_flatten (p : Preamble) (pieces : List Bytes) :
    (p.readAll pieces).1 = (p.read pieces.flatten).1 ∧
      (p.readAll pieces).2.flatten = (p.read pieces.flatten).2 := by
  induction pieces generalizing p with
  | nil => cases p <;> exact ⟨rfl, rfl⟩
  | cons piece pieces ih =>
    rw [readAll, List.flatten_cons, read_append_pieces]
    rcases p.read piece with ⟨_ | _ | text, rest⟩
    · exact ih _
    · exact ⟨rfl, rfl⟩
    · exact ⟨rfl, rfl⟩

theorem reached_readAll (pieces : List Bytes) : Reached pieces.flatten (start.readAll pieces).1
    (start.readAll pieces).2.flatten := by
  obtain ⟨p, rest, h⟩ := exists_reached pieces.flatten
  obtain ⟨hp, hrest⟩ := readAll_eq_read_flatten start pieces
  rw [hp, hrest, read_reached h]
  exact h

/-! ## What is accepted -/

theorem reached_opening {returns : ℕ} (h : returns ≤ 43) (rest : Bytes) :
    Reached (openingLine returns ++ 10 :: rest) .accepted rest := by
  have hshort : (openingLine returns).length < preambleLimit := by
    rw [length_openingLine, preambleLimit]
    omega
  have hreached := Reached.line _ rest (newline_not_mem_openingLine returns) hshort
  rwa [ofLine_eq_accepted_iff.mpr ⟨returns, rfl⟩] at hreached

variable {stream rest rest' : Bytes} {p p' : Preamble}

theorem Reached.unique (h : Reached stream p rest) (h' : Reached stream p' rest') :
    p = p' ∧ rest = rest' :=
  Prod.mk.inj ((read_reached h).symm.trans (read_reached h'))

theorem Reached.opening (h : Reached stream p rest) (haccepted : p = .accepted) :
    ∃ returns ≤ 43, stream = openingLine returns ++ 10 :: rest := by
  cases h with
  | line line rest plain short =>
    obtain ⟨returns, rfl⟩ := ofLine_eq_accepted_iff.mp haccepted
    rw [length_openingLine, preambleLimit] at short
    exact ⟨returns, by omega, rfl⟩
  | all => cases haccepted
  | limit => cases haccepted

/-- What has been taken. -/
theorem Reached.taken (h : Reached stream p rest) :
    ∃ taken, stream = taken ++ rest ∧ taken.length ≤ 64 := by
  cases h with
  | line line rest plain short =>
    refine ⟨line ++ [10], by simp, ?_⟩
    rw [List.length_append, List.length_singleton]
    exact short
  | all _ plain short => exact ⟨stream, (List.append_nil stream).symm, Nat.le_of_lt short⟩
  | limit line rest plain long => exact ⟨line, rfl, Nat.le_of_eq long⟩

theorem Reached.reading_iff (h : Reached stream p rest) :
    (∃ line, p = .reading line) ↔ stream.length < 64 ∧ 10 ∉ stream := by
  cases h with
  | line line rest plain short =>
    rcases ofLine_cases line.reverse with h | ⟨text, h⟩
    · simp [h]
    · simp [h]
  | all _ plain short => exact ⟨fun _ => ⟨short, plain⟩, fun _ => ⟨_, rfl⟩⟩
  | limit line rest plain long =>
    have hlong : ¬ (line ++ rest).length < 64 := by
      rw [List.length_append, long, preambleLimit]
      omega
    exact ⟨fun ⟨_, h⟩ => (nomatch h), fun h => absurd h.1 hlong⟩

theorem Reached.rejected (h : Reached stream p rest) (hplain : 10 ∉ stream.take 64) :
    (∃ text, p.finish = .rejected text) ∧ (64 ≤ stream.length → ∃ text, p = .rejected text) := by
  cases h with
  | line line rest plain short =>
    have hlength : (line ++ [10]).length ≤ 64 := by
      rw [List.length_append, List.length_singleton]
      exact short
    rw [List.append_cons, List.take_append, List.take_of_length_le hlength] at hplain
    simp at hplain
  | all _ plain short => exact ⟨⟨_, rfl⟩, fun h => absurd h (Nat.not_le.mpr short)⟩
  | limit line rest plain long => exact ⟨⟨_, rfl⟩, fun _ => ⟨_, rfl⟩⟩

/-- **The opening line of a direct connection is recognised exactly**, and nothing behind it is
taken. -/
theorem opens_exactly (pieces : List Bytes) :
    let stream := pieces.flatten
    let reached := start.readAll pieces
    -- what is accepted
    (reached.1.finish = .accepted ↔
      ∃ returns ≤ 43, ∃ rest, stream = openingLine returns ++ 10 :: rest) ∧
    -- what is left behind it
    (∀ returns ≤ 43, ∀ rest, stream = openingLine returns ++ 10 :: rest →
      reached.1 = .accepted ∧ reached.2.flatten = rest) ∧
    (∀ rest, stream = greeting ++ rest → reached.1 = .accepted ∧ reached.2.flatten = rest) ∧
    -- what is taken of any stream
    (∃ taken, stream = taken ++ reached.2.flatten ∧ taken.length ≤ 64) ∧
    -- how long nothing is decided
    ((∃ line, reached.1 = .reading line) ↔ stream.length < 64 ∧ 10 ∉ stream) ∧
    -- the end of the stream, or the limit, without a newline
    (10 ∉ stream.take 64 → (∃ text, reached.1.finish = .rejected text) ∧
      (64 ≤ stream.length → ∃ text, reached.1 = .rejected text)) ∧
    -- the end of the stream decides in any case
    (reached.1.finish = .accepted ∨ ∃ text, reached.1.finish = .rejected text) := by
  intro stream reached
  have hreached : Reached stream reached.1 reached.2.flatten := reached_readAll pieces
  have hfinish : reached.1.finish = .accepted ↔ reached.1 = .accepted := by
    rcases reached.1 with _ | _ | _ <;> simp [finish]
  have hopened : ∀ returns ≤ 43, ∀ rest, stream = openingLine returns ++ 10 :: rest →
      reached.1 = .accepted ∧ reached.2.flatten = rest := fun returns hreturns rest hstream =>
    hreached.unique (hstream ▸ reached_opening hreturns rest)
  refine ⟨hfinish.trans ⟨fun haccepted => ?_, ?_⟩, hopened, fun rest hstream => ?_, hreached.taken,
    hreached.reading_iff, hreached.rejected, ?_⟩
  · obtain ⟨returns, hreturns, hstream⟩ := hreached.opening haccepted
    exact ⟨returns, hreturns, _, hstream⟩
  · rintro ⟨returns, hreturns, rest, hstream⟩
    exact (hopened returns hreturns rest hstream).1
  · refine hopened 0 (by omega) rest (hstream.trans ?_)
    rw [greeting_eq, List.append_assoc, List.singleton_append]
  · rcases reached.1 with _ | _ | text
    · exact .inr ⟨_, rfl⟩
    · exact .inl rfl
    · exact .inr ⟨text, rfl⟩

end CommandLink.Server.Preamble
