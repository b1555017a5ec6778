import CommandLink.Frame.Decode

/-!
# Streams of frames

A stream carries frames one behind the other, each behind its length in four bytes. The bytes
arrive in pieces of any size; `Partial` is what has arrived of the next frame, `Partial.feed` takes
a piece, and `Partial.finish` says what the end of the stream means. How the bytes were cut makes no
difference (`feedAll_eq_feed_flatten`).
-/

namespace CommandLink.Frame

/-- What has arrived of a frame. -/
inductive Partial where
  /-- Fewer than four bytes of the length, last first. -/
  | header (read : Bytes)
  /-- The bytes of the body so far, last first, and how many are missing. -/
  | body (missing : Nat) (read : Bytes)
  deriving DecidableEq, Repr

namespace Partial

/-- Nothing of the next frame. -/
def start : Partial := .header []

/-- One more byte: it may complete a frame. -/
def push (limit : Nat) (state : Partial) (b : UInt8) : Except FrameError (Option Frame × Partial) :=
  match state with
  | .header read =>
    if read.length < 3 then .ok (none, .header (b :: read))
    else
      let length := Bytes.toNat (b :: read).reverse
      if limit < length then .error (.tooLarge length limit)
      else if length = 0 then (decode limit []).map fun frame => (some frame, start)
      else .ok (none, .body length [])
  | .body missing read =>
    if 1 < missing then .ok (none, .body (missing - 1) (b :: read))
    else (decode limit (b :: read).reverse).map fun frame => (some frame, start)

/-- The frames that some bytes complete, and what has arrived of the next one; after an error no
more is read. `complete` holds the frames completed so far, last first. -/
def feedOnto (limit : Nat) (complete : List Frame) (state : Partial) :
    Bytes → List Frame × Except FrameError Partial
  | [] => (complete.reverse, .ok state)
  | b :: bytes =>
    match state.push limit b with
    | .error e => (complete.reverse, .error e)
    | .ok (some frame, state) => feedOnto limit (frame :: complete) state bytes
    | .ok (none, state) => feedOnto limit complete state bytes

/-- The frames that some bytes complete, and what has arrived of the next one. -/
def feed (limit : Nat) (state : Partial) (bytes : Bytes) : List Frame × Except FrameError Partial :=
  feedOnto limit [] state bytes

/-- What the end of the stream means: the regular end, or an error within a frame. -/
def finish : Partial → Except FrameError Unit
  | .header [] => .ok ()
  | .header _ => .error (.invalidFormat "truncated frame header")
  | .body _ _ => .error (.io .earlyEof)

theorem feedOnto_eq (limit : Nat) (complete : List Frame) (state : Partial) (bytes : Bytes) :
    feedOnto limit complete state bytes =
      (complete.reverse ++ (feed limit state bytes).1, (feed limit state bytes).2) := by
  induction bytes generalizing complete state with
  | nil => simp [feed, feedOnto]
  | cons b bytes ih =>
    unfold feed feedOnto
    split
    · simp
    · rename_i frame state' _
      rw [ih (frame :: complete), ih [frame]]
      simp
    · rename_i state' _
      rw [ih complete]
      rfl

theorem feed_append (limit : Nat) (state : Partial) (a b : Bytes) :
    feed limit state (a ++ b) =
      match feed limit state a with
      | (frames, .error e) => (frames, .error e)
      | (frames, .ok state) => (frames ++ (feed limit state b).1, (feed limit state b).2) := by
  induction a generalizing state with
  | nil => simp [feed, feedOnto]
  | cons x a ih =>
    simp only [feed, List.cons_append, feedOnto]
    match state.push limit x with
    | .error e => rfl
    | .ok (some frame, state') =>
      simp only [feedOnto_eq limit [frame], ih state']
      match feed limit state' a with
      | (frames, .error e) => simp
      | (frames, .ok s) => simp; exact ⟨rfl, rfl⟩
    | .ok (none, state') => exact ih state'

/-- The frames that some pieces complete, one piece after the other, and what has arrived of the next
frame. -/
def feedAll (limit : Nat) (state : Partial) : List Bytes → List Frame × Except FrameError Partial
  | [] => ([], .ok state)
  | piece :: pieces =>
    match feed limit state piece with
    | (frames, .error e) => (frames, .error e)
    | (frames, .ok state) =>
      let later := feedAll limit state pieces
      (frames ++ later.1, later.2)

/-- How a stream was cut into pieces makes no difference. -/
theorem feedAll_eq_feed_flatten (limit : Nat) (state : Partial) (pieces : List Bytes) :
    feedAll limit state pieces = feed limit state pieces.flatten := by
  induction pieces generalizing state with
  | nil => rfl
  | cons piece pieces ih =>
    rw [feedAll, List.flatten_cons, feed_append]
    match feed limit state piece with
    | (frames, .error e) => rfl
    | (frames, .ok s) => simp only [ih]

end Partial

/-- The complete bodies at the front of a stream, and what is behind them. -/
def bodies (bytes : Bytes) : List Bytes × Bytes :=
  let header := bytes.take 4
  let length := Bytes.toNat header
  let body := (bytes.drop 4).take length
  if _h : header.length = 4 ∧ body.length = length then
    let (later, rest) := bodies ((bytes.drop 4).drop length)
    (body :: later, rest)
  else ([], bytes)
termination_by bytes.length
decreasing_by
  simp only [header, List.length_take, List.length_drop] at *
  omega

/-- How a stream of frames ends. -/
abbrev Ending := Except FrameError Unit

/-- The frames of a stream that arrives in pieces, and how it ends. -/
def readAll (limit : Nat) (pieces : List Bytes) : List Frame × Ending :=
  match Partial.start.feedAll limit pieces with
  | (frames, .error e) => (frames, .error e)
  | (frames, .ok state) => (frames, state.finish)

end CommandLink.Frame
