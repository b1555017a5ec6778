import CommandLink.Json.Basic
import CommandLink.Taken
import CommandLink.Text.Utf8

/-!
# Reading documents

A reader takes a value from the front of an input and leaves a shorter rest. The input is read
once from left to right, and the first thing wrong with it decides the fault. Containers nest at
most 127 deep. Readers for particular shapes are made from `items`, which runs through the items
of a container, and from the readers of single values.
-/

namespace CommandLink.Json

/-- What is wrong with an input. -/
inductive Fault where
  /-- It is no document. -/
  | malformed
  /-- It ends too early. -/
  | truncated
  /-- It is a document of the wrong shape. -/
  | mismatched
  deriving DecidableEq, Repr

/-- Takes a value from the front of an input. -/
abbrev Reader (α : Type) := (input : Bytes) → Except Fault (Taken α input)

/-- Reads a value and applies a function to it. -/
def Reader.map {α β : Type} (f : α → β) (reader : Reader α) : Reader β :=
  fun input => (reader input).map (Taken.map f)

/-! ## Blanks and single bytes -/

/-- Whether a byte may stand between the parts of a document: space, tab or line end. -/
def isBlankByte (b : UInt8) : Bool := b = 32 || b = 9 || b = 10 || b = 13

/-- The input from its first byte on that is not blank. -/
def skip (input : Bytes) : Bytes := input.dropWhile isBlankByte

theorem length_skip_le (input : Bytes) : (skip input).length ≤ input.length :=
  (List.dropWhile_sublist _).length_le

theorem length_lt_of_skip {input rest : Bytes} {b : UInt8} (h : skip input = b :: rest) :
    rest.length < input.length := by
  have := length_skip_le input
  rw [h, List.length_cons] at this
  omega

theorem length_le_of_skip {input rest : Bytes} {b : UInt8} (h : skip input = b :: rest) :
    rest.length ≤ input.length :=
  Nat.le_of_lt (length_lt_of_skip h)

/-- Whether a byte is an ASCII digit. -/
def isDigitByte (b : UInt8) : Bool := 48 ≤ b && b ≤ 57

/-- Requires the bytes of `word` at the front of the input; `whole` is where the word began. -/
def word {whole : Bytes} : (word input : Bytes) → input.length < whole.length →
    Except Fault (Taken Unit whole)
  | [], input, h => .ok ⟨(), input, h⟩
  | _ :: _, [], _ => .error .truncated
  | a :: rest, b :: input, h =>
    if a = b then word rest input (Nat.lt_of_succ_lt h) else .error .malformed

/-! ## Texts -/

/-- The value of a hexadecimal digit, of either case. -/
def hexByte? (b : UInt8) : Option Nat := Bytes.hexValue? (Char.ofNat b.toNat)

/-- The code unit of four hexadecimal digits. -/
def codeUnit : Reader Nat
  | a :: b :: c :: d :: rest =>
    match hexByte? a, hexByte? b, hexByte? c, hexByte? d with
    | some a, some b, some c, some d =>
      .ok ⟨((a * 16 + b) * 16 + c) * 16 + d, rest, by simp only [List.length_cons]; omega⟩
    | _, _, _, _ => .error .malformed
  | _ => .error .truncated

/-- The character of an escape that begins with a code unit. A leading surrogate needs a trailing
one in a second escape right after it. -/
def unicodeEscape : Reader Char := fun input => do
  let first ← codeUnit input
  if 0xDC00 ≤ first.value ∧ first.value ≤ 0xDFFF then .error .malformed
  else if 0xD800 ≤ first.value ∧ first.value ≤ 0xDBFF then
    match h : first.rest with
    | [] => .error .truncated
    | [92] => .error .truncated
    | 92 :: 117 :: rest =>
      let second ← codeUnit rest
      if 0xDC00 ≤ second.value ∧ second.value ≤ 0xDFFF then
        .ok ⟨Char.ofNat (0x10000 + (first.value - 0xD800) * 1024 + (second.value - 0xDC00)),
          second.rest, by
            have := first.shorter
            have := second.shorter
            rw [h] at *
            simp only [List.length_cons] at *
            omega⟩
      else .error .malformed
    | _ => .error .malformed
  else .ok (first.map Char.ofNat)

/-- The character of an escape whose backslash has been taken. -/
def escape : Reader Char
  | [] => .error .truncated
  | b :: rest =>
    let plain (c : Char) : Except Fault (Taken Char (b :: rest)) := .ok ⟨c, rest, by simp⟩
    if b = 34 then plain '"'
    else if b = 92 then plain '\\'
    else if b = 47 then plain '/'
    else if b = 98 then plain (Char.ofNat 8)
    else if b = 102 then plain (Char.ofNat 12)
    else if b = 110 then plain '\n'
    else if b = 114 then plain '\r'
    else if b = 116 then plain '\t'
    else if b = 117 then (unicodeEscape rest).map (·.weaken (by simp))
    else .error .malformed

/-- The text up to the closing quote; `read` holds its bytes so far, last first, and `whole` is
where the text began. The bytes must encode a text, which shows only at its end. -/
def textOnto {whole : Bytes} (read : Bytes) (input : Bytes) (h : input.length < whole.length) :
    Except Fault (Taken String whole) :=
  match input with
  | [] => .error .truncated
  | b :: rest =>
    have hr : rest.length < whole.length := Nat.lt_of_succ_lt h
    if b = 34 then
      match Text.Utf8.toString? read.reverse with
      | some s => .ok ⟨s, rest, hr⟩
      | none => .error .malformed
    else if b = 92 then
      match escape rest with
      | .error f => .error f
      | .ok t =>
        have ht := t.shorter
        textOnto ((String.utf8EncodeChar t.value).reverse ++ read) t.rest (Nat.lt_trans ht hr)
    else if b < 32 then .error .malformed
    else textOnto (b :: read) rest hr
termination_by input.length
decreasing_by all_goals (simp only [List.length_cons]; omega)

/-! ## Numbers -/

/-- The value of an ASCII digit. -/
def digitByte (b : UInt8) : Nat := b.toNat - 48

/-- The digits at the front of an input, and the rest. -/
def digitsFront (input : Bytes) : List Nat × Bytes :=
  ((input.takeWhile isDigitByte).map digitByte, input.dropWhile isDigitByte)

/-- At least one digit. -/
def digits (input : Bytes) : Except Fault (List Nat × Bytes) :=
  match input with
  | [] => .error .truncated
  | b :: _ => if isDigitByte b then .ok (digitsFront input) else .error .malformed

/-- The whole part of a numeral, which has no leading zeros. -/
def wholePart (input : Bytes) : Except Fault (List Nat × Bytes) :=
  match input with
  | 48 :: b :: rest => if isDigitByte b then .error .malformed else .ok ([0], b :: rest)
  | input => digits input

/-- The fraction of a numeral. -/
def fractionPart (input : Bytes) : Except Fault (Option (List Nat) × Bytes) :=
  match input with
  | 46 :: rest => (digits rest).map fun r => (some r.1, r.2)
  | input => .ok (none, input)

/-- The exponent of a numeral: whether it is negative, and its digits. -/
def exponentPart (input : Bytes) : Except Fault (Option (Bool × List Nat) × Bytes) :=
  match input with
  | b :: rest =>
    if b = 101 ∨ b = 69 then
      match rest with
      | 43 :: rest => (digits rest).map fun r => (some (false, r.1), r.2)
      | 45 :: rest => (digits rest).map fun r => (some (true, r.1), r.2)
      | rest => (digits rest).map fun r => (some (false, r.1), r.2)
    else .ok (none, b :: rest)
  | [] => .ok (none, [])

/-- A numeral after its sign. -/
def unsignedNumeral (negative : Bool) (input : Bytes) : Except Fault (Number × Bytes) := do
  let (whole, rest) ← wholePart input
  let (fraction, rest) ← fractionPart rest
  let (exponent, rest) ← exponentPart rest
  match Number.ofParts? ⟨negative, whole, fraction, exponent⟩ with
  | some n => .ok (n, rest)
  | none => .error .malformed

/-! Every part of a numeral leaves no more than it was given, and the whole part leaves less. -/

theorem length_of_digits {input rest : Bytes} {ds : List Nat} (h : digits input = .ok (ds, rest)) :
    rest.length < input.length := by
  unfold digits at h
  split at h
  · cases h
  · rename_i b input
    split at h
    · rename_i hb
      simp only [digitsFront, Except.ok.injEq, Prod.mk.injEq, List.dropWhile_cons, hb,
        if_true] at h
      rw [← h.2, List.length_cons]
      exact Nat.lt_succ_of_le (List.dropWhile_sublist _).length_le
    · cases h

theorem length_of_wholePart {input rest : Bytes} {ds : List Nat}
    (h : wholePart input = .ok (ds, rest)) : rest.length < input.length := by
  unfold wholePart at h
  split at h
  · split at h
    · cases h
    · cases h; simp
  · exact length_of_digits h

theorem length_of_map_digits {γ : Type} {f : List Nat → γ} {input rest : Bytes} {c : γ}
    (h : (digits input).map (fun r => (f r.1, r.2)) = .ok (c, rest)) :
    rest.length < input.length := by
  match hd : digits input with
  | .error e => rw [hd] at h; cases h
  | .ok (ds, r) =>
    rw [hd] at h
    simp only [Except.map, Except.ok.injEq, Prod.mk.injEq] at h
    exact h.2 ▸ length_of_digits hd

theorem length_of_fractionPart {input rest : Bytes} {ds : Option (List Nat)}
    (h : fractionPart input = .ok (ds, rest)) : rest.length ≤ input.length := by
  unfold fractionPart at h
  split at h
  · have := length_of_map_digits (f := some) h
    simp only [List.length_cons]
    omega
  · cases h; exact Nat.le_refl _

theorem length_of_exponentPart {input rest : Bytes} {e : Option (Bool × List Nat)}
    (h : exponentPart input = .ok (e, rest)) : rest.length ≤ input.length := by
  unfold exponentPart at h
  split at h
  · split at h
    · split at h
      · have := length_of_map_digits (f := fun ds => some (false, ds)) h
        simp only [List.length_cons]
        omega
      · have := length_of_map_digits (f := fun ds => some (true, ds)) h
        simp only [List.length_cons]
        omega
      · have := length_of_map_digits (f := fun ds => some (false, ds)) h
        simp only [List.length_cons]
        omega
    · cases h; exact Nat.le_refl _
  · cases h; exact Nat.le_refl _

theorem length_of_unsignedNumeral {negative : Bool} {input rest : Bytes} {n : Number}
    (h : unsignedNumeral negative input = .ok (n, rest)) : rest.length < input.length := by
  unfold unsignedNumeral at h
  match hw : wholePart input with
  | .error e => rw [hw] at h; cases h
  | .ok (whole, rest₁) =>
    match hf : fractionPart rest₁ with
    | .error e => simp [hw, hf, bind, Except.bind] at h
    | .ok (fraction, rest₂) =>
      match he : exponentPart rest₂ with
      | .error e => simp [hw, hf, he, bind, Except.bind] at h
      | .ok (exponent, rest₃) =>
        simp only [hw, hf, he, bind, Except.bind] at h
        split at h
        · simp only [Except.ok.injEq, Prod.mk.injEq] at h
          have := length_of_wholePart hw
          have := length_of_fractionPart hf
          have := length_of_exponentPart he
          rw [← h.2]
          omega
        · cases h

/-- A number after its sign. -/
def magnitude (negative : Bool) : Reader Number := fun input =>
  match h : unsignedNumeral negative input with
  | .error f => .error f
  | .ok (n, after) => .ok ⟨n, after, length_of_unsignedNumeral h⟩

/-- A number, from its sign or its first digit on. -/
def numeral : Reader Number
  | [] => magnitude false []
  | b :: rest =>
    if b = 45 then (magnitude true rest).map (·.weaken (by simp))
    else magnitude false (b :: rest)

/-! ## Containers -/

/-- Runs through the items of a container from an item on: each is read by `step`, which is given
what came of the items before it. `whole` is where the container began. -/
def itemsFrom {σ : Type} {whole : Bytes} (close : UInt8) (step : σ → Reader σ) (state : σ)
    (input : Bytes) (h : input.length ≤ whole.length) : Except Fault (Taken σ whole) :=
  match step state input with
  | .error f => .error f
  | .ok t =>
    match hs : skip t.rest with
    | [] => .error .truncated
    | b :: rest =>
      have hr : rest.length < input.length :=
        Nat.lt_trans (length_lt_of_skip hs) t.shorter
      if b = 44 then itemsFrom close step t.value rest (Nat.le_of_lt (Nat.lt_of_lt_of_le hr h))
      else if b = close then .ok ⟨t.value, rest, Nat.lt_of_lt_of_le hr h⟩
      else .error .malformed
termination_by input.length

/-- Runs through the items of a container whose opening byte has been taken, up to the byte that
closes it. -/
def items {σ : Type} (close : UInt8) (step : σ → Reader σ) (state : σ) : Reader σ := fun input =>
  match h : skip input with
  | [] => .error .truncated
  | b :: rest =>
    if b = close then .ok ⟨state, rest, length_lt_of_skip h⟩
    else itemsFrom close step state input (Nat.le_refl _)

/-- The items of an array whose opening bracket has been taken. -/
def elements {α : Type} (item : Reader α) : Reader (List α) :=
  (items 93 (fun read => item.map (· :: read)) []).map List.reverse

/-- The key of a member. -/
def key : Reader String := fun input =>
  match h : skip input with
  | [] => .error .truncated
  | b :: rest =>
    if b = 34 then textOnto [] rest (length_lt_of_skip h) else .error .malformed

/-- The colon of a member and its value. -/
def afterColon {α : Type} (value : Reader α) : Reader α := fun input =>
  match h : skip input with
  | [] => .error .truncated
  | b :: rest =>
    if b = 58 then (value rest).map (·.weaken (length_le_of_skip h))
    else .error .malformed

/-- A member: its key, and its value as read by `value`. -/
def member {α : Type} (value : Reader α) : Reader (String × α) := fun input =>
  match key input with
  | .error f => .error f
  | .ok k =>
    match afterColon value k.rest with
    | .error f => .error f
    | .ok v => .ok ⟨(k.value, v.value), v.rest, Nat.lt_trans v.shorter k.shorter⟩

/-- The members of an object whose opening brace has been taken. -/
def members {α : Type} (value : Reader α) : Reader (List (String × α)) :=
  (items 125 (fun read => (member value).map (· :: read)) []).map List.reverse

/-! ## Documents -/

/-- A document from its first byte on, whose containers hold documents read by `inner`; none may be
opened without it. `whole` is where the document began. -/
def valueFrom (inner : Option (Reader Json)) {whole : Bytes} (b : UInt8) (rest : Bytes)
    (hr : rest.length < whole.length) : Except Fault (Taken Json whole) :=
  if b = 110 then (word [117, 108, 108] rest hr).map (Taken.map fun _ => .null)
  else if b = 116 then (word [114, 117, 101] rest hr).map (Taken.map fun _ => .bool true)
  else if b = 102 then (word [97, 108, 115, 101] rest hr).map (Taken.map fun _ => .bool false)
  else if b = 34 then (textOnto [] rest hr).map (Taken.map .str)
  else if b = 45 ∨ isDigitByte b then
    (numeral (b :: rest)).map fun t => (t.map Json.num).weaken hr
  else if b = 91 then
    match inner with
    | none => .error .malformed
    | some item => (elements item rest).map fun t => (t.map .arr).weaken (Nat.le_of_lt hr)
  else if b = 123 then
    match inner with
    | none => .error .malformed
    | some item => (members item rest).map fun t => (t.map .obj).weaken (Nat.le_of_lt hr)
  else .error .malformed

/-- A document whose containers hold documents read by `inner`, behind any blanks. -/
def valueWith (inner : Option (Reader Json)) : Reader Json := fun input =>
  match h : skip input with
  | [] => .error .truncated
  | b :: rest => valueFrom inner b rest (length_lt_of_skip h)

/-- A document whose containers nest at most `depth` deep. -/
def value : (depth : Nat) → Reader Json
  | 0 => valueWith none
  | depth + 1 => valueWith (some (value depth))

/-- How deep containers may nest. -/
def maxDepth : Nat := 127

/-- A text where nothing else fits. A container is refused as soon as it opens, any other value
once it has been read. -/
def textOnly : Reader String := fun input =>
  match h : skip input with
  | [] => .error .truncated
  | b :: rest =>
    if b = 34 then textOnto [] rest (length_lt_of_skip h)
    else if b = 91 ∨ b = 123 then .error .mismatched
    else match valueWith none input with
      | .error f => .error f
      | .ok _ => .error .mismatched

/-- Requires that nothing follows what was read. -/
def atEnd {α : Type} {input : Bytes} (t : Taken α input) : Except Fault α :=
  match skip t.rest with
  | [] => .ok t.value
  | _ :: _ => .error .malformed

/-- The document that an input is. -/
def parse (input : Bytes) : Except Fault Json :=
  match value maxDepth input with
  | .error f => .error f
  | .ok t => atEnd t

/-- The texts under the keys of an object that holds nothing else; a repeated key counts with its
last text. -/
def parseTexts (input : Bytes) : Except Fault (TextMap String) :=
  match skip input with
  | 123 :: rest =>
    match members textOnly rest with
    | .error f => .error f
    | .ok t => atEnd (t.map TextMap.ofList)
  | 91 :: _ => .error .mismatched
  | _ =>
    match valueWith none input with
    | .error f => .error f
    | .ok _ => .error .mismatched

end CommandLink.Json
