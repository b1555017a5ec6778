import CommandLink.Proofs.Json.Numeral

/-!
# Written containers are read back

`Reads` says that a reader of items takes the written items of a container one after the other;
then it takes the whole container (`items_yields`). From this the members of an object and the items
of an array are read back.
-/

namespace CommandLink.Json

open Text.Utf8 (encode)

/-! ## Single bytes -/

theorem skip_cons {b : UInt8} (hb : isBlankByte b = false) (rest : Bytes) :
    skip (b :: rest) = b :: rest := by
  rw [skip, List.dropWhile_cons, hb]
  rfl

/-- What is written begins with a byte that neither is blank nor ends a container. -/
def Begins (front : Bytes) : Prop :=
  ∃ b tail, front = b :: tail ∧ isBlankByte b = false ∧ b ≠ 93 ∧ b ≠ 125

/-- A reader that takes a text behind a quote reads back a written text. -/
theorem quoted_yields {reader : Reader String}
    (hr : ∀ input : Bytes, reader (34 :: input) = textOnto [] input (Nat.lt_succ_self _))
    (s : String) (rest : Bytes) : reader.Yields (encode (textChars s)) s rest := by
  rw [encode_textChars]
  have hlt : (encode (s.toList.flatMap textChar ++ ['"']) ++ rest).length <
      (34 :: encode (s.toList.flatMap textChar ++ ['"']) ++ rest).length := Nat.lt_succ_self _
  obtain ⟨h', htext⟩ := textOnto_textChars s hlt
  exact ⟨h', (hr _).trans htext⟩

/-- The key of a member is read back. -/
theorem key_yields (s : String) (rest : Bytes) : Reader.Yields key (encode (textChars s)) s rest :=
  quoted_yields (fun _ => rfl) s rest

/-- A text is read back where nothing else fits. -/
theorem textOnly_yields (s : String) (rest : Bytes) :
    Reader.Yields textOnly (encode (textChars s)) s rest :=
  quoted_yields (fun _ => rfl) s rest

/-- The value of a member is read back behind its colon. -/
theorem afterColon_yields {α : Type} {reader : Reader α} {front rest : Bytes} {value : α}
    (h : reader.Yields front value rest) :
    (afterColon reader).Yields (58 :: front) value rest := by
  obtain ⟨hs, hr⟩ := h
  refine ⟨Nat.lt_succ_of_lt hs, ?_⟩
  have hcolon : afterColon reader (58 :: (front ++ rest)) =
      (reader (front ++ rest)).map (·.weaken (Nat.le_succ _)) := rfl
  rw [hr] at hcolon
  exact hcolon

/-- A member is read back. -/
theorem member_yields {α : Type} {reader : Reader α} {front rest : Bytes} {value : α} (s : String)
    (h : reader.Yields front value rest) :
    (member reader).Yields (encode (textChars s) ++ 58 :: front) (s, value) rest := by
  obtain ⟨hk, hkey⟩ := (key_yields s (58 :: front ++ rest)).of_eq (List.append_assoc _ _ _)
  obtain ⟨hv, hvalue⟩ := afterColon_yields h
  refine ⟨Nat.lt_trans hv hk, ?_⟩
  unfold member
  rw [hkey]
  simp only [hvalue]

/-! ## One item at a time -/

section Items

variable {σ : Type} {close : UInt8} {step : σ → Reader σ} {state : σ} {whole input : Bytes}

theorem length_lt_of_item {t : Taken σ input} {b : UInt8} {rest : Bytes}
    (hs : skip t.rest = b :: rest) : rest.length < input.length :=
  Nat.lt_trans (length_lt_of_skip hs) t.shorter

theorem itemsFrom_of_error {f : Fault} (hstep : step state input = .error f)
    (h : input.length ≤ whole.length) : itemsFrom close step state input h = .error f := by
  rw [itemsFrom, hstep]

theorem itemsFrom_of_nil {t : Taken σ input} (hstep : step state input = .ok t)
    (h : input.length ≤ whole.length) (hs : skip t.rest = []) :
    itemsFrom close step state input h = .error .truncated := by
  rw [itemsFrom, hstep]
  dsimp only
  split
  · rfl
  · rename_i heq
    rw [hs] at heq
    cases heq

/-- The byte behind an item says how the container goes on. -/
theorem itemsFrom_of_cons {t : Taken σ input} (hstep : step state input = .ok t)
    (h : input.length ≤ whole.length) {b : UInt8} {rest : Bytes} (hs : skip t.rest = b :: rest) :
    itemsFrom close step state input h =
      if b = 44 then
        itemsFrom close step t.value rest
          (Nat.le_of_lt (Nat.lt_of_lt_of_le (length_lt_of_item hs) h))
      else if b = close then .ok ⟨t.value, rest, Nat.lt_of_lt_of_le (length_lt_of_item hs) h⟩
      else .error .malformed := by
  rw [itemsFrom, hstep]
  dsimp only
  split
  · rename_i heq
    rw [hs] at heq
    cases heq
  · rename_i heq
    rw [hs] at heq
    cases heq
    rfl

theorem items_of_nil (hs : skip input = []) : items close step state input = .error .truncated := by
  unfold items
  split
  · rfl
  · rename_i heq
    rw [hs] at heq
    cases heq

/-- The first byte says whether the container is empty. -/
theorem items_of_cons {b : UInt8} {rest : Bytes} (hs : skip input = b :: rest) :
    items close step state input =
      if b = close then .ok ⟨state, rest, length_lt_of_skip hs⟩
      else itemsFrom close step state input (Nat.le_refl _) := by
  unfold items
  split
  · rename_i heq
    rw [hs] at heq
    cases heq
  · rename_i heq
    rw [hs] at heq
    cases heq
    rfl

end Items

/-! ## Written items -/

/-- A reader of items takes these items one after the other. -/
inductive Reads {σ : Type} (step : σ → Reader σ) : σ → List Bytes → σ → Prop
  | nil (state : σ) : Reads step state [] state
  | cons {state state' last : σ} {front : Bytes} {fronts : List Bytes} (begins : Begins front)
    (yields : ∀ rest, Stops rest → (step state).Yields front state' rest)
    (later : Reads step state' fronts last) : Reads step state (front :: fronts) last

/-- The items of a container behind the first one, and its end. -/
def moreParts (close : UInt8) : List Bytes → Bytes
  | [] => [close]
  | front :: fronts => 44 :: front ++ moreParts close fronts

/-- The items of a container and its end. -/
def parts (close : UInt8) : List Bytes → Bytes
  | [] => [close]
  | front :: fronts => front ++ moreParts close fronts

theorem stops_moreParts {close : UInt8} (hc : close = 93 ∨ close = 125) (fronts : List Bytes)
    (rest : Bytes) : Stops (moreParts close fronts ++ rest) := by
  rcases fronts with _ | ⟨front, fronts⟩
  · exact ⟨close, rest, rfl, .inr hc⟩
  · exact ⟨44, _, rfl, .inl rfl⟩

theorem Reads.itemsFrom {σ : Type} {step : σ → Reader σ} {close : UInt8}
    (hc : close = 93 ∨ close = 125) {state last : σ} {front : Bytes} {fronts : List Bytes}
    (hr : Reads step state (front :: fronts) last) {whole rest : Bytes}
    (h : (front ++ moreParts close fronts ++ rest).length ≤ whole.length) :
    ∃ h', itemsFrom close step state (front ++ moreParts close fronts ++ rest) h =
      .ok ⟨last, rest, h'⟩ := by
  have hblank : isBlankByte close = false := by
    rcases hc with rfl | rfl <;> decide
  have hcomma : close ≠ 44 := by
    rcases hc with rfl | rfl <;> decide
  induction fronts generalizing state front with
  | nil =>
    obtain - | ⟨begins, yields, later⟩ := hr
    cases later
    obtain ⟨hs, hstep⟩ := (yields (moreParts close [] ++ rest)
      (stops_moreParts hc [] rest)).of_eq (List.append_assoc _ _ _)
    refine ⟨by simp [moreParts] at h ⊢; omega, ?_⟩
    rw [itemsFrom_of_cons hstep h (skip_cons hblank rest), if_neg hcomma, if_pos rfl]
  | cons next fronts ih =>
    obtain - | ⟨begins, yields, later⟩ := hr
    obtain ⟨hs, hstep⟩ := (yields (moreParts close (next :: fronts) ++ rest)
      (stops_moreParts hc (next :: fronts) rest)).of_eq (List.append_assoc _ _ _)
    have hle : (next ++ moreParts close fronts ++ rest).length ≤ whole.length := by
      simp [moreParts] at h ⊢
      omega
    obtain ⟨h', hlater⟩ := ih later hle
    refine ⟨h', ?_⟩
    rw [itemsFrom_of_cons hstep h (skip_cons (by decide) (next ++ moreParts close fronts ++ rest)),
      if_pos rfl]
    exact hlater

/-- The written items of a container are read back. -/
theorem Reads.items_yields {σ : Type} {step : σ → Reader σ} {close : UInt8}
    (hc : close = 93 ∨ close = 125) {state last : σ} {fronts : List Bytes}
    (hr : Reads step state fronts last) (rest : Bytes) :
    (items close step state).Yields (parts close fronts) last rest := by
  have hblank : isBlankByte close = false := by
    rcases hc with rfl | rfl <;> decide
  rcases fronts with _ | ⟨front, fronts⟩
  · cases hr
    exact ⟨by simp [parts], (items_of_cons (skip_cons hblank rest)).trans (if_pos rfl)⟩
  · have hle : (front ++ moreParts close fronts ++ rest).length ≤
        (parts close (front :: fronts) ++ rest).length := Nat.le_refl _
    obtain ⟨h', hitems⟩ := hr.itemsFrom hc hle
    refine ⟨h', ?_⟩
    obtain - | ⟨⟨b, tail, rfl, hb, h93, h125⟩, -, -⟩ := hr
    have hclose : b ≠ close := by
      rcases hc with rfl | rfl
      · exact h93
      · exact h125
    exact (items_of_cons (skip_cons hb _)).trans ((if_neg hclose).trans hitems)

end CommandLink.Json
