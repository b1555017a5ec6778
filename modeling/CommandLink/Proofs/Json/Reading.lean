import CommandLink.Proofs.Json.RoundTrip

/-!
# Readings of one input

Two readers that run through the same container may make different things of its items. `Keeps` says
that the second goes along with the first: it takes the same bytes and what it makes of them is
related to what the first has made, or it refuses an input that the first has found bad. What holds
item by item holds of the whole container (`items_keeps`). In the same way, what every item preserves
is preserved by the container (`items_preserves`); so a document that has been read nests no deeper
than the reader allows (`depth_of_value`).
-/

namespace CommandLink.Json

section Containers

variable {σ τ : Type} {close : UInt8} {step : σ → Reader σ} {state : σ} {whole input : Bytes}

/-! ## What every item preserves -/

variable {P : σ → Prop}

/-- What comes of the first item and is preserved by the others holds of what comes of all items. -/
theorem itemsFrom_preserves {h : input.length ≤ whole.length} {t : Taken σ whole}
    (hfirst : ∀ u, step state input = .ok u → P u.value)
    (hstep : ∀ s input u, P s → step s input = .ok u → P u.value)
    (ht : itemsFrom close step state input h = .ok t) : P t.value := by
  fun_induction itemsFrom close step state input h with
  | case1 state input h f hread => cases ht
  | case2 state input h u hread hskip => cases ht
  | case3 state input h u hread rest hskip hr ih =>
    exact ih (fun v hv => hstep _ _ v (hfirst u hread) hv) ht
  | case4 state input h u hread rest hskip hr hcomma =>
    cases ht
    exact hfirst u hread
  | case5 => cases ht

/-- What every item preserves holds at the end of a container. -/
theorem items_preserves (hstep : ∀ s input u, P s → step s input = .ok u → P u.value)
    {t : Taken σ input} (hp : P state) (ht : items close step state input = .ok t) : P t.value := by
  rcases hs : skip input with _ | ⟨b, rest⟩
  · rw [items_of_nil hs] at ht
    cases ht
  · rw [items_of_cons hs] at ht
    split_ifs at ht
    · cases ht
      exact hp
    · exact itemsFrom_preserves (fun u hu => hstep _ _ u hp hu) hstep ht

/-! ## Two readings -/

/-- A reading goes along with another: it takes the same bytes and makes something related of them,
or it refuses what the other has found bad, or neither takes anything. -/
inductive Keeps (Rel : σ → τ → Prop) (Bad : σ → Prop) :
    Except Fault (Taken σ whole) → Except Fault (Taken τ whole) → Prop
  | both (x : Taken σ whole) (y : Taken τ whole) (rest : y.rest = x.rest)
    (related : Rel x.value y.value) : Keeps Rel Bad (.ok x) (.ok y)
  | refused (x : Taken σ whole) (bad : Bad x.value) : Keeps Rel Bad (.ok x) (.error .mismatched)
  | neither (f g : Fault) : Keeps Rel Bad (.error f) (.error g)

variable {Rel : σ → τ → Prop} {Bad : σ → Prop} {step' : τ → Reader τ} {state' : τ}

/-- What is made of two readings is alike if the readings are. -/
theorem Keeps.map {σ' τ' : Type} {longer : Bytes} {Rel' : σ' → τ' → Prop} {Bad' : σ' → Prop}
    {x : Except Fault (Taken σ whole)} {y : Except Fault (Taken τ whole)} {f : σ → σ'} {g : τ → τ'}
    (h : Keeps Rel Bad x y) (hrel : ∀ {s t}, Rel s t → Rel' (f s) (g t))
    (hbad : ∀ {s}, Bad s → Bad' (f s)) (hle : whole.length ≤ longer.length) :
    Keeps Rel' Bad' (x.map fun t => (t.map f).weaken hle) (y.map fun t => (t.map g).weaken hle) := by
  cases h with
  | both x y rest related => exact .both _ _ rest (hrel related)
  | refused x bad => exact .refused _ (hbad bad)
  | neither f g => exact .neither f g

theorem itemsFrom_keeps
    (hbad : ∀ s input u, Bad s → step s input = .ok u → Bad u.value)
    (hstep : ∀ {state state'} (input), Rel state state' →
      Keeps Rel Bad (step state input) (step' state' input))
    (h : input.length ≤ whole.length) (hr : Rel state state') :
    Keeps Rel Bad (itemsFrom close step state input h) (itemsFrom close step' state' input h) := by
  induction hn : input.length using Nat.strongRecOn generalizing state state' input with
  | ind n ih =>
    have hkeeps := hstep input hr
    generalize hs : step state input = first at hkeeps
    generalize hs' : step' state' input = second at hkeeps
    cases hkeeps with
    | neither f g =>
      rw [itemsFrom_of_error hs, itemsFrom_of_error hs']
      exact .neither f g
    | refused x bad =>
      rw [itemsFrom_of_error hs']
      rcases hall : itemsFrom close step state input h with f | t
      · exact .neither f .mismatched
      · refine .refused t (itemsFrom_preserves (fun u hu => ?_) hbad hall)
        cases hs.symm.trans hu
        exact bad
    | both x y hsame related =>
      rcases hrest : skip x.rest with _ | ⟨b, rest⟩
      · rw [itemsFrom_of_nil hs h hrest, itemsFrom_of_nil hs' h (hsame ▸ hrest)]
        exact .neither _ _
      · rw [itemsFrom_of_cons hs h hrest, itemsFrom_of_cons hs' h (hsame ▸ hrest)]
        split_ifs
        · exact ih rest.length (hn ▸ length_lt_of_item hrest) _ related rfl
        · exact .both _ _ rfl related
        · exact .neither _ _

/-- **A container is read alike** if its items are. -/
theorem items_keeps
    (hbad : ∀ s input u, Bad s → step s input = .ok u → Bad u.value)
    (hstep : ∀ {state state'} (input), Rel state state' →
      Keeps Rel Bad (step state input) (step' state' input)) (hr : Rel state state') :
    Keeps Rel Bad (items close step state input) (items close step' state' input) := by
  rcases hs : skip input with _ | ⟨b, rest⟩
  · rw [items_of_nil hs, items_of_nil hs]
    exact .neither _ _
  · rw [items_of_cons hs, items_of_cons hs]
    split_ifs
    · exact .both _ _ rfl hr
    · exact itemsFrom_keeps hbad hstep _ hr

end Containers

/-! ## What single readers take -/

theorem exists_of_map_eq_ok {α β : Type} {x : Except Fault α} {f : α → β} {b : β}
    (h : x.map f = .ok b) : ∃ a, x = .ok a ∧ f a = b := by
  rcases x with fault | a
  · cases h
  · exact ⟨a, rfl, Except.ok.inj h⟩

section Readers

variable {α β : Type} {input : Bytes}

theorem Reader.map_eq_ok {f : α → β} {reader : Reader α} {t : Taken β input}
    (h : reader.map f input = .ok t) : ∃ x, reader input = .ok x ∧ t = x.map f := by
  obtain ⟨x, hx, rfl⟩ := exists_of_map_eq_ok h
  exact ⟨x, hx, rfl⟩

/-- What stands behind a colon has been read as a value. -/
theorem afterColon_eq_ok {reader : Reader α} {t : Taken α input}
    (h : afterColon reader input = .ok t) :
    ∃ rest, ∃ x : Taken α rest, reader rest = .ok x ∧ t.value = x.value := by
  unfold afterColon at h
  split at h
  · cases h
  · rename_i b rest hs
    split_ifs at h
    obtain ⟨x, hx, rfl⟩ := exists_of_map_eq_ok h
    exact ⟨rest, x, hx, rfl⟩

theorem member_eq_ok {reader : Reader α} {t : Taken (String × α) input}
    (h : member reader input = .ok t) :
    ∃ rest, ∃ x : Taken α rest, reader rest = .ok x ∧ t.value.2 = x.value := by
  unfold member at h
  split at h
  · cases h
  · rename_i k hk
    split at h
    · cases h
    · rename_i v hv
      cases h
      exact afterColon_eq_ok hv

end Readers

/-- What is made of a value in two steps may be made of it in one. -/
theorem map_reader_map {α β γ : Type} {input longer : Bytes} (reader : Reader α) (f : α → β)
    (g : β → γ) (h : input.length ≤ longer.length) :
    ((reader.map f input).map fun t => (t.map g).weaken h) =
      (reader input).map fun t => (t.map fun a => g (f a)).weaken h := by
  unfold Reader.map
  cases reader input <;> rfl

theorem Keeps.reader_map {α α' β β' : Type} {Rel : α → β → Prop} {Bad : α → Prop}
    {Rel' : α' → β' → Prop} {Bad' : α' → Prop} {reader : Reader α} {reader' : Reader β}
    {f : α → α'} {g : β → β'} {input : Bytes} (h : Keeps Rel Bad (reader input) (reader' input))
    (hrel : ∀ {s t}, Rel s t → Rel' (f s) (g t)) (hbad : ∀ {s}, Bad s → Bad' (f s)) :
    Keeps Rel' Bad' (reader.map f input) (reader'.map g input) :=
  h.map hrel hbad (Nat.le_refl _)

/-- Values behind a colon are read alike if they are without it. -/
theorem afterColon_keeps {α β : Type} {Rel : α → β → Prop} {Bad : α → Prop} {reader : Reader α}
    {reader' : Reader β} (h : ∀ input, Keeps Rel Bad (reader input) (reader' input))
    (input : Bytes) : Keeps Rel Bad (afterColon reader input) (afterColon reader' input) := by
  unfold afterColon
  split
  · exact .neither _ _
  · rename_i b rest hs
    split_ifs
    · exact (h rest).map (f := id) (g := id) id id _
    · exact .neither _ _

/-! ## How deep documents nest that have been read -/

/-- A container nests one deeper than what its items may hold. -/
theorem depth_of_elements {d : ℕ} {item : Reader Json}
    (hitem : ∀ {input} {t : Taken Json input}, item input = .ok t → t.value.depth ≤ d)
    {input : Bytes} {t : Taken (List Json) input} (h : elements item input = .ok t) :
    (Json.arr t.value).depth ≤ d + 1 := by
  obtain ⟨x, hx, rfl⟩ := Reader.map_eq_ok h
  have hall : ∀ v ∈ x.value, v.depth ≤ d := by
    refine items_preserves (P := fun read => ∀ v ∈ read, v.depth ≤ d) ?_ (by simp) hx
    intro read input t hread ht
    obtain ⟨y, hy, rfl⟩ := Reader.map_eq_ok ht
    exact List.forall_mem_cons.mpr ⟨hitem hy, hread⟩
  rw [depth, Nat.add_le_add_iff_right, itemsDepth_le_iff]
  exact fun v hv => hall v (List.mem_reverse.mp hv)

theorem depth_of_members {d : ℕ} {item : Reader Json}
    (hitem : ∀ {input} {t : Taken Json input}, item input = .ok t → t.value.depth ≤ d)
    {input : Bytes} {t : Taken (List (String × Json)) input} (h : members item input = .ok t) :
    (Json.obj t.value).depth ≤ d + 1 := by
  obtain ⟨x, hx, rfl⟩ := Reader.map_eq_ok h
  have hall : ∀ m ∈ x.value, m.2.depth ≤ d := by
    refine items_preserves (P := fun read => ∀ m ∈ read, m.2.depth ≤ d) ?_ (by simp) hx
    intro read input t hread ht
    obtain ⟨y, hy, rfl⟩ := Reader.map_eq_ok ht
    obtain ⟨rest, v, hv, hvalue⟩ := member_eq_ok hy
    refine List.forall_mem_cons.mpr ⟨?_, hread⟩
    rw [hvalue]
    exact hitem hv
  rw [depth, Nat.add_le_add_iff_right, membersDepth_le_iff]
  exact fun m hm => hall m (List.mem_reverse.mp hm)

theorem valueWith_of_nil {inner : Option (Reader Json)} {input : Bytes} (hs : skip input = []) :
    valueWith inner input = .error .truncated := by
  unfold valueWith
  split
  · rfl
  · rename_i heq
    rw [hs] at heq
    cases heq

theorem valueWith_of_cons {inner : Option (Reader Json)} {input rest : Bytes} {b : UInt8}
    (hs : skip input = b :: rest) :
    valueWith inner input = valueFrom inner b rest (length_lt_of_skip hs) := by
  unfold valueWith
  split
  · rename_i heq
    rw [hs] at heq
    cases heq
  · rename_i heq
    rw [hs] at heq
    cases heq
    rfl

/-- A document that begins with neither bracket nor brace holds no others. -/
theorem valueFrom_of_scalar (inner : Option (Reader Json)) {whole rest : Bytes} {b : UInt8}
    (hr : rest.length < whole.length) (harr : b ≠ 91) (hobj : b ≠ 123) :
    valueFrom inner b rest hr = valueFrom none b rest hr := by
  simp only [valueFrom, if_neg harr, if_neg hobj]

theorem depth_of_scalar {whole rest : Bytes} {b : UInt8} {hr : rest.length < whole.length}
    {t : Taken Json whole} (h : valueFrom none b rest hr = .ok t) : t.value.depth = 0 := by
  unfold valueFrom at h
  split_ifs at h
  all_goals
    try cases h
    try
      obtain ⟨x, -, rfl⟩ := exists_of_map_eq_ok h
      rfl

theorem valueFrom_bracket (item : Reader Json) {whole rest : Bytes}
    (hr : rest.length < whole.length) : valueFrom (some item) 91 rest hr =
      (elements item rest).map fun t => (t.map .arr).weaken (Nat.le_of_lt hr) := rfl

theorem valueFrom_brace (item : Reader Json) {whole rest : Bytes}
    (hr : rest.length < whole.length) : valueFrom (some item) 123 rest hr =
      (members item rest).map fun t => (t.map .obj).weaken (Nat.le_of_lt hr) := rfl

theorem value_eq_valueWith (depth : ℕ) :
    ∃ inner, value depth = valueWith inner := by
  cases depth with
  | zero => exact ⟨none, rfl⟩
  | succ depth => exact ⟨some (value depth), rfl⟩

/-- **A document that has been read nests no deeper than the reader allows.** -/
theorem depth_of_value {d : ℕ} {input : Bytes} {t : Taken Json input} (h : value d input = .ok t) :
    t.value.depth ≤ d := by
  induction d generalizing input with
  | zero =>
    rcases hs : skip input with _ | ⟨b, rest⟩
    · rw [value, valueWith_of_nil hs] at h
      cases h
    · rw [value, valueWith_of_cons hs] at h
      exact Nat.le_of_eq (depth_of_scalar h)
  | succ d ih =>
    rcases hs : skip input with _ | ⟨b, rest⟩
    · rw [value, valueWith_of_nil hs] at h
      cases h
    · rw [value, valueWith_of_cons hs] at h
      by_cases harr : b = 91
      · subst harr
        rw [valueFrom_bracket] at h
        obtain ⟨x, hx, rfl⟩ := exists_of_map_eq_ok h
        exact depth_of_elements ih hx
      · by_cases hobj : b = 123
        · subst hobj
          rw [valueFrom_brace] at h
          obtain ⟨x, hx, rfl⟩ := exists_of_map_eq_ok h
          exact depth_of_members ih hx
        · rw [valueFrom_of_scalar _ _ harr hobj] at h
          rw [depth_of_scalar h]
          exact Nat.zero_le _

/-! ## Texts, and whole inputs -/

theorem textOnly_of_nil {input : Bytes} (hs : skip input = []) :
    textOnly input = .error .truncated := by
  unfold textOnly
  split
  · rfl
  · rename_i heq
    rw [hs] at heq
    cases heq

theorem textOnly_of_cons {input rest : Bytes} {b : UInt8} (hs : skip input = b :: rest) :
    textOnly input =
      if b = 34 then textOnto [] rest (length_lt_of_skip hs)
      else if b = 91 ∨ b = 123 then .error .mismatched
      else match valueWith none input with
        | .error f => .error f
        | .ok _ => .error .mismatched := by
  unfold textOnly
  split
  · rename_i heq
    rw [hs] at heq
    cases heq
  · rename_i heq
    rw [hs] at heq
    cases heq
    rfl

/-- Only what begins with a quote is a text. -/
theorem ne_str_of_valueFrom {inner : Option (Reader Json)} {whole rest : Bytes} {b : UInt8}
    {hr : rest.length < whole.length} {t : Taken Json whole} (hb : b ≠ 34)
    (h : valueFrom inner b rest hr = .ok t) (s : String) : t.value ≠ .str s := by
  intro hs
  have hother : ∀ {α : Type} {x : Except Fault α} {f : α → Taken Json whole},
      x.map f = .ok t → ∃ a, (f a).value = .str s := fun hmap => by
    obtain ⟨a, -, rfl⟩ := exists_of_map_eq_ok hmap
    exact ⟨a, hs⟩
  simp only [valueFrom, if_neg hb] at h
  rcases inner with _ | item
  all_goals
    split_ifs at h
    all_goals
      obtain ⟨a, ha⟩ := hother h
      cases ha

theorem atEnd_eq_ok_iff {α : Type} {input : Bytes} {t : Taken α input} {a : α} :
    atEnd t = .ok a ↔ skip t.rest = [] ∧ t.value = a := by
  unfold atEnd
  rcases skip t.rest with _ | ⟨b, rest⟩ <;> simp

theorem parse_eq_ok_iff {body : Bytes} {v : Json} : parse body = .ok v ↔
    ∃ t, value maxDepth body = .ok t ∧ skip t.rest = [] ∧ t.value = v := by
  unfold parse
  rcases value maxDepth body with f | t
  · simp
  · simpa using atEnd_eq_ok_iff

end CommandLink.Json
