import CommandLink.Proofs.Json.Canonical

/-!
# Objects of texts are read back

An object of texts that is written with one member on each line is read back as the texts under its
keys (`parseTexts_prettyTexts`). The blanks and line ends before a member are passed over by the
reader of its key, those before its text by the reader of texts.
-/

namespace CommandLink.Json

open Text.Utf8 (encode)

/-! ## Blanks in front -/

section Blanks

variable {blanks : Bytes}

theorem skip_append (hb : blanks.all isBlankByte = true) (input : Bytes) :
    skip (blanks ++ input) = skip input := by
  rw [skip, skip, List.dropWhile_append_of_pos (List.all_eq_true.mp hb)]

/-- A reader that takes a text behind a quote takes it behind blanks too. -/
theorem spaced_yields {reader : Reader String}
    (hr : ∀ (input rest : Bytes) (h : skip input = 34 :: rest),
      reader input = textOnto [] rest (length_lt_of_skip h))
    (hb : blanks.all isBlankByte = true) (s : String) (rest : Bytes) :
    reader.Yields (blanks ++ encode (textChars s)) s rest := by
  have hskip : skip (blanks ++ encode (textChars s) ++ rest) =
      34 :: (encode (s.toList.flatMap textChar ++ ['"']) ++ rest) := by
    rw [List.append_assoc, skip_append hb, encode_textChars, List.cons_append,
      skip_cons (by decide)]
  obtain ⟨h', htext⟩ := textOnto_textChars s (length_lt_of_skip hskip)
  exact ⟨h', (hr _ _ hskip).trans htext⟩

theorem key_eq_textOnto {input rest : Bytes} (h : skip input = 34 :: rest) :
    key input = textOnto [] rest (length_lt_of_skip h) := by
  unfold key
  split
  · rename_i heq
    rw [h] at heq
    cases heq
  · rename_i heq
    rw [h] at heq
    cases heq
    exact if_pos rfl

theorem textOnly_eq_textOnto {input rest : Bytes} (h : skip input = 34 :: rest) :
    textOnly input = textOnto [] rest (length_lt_of_skip h) := by
  unfold textOnly
  split
  · rename_i heq
    rw [h] at heq
    cases heq
  · rename_i heq
    rw [h] at heq
    cases heq
    exact if_pos rfl

end Blanks

/-! ## Members -/

/-- The bytes of a member on a line of its own. -/
def prettyMemberBytes (entry : String × String) : Bytes :=
  [10, 32, 32] ++ encode (textChars entry.1) ++ 58 :: 32 :: encode (textChars entry.2)

/-- A member on a line of its own is read back. -/
theorem prettyMember_yields (entry : String × String) (rest : Bytes) :
    (member textOnly).Yields (prettyMemberBytes entry) entry rest := by
  have hlineKey : Reader.Yields key ([10, 32, 32] ++ encode (textChars entry.1)) entry.1
      (58 :: 32 :: encode (textChars entry.2) ++ rest) :=
    spaced_yields (fun _ _ h => key_eq_textOnto h) (by decide) entry.1 _
  have hlineText : Reader.Yields textOnly ([32] ++ encode (textChars entry.2)) entry.2 rest :=
    spaced_yields (fun _ _ h => textOnly_eq_textOnto h) (by decide) entry.2 rest
  obtain ⟨hk, hkey⟩ := hlineKey.of_eq (List.append_assoc _ _ _)
  obtain ⟨hv, hvalue⟩ := afterColon_yields hlineText
  refine ⟨Nat.lt_trans hv hk, ?_⟩
  unfold member prettyMemberBytes
  rw [hkey]
  simp only [List.cons_append, List.nil_append] at hvalue ⊢
  simp only [hvalue]

/-- The bytes of the members behind the first one, and the end of the object. -/
def morePretty : List (String × String) → Bytes
  | [] => [10, 125]
  | entry :: entries => 44 :: prettyMemberBytes entry ++ morePretty entries

theorem itemsFrom_pretty {whole : Bytes} (entry : String × String)
    (entries read : List (String × String))
    (h : (prettyMemberBytes entry ++ morePretty entries).length ≤ whole.length) :
    ∃ h', itemsFrom 125 (fun read => (member textOnly).map (· :: read)) read
      (prettyMemberBytes entry ++ morePretty entries) h =
        .ok ⟨entries.reverse ++ entry :: read, [], h'⟩ := by
  induction entries generalizing entry read with
  | nil =>
    obtain ⟨hs, hstep⟩ := (prettyMember_yields entry (morePretty [])).map (· :: read)
    have hend : skip (morePretty []) = [125] := by decide
    refine ⟨Nat.lt_of_lt_of_le (by simp [prettyMemberBytes]) h, ?_⟩
    rw [itemsFrom_of_cons hstep h hend, if_neg (by decide), if_pos rfl]
    rfl
  | cons next entries ih =>
    obtain ⟨hs, hstep⟩ :=
      (prettyMember_yields entry (morePretty (next :: entries))).map (· :: read)
    have hcomma : skip (morePretty (next :: entries)) =
        44 :: (prettyMemberBytes next ++ morePretty entries) := skip_cons (by decide) _
    have hle : (prettyMemberBytes next ++ morePretty entries).length ≤ whole.length := by
      simp [morePretty] at h ⊢
      omega
    obtain ⟨h', hlater⟩ := ih next (entry :: read) hle
    refine ⟨h', ?_⟩
    rw [itemsFrom_of_cons hstep h hcomma, if_pos rfl, hlater, List.reverse_cons, List.append_assoc]
    rfl

/-! ## Objects -/

theorem encode_prettyMember (entry : String × String) :
    encode ('\n' :: prettyMember entry) = prettyMemberBytes entry := by
  simp only [prettyMember, List.cons_append, List.nil_append, List.append_assoc,
    Text.Utf8.encode_cons, Text.Utf8.encode_append]
  rfl

theorem encode_prettyMembers (entry : String × String) (entries : List (String × String)) :
    encode ('\n' :: ([',', '\n'].intercalate ((entry :: entries).map prettyMember) ++
      ['\n', '}'])) = prettyMemberBytes entry ++ morePretty entries := by
  induction entries generalizing entry with
  | nil =>
    rw [List.map_singleton, List.intercalate_singleton, ← List.cons_append,
      Text.Utf8.encode_append, encode_prettyMember]
    rfl
  | cons next entries ih =>
    have hsplit : [',', '\n'].intercalate ((entry :: next :: entries).map prettyMember) =
        prettyMember entry ++ ',' :: '\n' ::
          [',', '\n'].intercalate ((next :: entries).map prettyMember) := by
      simp [List.intercalate]
    rw [hsplit, List.append_assoc, ← List.cons_append, Text.Utf8.encode_append,
      encode_prettyMember, List.cons_append, List.cons_append, Text.Utf8.encode_cons, ih next]
    rfl

/-- **An object of texts is read back.** -/
theorem parseTexts_prettyTexts (m : TextMap String) :
    parseTexts (encode (prettyTexts m.entries)) = .ok m := by
  obtain ⟨entries, hsorted⟩ := m
  rcases entries with _ | ⟨entry, entries⟩
  · rfl
  have hbytes : encode (prettyTexts (entry :: entries)) =
      123 :: (prettyMemberBytes entry ++ morePretty entries) := by
    rw [← encode_prettyMembers]
    rfl
  have hle : (prettyMemberBytes entry ++ morePretty entries).length ≤
      (prettyMemberBytes entry ++ morePretty entries).length := Nat.le_refl _
  obtain ⟨h', hitems⟩ := itemsFrom_pretty entry entries [] hle
  have hskip : skip (prettyMemberBytes entry ++ morePretty entries) =
      34 :: (encode (entry.1.toList.flatMap textChar ++ ['"']) ++
        (58 :: 32 :: encode (textChars entry.2) ++ morePretty entries)) := by
    rw [prettyMemberBytes, List.append_assoc, List.append_assoc, skip_append (by decide),
      encode_textChars, List.cons_append, skip_cons (by decide)]
  have hmembers : members textOnly (prettyMemberBytes entry ++ morePretty entries) =
      .ok ⟨entry :: entries, [], h'⟩ := by
    have hread : ∀ input, members textOnly input =
        (items 125 (fun read => (member textOnly).map (· :: read)) [] input).map
          (Taken.map List.reverse) := fun _ => rfl
    rw [hread, items_of_cons hskip, if_neg (by decide), hitems]
    simp [Except.map, Taken.map]
  have hmap : TextMap.ofList (entry :: entries) = ⟨entry :: entries, hsorted⟩ := by
    have hentries := TextMap.ofList_entries ⟨entry :: entries, hsorted⟩
    rcases hm : TextMap.ofList (entry :: entries) with ⟨found, hfound⟩
    simp only [hm] at hentries
    subst hentries
    rfl
  rw [hbytes, parseTexts, skip_cons (by decide)]
  simp only [hmembers, Taken.map, hmap]
  rfl

end CommandLink.Json
