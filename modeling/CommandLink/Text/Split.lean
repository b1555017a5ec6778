/-!
# Splitting at a character

The pieces between the occurrences of a character (`splitOn`), of which there is always one more
than there are occurrences, and the two parts around the first or the last occurrence. No piece holds
the character (`not_mem_of_mem_splitOn`), joining and splitting undo each other (`intercalate_splitOn`,
`splitOn_intercalate`), and what is joined begins and ends as its pieces do (`head?_intercalate`,
`getLast?_intercalate`).
-/

namespace CommandLink.Text

/-- The pieces of a list of characters between the occurrences of `sep`. -/
def splitOn (sep : Char) : List Char → List (List Char)
  | [] => [[]]
  | c :: cs =>
    if c = sep then [] :: splitOn sep cs
    else match splitOn sep cs with
      | [] => [[c]]
      | piece :: pieces => (c :: piece) :: pieces

theorem splitOn_ne_nil (sep : Char) (cs : List Char) : splitOn sep cs ≠ [] := by
  cases cs with
  | nil => simp [splitOn]
  | cons c cs =>
    rw [splitOn]
    split
    · simp
    · split <;> simp

theorem length_splitOn (sep : Char) (cs : List Char) :
    (splitOn sep cs).length = cs.count sep + 1 := by
  induction cs with
  | nil => rfl
  | cons c cs ih =>
    rw [splitOn]
    split
    · rename_i h
      simp [ih, h]
    · rename_i h
      have hne := splitOn_ne_nil sep cs
      match hs : splitOn sep cs with
      | [] => exact absurd hs hne
      | piece :: pieces =>
        have := ih
        rw [hs] at this
        simp at this
        simp [List.count_cons_of_ne h, this]

/-- Joining the pieces again gives back what was split. -/
theorem intercalate_splitOn (sep : Char) (cs : List Char) :
    [sep].intercalate (splitOn sep cs) = cs := by
  induction cs with
  | nil => rfl
  | cons c cs ih =>
    rw [splitOn]
    have hne := splitOn_ne_nil sep cs
    match hs : splitOn sep cs with
    | [] => exact absurd hs hne
    | piece :: pieces =>
      rw [hs] at ih
      split
      · rename_i h
        subst h
        simpa [List.intercalate, List.intersperse] using ih
      · cases pieces with
        | nil => simpa [List.intercalate, List.intersperse] using ih
        | cons p ps => simpa [List.intercalate, List.intersperse] using ih

theorem splitOn_of_not_mem {sep : Char} {cs : List Char} (h : sep ∉ cs) : splitOn sep cs = [cs] := by
  induction cs with
  | nil => rfl
  | cons c cs ih =>
    simp only [List.mem_cons, not_or] at h
    rw [splitOn, if_neg (Ne.symm h.1), ih h.2]

theorem splitOn_append {sep : Char} {cs : List Char} (h : sep ∉ cs) (ds : List Char) :
    splitOn sep (cs ++ sep :: ds) = cs :: splitOn sep ds := by
  induction cs with
  | nil => simp [splitOn]
  | cons c cs ih =>
    simp only [List.mem_cons, not_or] at h
    rw [List.cons_append, splitOn, if_neg (Ne.symm h.1), ih h.2]

/-- Splitting what was joined gives back the pieces, of which there has to be one. -/
theorem splitOn_intercalate {sep : Char} {pieces : List (List Char)} (hne : pieces ≠ [])
    (hp : ∀ piece ∈ pieces, sep ∉ piece) : splitOn sep ([sep].intercalate pieces) = pieces := by
  induction pieces with
  | nil => exact absurd rfl hne
  | cons piece pieces ih =>
    have hpiece := hp piece List.mem_cons_self
    cases pieces with
    | nil => rw [List.intercalate_singleton, splitOn_of_not_mem hpiece]
    | cons next pieces =>
      rw [List.intercalate_cons_cons, List.append_assoc, List.singleton_append,
        splitOn_append hpiece, ih (by simp) fun q hq => hp q (List.mem_cons_of_mem _ hq)]

theorem mem_of_mem_intercalate {sep c : Char} {pieces : List (List Char)}
    (h : c ∈ [sep].intercalate pieces) : c = sep ∨ ∃ piece ∈ pieces, c ∈ piece := by
  induction pieces with
  | nil => cases h
  | cons piece pieces ih =>
    cases pieces with
    | nil =>
      rw [List.intercalate_singleton] at h
      exact .inr ⟨piece, List.mem_cons_self, h⟩
    | cons next pieces =>
      rw [List.intercalate_cons_cons, List.mem_append, List.mem_append, List.mem_singleton] at h
      rcases h with (h | h) | h
      · exact .inr ⟨piece, List.mem_cons_self, h⟩
      · exact .inl h
      · exact (ih h).imp_right fun ⟨p, hp, hc⟩ => ⟨p, List.mem_cons_of_mem _ hp, hc⟩

/-- What is joined begins as its first piece does, if that is not empty. -/
theorem head?_intercalate {sep : Char} {piece : List Char} (h : piece ≠ [])
    (pieces : List (List Char)) : ([sep].intercalate (piece :: pieces)).head? = piece.head? := by
  cases pieces with
  | nil => rw [List.intercalate_singleton]
  | cons next pieces =>
    rw [List.intercalate_cons_cons, List.append_assoc, List.head?_append,
      Option.or_of_isSome (List.isSome_head?.mpr h)]

/-- What is joined ends as its last piece does, if that is not empty. -/
theorem getLast?_intercalate {sep : Char} {piece : List Char} (h : piece ≠ [])
    (pieces : List (List Char)) :
    ([sep].intercalate (pieces ++ [piece])).getLast? = piece.getLast? := by
  induction pieces with
  | nil => rw [List.nil_append, List.intercalate_singleton]
  | cons first pieces ih =>
    obtain ⟨next, rest, hrest⟩ := List.exists_cons_of_ne_nil (l := pieces ++ [piece]) (by simp)
    rw [hrest] at ih
    rw [List.cons_append, hrest, List.intercalate_cons_cons, List.getLast?_append, ih,
      Option.or_of_isSome (List.getLast?_isSome.mpr h)]

/-- No piece holds the character at which was split. -/
theorem not_mem_of_mem_splitOn {sep : Char} {cs piece : List Char} (h : piece ∈ splitOn sep cs) :
    sep ∉ piece := by
  induction cs generalizing piece with
  | nil =>
    rw [splitOn, List.mem_singleton] at h
    simp [h]
  | cons c cs ih =>
    rw [splitOn] at h
    split at h
    · rcases List.mem_cons.1 h with rfl | h
      · simp
      · exact ih h
    · rename_i hc
      match hs : splitOn sep cs with
      | [] => exact absurd hs (splitOn_ne_nil sep cs)
      | first :: pieces =>
        rw [hs] at h ih
        rcases List.mem_cons.1 h with rfl | h
        · simpa [Ne.symm hc] using ih List.mem_cons_self
        · exact ih (List.mem_cons_of_mem _ h)

/-- The parts before and after the first occurrence of `sep`. -/
def splitOnce (sep : Char) : List Char → Option (List Char × List Char)
  | [] => none
  | c :: cs =>
    if c = sep then some ([], cs)
    else (splitOnce sep cs).map fun parts => (c :: parts.1, parts.2)

theorem eq_append_of_splitOnce {sep : Char} {cs first rest : List Char}
    (h : splitOnce sep cs = some (first, rest)) : cs = first ++ sep :: rest ∧ sep ∉ first := by
  induction cs generalizing first with
  | nil => simp [splitOnce] at h
  | cons c cs ih =>
    rw [splitOnce] at h
    split at h
    · rename_i hc
      simp at h
      obtain ⟨rfl, rfl⟩ := h
      simp [hc]
    · rename_i hc
      simp only [Option.map_eq_some_iff, Prod.mk.injEq] at h
      obtain ⟨⟨a, b⟩, hab, rfl, rfl⟩ := h
      obtain ⟨h₁, h₂⟩ := ih hab
      simp [h₁, h₂, Ne.symm hc]

theorem splitOnce_append {sep : Char} {cs : List Char} (h : sep ∉ cs) (ds : List Char) :
    splitOnce sep (cs ++ sep :: ds) = some (cs, ds) := by
  induction cs with
  | nil => simp [splitOnce]
  | cons c cs ih =>
    simp only [List.mem_cons, not_or] at h
    rw [List.cons_append, splitOnce, if_neg (Ne.symm h.1), ih h.2, Option.map_some]

/-- The parts before and after the last occurrence of `sep`. -/
def splitLast (sep : Char) (cs : List Char) : Option (List Char × List Char) :=
  (splitOnce sep cs.reverse).map fun parts => (parts.2.reverse, parts.1.reverse)

end CommandLink.Text
