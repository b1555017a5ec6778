/-!
# Maps from texts

Finite maps whose keys are texts, kept in the order of the keys. Texts are ordered by their
characters, which is also the order of their UTF-8 bytes. The view of a map is `get?`
(`get?_insert`, `get?_erase`); its listing is `entries`, which is strictly sorted and lists what is
under each key (`get?_eq_some_iff`).
-/

namespace CommandLink

/-- A finite map from texts to values. -/
structure TextMap (α : Type) where
  /-- The entries in the order of their keys. -/
  entries : List (String × α)
  /-- The keys ascend strictly. -/
  sorted : entries.Pairwise fun a b => a.1 < b.1

namespace TextMap

variable {α : Type}

/-- The map without entries. -/
def empty : TextMap α := ⟨[], .nil⟩

instance : EmptyCollection (TextMap α) := ⟨empty⟩

instance : Inhabited (TextMap α) := ⟨empty⟩

/-- The number of entries. -/
def size (m : TextMap α) : Nat := m.entries.length

/-- Whether there is no entry. -/
def isEmpty (m : TextMap α) : Bool := m.entries.isEmpty

/-- The keys in order. -/
def keys (m : TextMap α) : List String := m.entries.map Prod.fst

/-- The value under a key. -/
def get? (m : TextMap α) (key : String) : Option α :=
  (m.entries.find? fun e => e.1 = key).map Prod.snd

/-- Whether there is an entry under a key. -/
def contains (m : TextMap α) (key : String) : Bool := (m.get? key).isSome

/-- Sorted entries with `value` under `key`. -/
def place (key : String) (value : α) : List (String × α) → List (String × α)
  | [] => [(key, value)]
  | e :: entries =>
    if key < e.1 then (key, value) :: e :: entries
    else if key = e.1 then (key, value) :: entries
    else e :: place key value entries

theorem mem_place {key : String} {value : α} {entries : List (String × α)} {e : String × α}
    (h : e ∈ place key value entries) : e = (key, value) ∨ e ∈ entries := by
  induction entries with
  | nil => simpa [place] using h
  | cons a entries ih =>
    rw [place] at h
    split at h
    · simpa using h
    · split at h
      · simp only [List.mem_cons] at h ⊢
        rcases h with h | h
        · exact .inl h
        · exact .inr (.inr h)
      · simp only [List.mem_cons] at h ⊢
        rcases h with h | h
        · exact .inr (.inl h)
        · rcases ih h with h | h
          · exact .inl h
          · exact .inr (.inr h)

private theorem lt_of_not_lt_of_ne {a b : String} (h : ¬ a < b) (hne : ¬ a = b) : b < a := by
  rcases Decidable.em (b < a) with hb | hb
  · exact hb
  · exact absurd (String.le_antisymm (String.not_lt.1 hb) (String.not_lt.1 h)) hne

theorem sorted_place (key : String) (value : α) {entries : List (String × α)}
    (h : entries.Pairwise fun a b => a.1 < b.1) :
    (place key value entries).Pairwise fun a b => a.1 < b.1 := by
  induction entries with
  | nil => simp [place]
  | cons e entries ih =>
    rw [List.pairwise_cons] at h
    rw [place]
    split
    · rename_i hlt
      refine List.pairwise_cons.2 ⟨?_, List.pairwise_cons.2 h⟩
      intro a ha
      rcases List.mem_cons.1 ha with rfl | ha
      · exact hlt
      · exact String.lt_trans hlt (h.1 a ha)
    · split
      · rename_i heq
        refine List.pairwise_cons.2 ⟨?_, h.2⟩
        intro a ha
        simpa [heq] using h.1 a ha
      · rename_i hlt hne
        refine List.pairwise_cons.2 ⟨?_, ih h.2⟩
        intro a ha
        rcases mem_place ha with rfl | ha
        · exact lt_of_not_lt_of_ne hlt hne
        · exact h.1 a ha

/-- The map with `value` under `key`. -/
def insert (m : TextMap α) (key : String) (value : α) : TextMap α :=
  ⟨place key value m.entries, sorted_place key value m.sorted⟩

/-- The map without an entry under `key`. -/
def erase (m : TextMap α) (key : String) : TextMap α :=
  ⟨m.entries.filter fun e => e.1 ≠ key, m.sorted.sublist List.filter_sublist⟩

/-- The map that holds the entries of a list; of two under one key the later stands. -/
def ofList (entries : List (String × α)) : TextMap α :=
  entries.foldl (fun m e => m.insert e.1 e.2) empty

@[simp]
theorem get?_empty (key : String) : (empty : TextMap α).get? key = none := rfl

private theorem find?_place (key other : String) (value : α) {entries : List (String × α)}
    (h : entries.Pairwise fun a b => a.1 < b.1) :
    ((place key value entries).find? fun e => e.1 = other).map Prod.snd =
      if other = key then some value
      else (entries.find? fun e => e.1 = other).map Prod.snd := by
  induction entries with
  | nil =>
    by_cases ho : other = key
    · simp [place, ho]
    · simp [place, ho, Ne.symm ho]
  | cons e entries ih =>
    rw [List.pairwise_cons] at h
    have ih := ih h.2
    rw [place]
    split
    · by_cases ho : other = key
      · simp [ho]
      · simp [ho, Ne.symm ho]
    · split
      · rename_i heq
        by_cases ho : other = key
        · simp [ho]
        · have hk : ¬ key = other := fun hk => ho hk.symm
          have he : ¬ e.1 = other := fun he => ho (he.symm.trans heq.symm)
          simp [ho, hk, he]
      · rename_i hne
        by_cases he : e.1 = other
        · have ho : ¬ other = key := fun hk => hne (he.trans hk).symm
          simp [he, ho]
        · simpa [he] using ih

@[simp]
theorem get?_insert (m : TextMap α) (key other : String) (value : α) :
    (m.insert key value).get? other = if other = key then some value else m.get? other :=
  find?_place key other value m.sorted

@[simp]
theorem get?_erase (m : TextMap α) (key other : String) :
    (m.erase key).get? other = if other = key then none else m.get? other := by
  simp only [get?, erase, List.find?_filter]
  by_cases h : other = key
  · subst h
    simp [List.find?_eq_none]
  · simp only [h, if_false]
    congr 2
    funext e
    by_cases he : e.1 = other
    · subst he; simp [h]
    · simp [he]

private theorem find?_of_mem {entries : List (String × α)}
    (h : entries.Pairwise fun a b => a.1 < b.1) {e : String × α} (he : e ∈ entries) :
    (entries.find? fun a => a.1 = e.1) = some e := by
  induction entries with
  | nil => simp at he
  | cons a entries ih =>
    rw [List.pairwise_cons] at h
    rcases List.mem_cons.1 he with rfl | he
    · simp
    · have hne : ¬ a.1 = e.1 := String.ne_of_lt (h.1 e he)
      rw [List.find?_cons_of_neg (by simpa using hne)]
      exact ih h.2 he

/-- What is under a key is what is listed with it. -/
theorem get?_eq_some_iff {m : TextMap α} {key : String} {value : α} :
    m.get? key = some value ↔ (key, value) ∈ m.entries := by
  constructor
  · intro h
    obtain ⟨e, he, rfl⟩ := Option.map_eq_some_iff.1 h
    have hkey : e.1 = key := by simpa using List.find?_some he
    subst hkey
    exact List.mem_of_find?_eq_some he
  · intro h
    rw [get?, find?_of_mem m.sorted h]
    rfl

theorem nodup_keys (m : TextMap α) : m.keys.Nodup :=
  List.pairwise_map.2 (m.sorted.imp String.ne_of_lt)

theorem contains_iff {m : TextMap α} {key : String} : m.contains key = true ↔ key ∈ m.keys := by
  simp [contains, Option.isSome_iff_exists, get?_eq_some_iff, keys]

/-- Nothing is removed where there is nothing under the key. -/
theorem erase_of_not_contains {m : TextMap α} {key : String} (h : ¬ m.contains key = true) :
    m.erase key = m := by
  obtain ⟨entries, sorted⟩ := m
  simp only [contains, get?, Option.isSome_map, List.find?_isSome, not_exists, not_and,
    decide_eq_true_eq] at h
  simp only [erase, mk.injEq, List.filter_eq_self, decide_eq_true_eq]
  exact fun e he hkey => h e he hkey

end TextMap

end CommandLink
