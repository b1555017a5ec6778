/-!
# Tables

Finite maps as lists of entries in the order in which their keys first arrived, each key once.
The view of a table is `get?`, and each operation is known by its effect on that view
(`get?_insert`, `get?_erase`) and on the number of entries.
-/

namespace CommandLink

/-- A finite map from keys to values. -/
structure Table (κ α : Type) where
  /-- The entries, each key once. -/
  entries : List (κ × α)
  /-- No key stands twice. -/
  nodup : (entries.map Prod.fst).Nodup

namespace Table

variable {κ α : Type} [DecidableEq κ]

/-- The table without entries. -/
def empty : Table κ α := ⟨[], by simp⟩

instance : EmptyCollection (Table κ α) := ⟨empty⟩

instance : Inhabited (Table κ α) := ⟨empty⟩

/-- The keys in the order of their arrival. -/
def keys (t : Table κ α) : List κ := t.entries.map Prod.fst

/-- The number of entries. -/
def size (t : Table κ α) : Nat := t.entries.length

/-- Whether there is no entry. -/
def isEmpty (t : Table κ α) : Bool := t.entries.isEmpty

/-- The value of the first entry under a key. -/
def lookup (key : κ) (entries : List (κ × α)) : Option α :=
  (entries.find? fun e => e.1 = key).map Prod.snd

/-- The value under a key. -/
def get? (t : Table κ α) (key : κ) : Option α := lookup key t.entries

/-- Whether there is an entry under a key. -/
def contains (t : Table κ α) (key : κ) : Bool := (t.get? key).isSome

/-- The entries with the value under `key` replaced, or with a new entry at the end. -/
def put (key : κ) (value : α) : List (κ × α) → List (κ × α)
  | [] => [(key, value)]
  | e :: entries => if e.1 = key then (key, value) :: entries else e :: put key value entries

theorem keys_put (key : κ) (value : α) (entries : List (κ × α)) :
    (put key value entries).map Prod.fst =
      if key ∈ entries.map Prod.fst then entries.map Prod.fst
      else entries.map Prod.fst ++ [key] := by
  induction entries with
  | nil => simp [put]
  | cons e entries ih =>
    rw [put]
    by_cases h : e.1 = key
    · simp [h]
    · have h' : ¬ key = e.1 := fun hk => h hk.symm
      simp only [h, if_false, List.map_cons, ih, List.mem_cons, h', false_or]
      split <;> rfl

theorem nodup_put (key : κ) (value : α) {entries : List (κ × α)}
    (h : (entries.map Prod.fst).Nodup) : ((put key value entries).map Prod.fst).Nodup := by
  rw [keys_put]
  split
  · exact h
  · rename_i hk
    rw [List.nodup_append]
    refine ⟨h, by simp, ?_⟩
    intro a ha b hb
    simp only [List.mem_singleton] at hb
    subst hb
    exact fun hab => hk (hab ▸ ha)

/-- The table with `value` under `key`. -/
def insert (t : Table κ α) (key : κ) (value : α) : Table κ α :=
  ⟨put key value t.entries, nodup_put key value t.nodup⟩

/-- The table without an entry under `key`. -/
def erase (t : Table κ α) (key : κ) : Table κ α :=
  ⟨t.entries.filter fun e => e.1 ≠ key, by
    exact (t.nodup.sublist ((List.filter_sublist).map Prod.fst))⟩

/-- The table that holds the entries of a list; of two under one key the later stands. -/
def ofList (entries : List (κ × α)) : Table κ α :=
  entries.foldl (fun t e => t.insert e.1 e.2) empty

@[simp]
theorem get?_empty (key : κ) : (empty : Table κ α).get? key = none := rfl

theorem lookup_put (key other : κ) (value : α) (entries : List (κ × α)) :
    lookup other (put key value entries) = if other = key then some value else lookup other entries := by
  induction entries with
  | nil =>
    by_cases h : other = key
    · simp [put, lookup, h]
    · simp [put, lookup, h, Ne.symm h]
  | cons e entries ih =>
    simp only [lookup] at ih ⊢
    rw [put]
    by_cases h : e.1 = key
    · rw [if_pos h]
      by_cases ho : other = key
      · simp [ho]
      · have h' : ¬ key = other := fun hk => ho hk.symm
        simp [h, ho, h']
    · rw [if_neg h]
      by_cases he : e.1 = other
      · have ho : ¬ other = key := fun hk => h (he.trans hk)
        simp [he, ho]
      · simpa [he] using ih

@[simp]
theorem get?_insert (t : Table κ α) (key other : κ) (value : α) :
    (t.insert key value).get? other = if other = key then some value else t.get? other :=
  lookup_put key other value t.entries

@[simp]
theorem get?_erase (t : Table κ α) (key other : κ) :
    (t.erase key).get? other = if other = key then none else t.get? other := by
  simp only [get?, erase, lookup, List.find?_filter]
  by_cases h : other = key
  · subst h
    simp [List.find?_eq_none]
  · simp only [h, if_false]
    congr 2
    funext e
    by_cases he : e.1 = other
    · subst he; simp [h]
    · simp [he]

theorem mem_keys_iff (t : Table κ α) (key : κ) : key ∈ t.keys ↔ (t.get? key).isSome := by
  simp [keys, get?, lookup]

end Table

end CommandLink
