import CommandLink.Proofs.Json.RoundTrip

/-!
# Canonical documents

A document in canonical form is its own canonical form (`canonical_canonical`), since a map is what
its entries make (`TextMap.ofList_entries`). The canonical form of a document without floats has
none.
-/

namespace CommandLink

namespace TextMap

variable {α : Type}

/-- A key behind all others is put at the end. -/
theorem place_of_lt {key : String} {value : α} {entries : List (String × α)}
    (h : ∀ e ∈ entries, e.1 < key) : place key value entries = entries ++ [(key, value)] := by
  induction entries with
  | nil => rfl
  | cons e entries ih =>
    obtain ⟨he, hlater⟩ := List.forall_mem_cons.mp h
    have hlt : ¬ key < e.1 := fun hk => String.lt_irrefl _ (String.lt_trans hk he)
    have hne : ¬ key = e.1 := fun hk => String.lt_irrefl key (by rwa [← hk] at he)
    rw [place, if_neg hlt, if_neg hne, ih hlater, List.cons_append]

theorem entries_foldl_insert {entries : List (String × α)} {m : TextMap α}
    (h : (m.entries ++ entries).Pairwise fun a b => a.1 < b.1) :
    (entries.foldl (fun m e => m.insert e.1 e.2) m).entries = m.entries ++ entries := by
  induction entries generalizing m with
  | nil => rw [List.foldl_nil, List.append_nil]
  | cons e entries ih =>
    have hinsert : (m.insert e.1 e.2).entries = m.entries ++ [e] := by
      refine place_of_lt fun a ha => ?_
      exact (List.pairwise_append.mp h).2.2 a ha e (List.mem_cons_self ..)
    rw [List.foldl_cons, ih (by rwa [hinsert, List.append_assoc, List.singleton_append]), hinsert,
      List.append_assoc, List.singleton_append]

/-- The entries of a map make that map again. -/
theorem ofList_entries (m : TextMap α) : (ofList m.entries).entries = m.entries :=
  entries_foldl_insert (m := empty) m.sorted

theorem mem_entries_foldl_insert {entries : List (String × α)} {m : TextMap α} {e : String × α}
    (h : e ∈ (entries.foldl (fun m e => m.insert e.1 e.2) m).entries) :
    e ∈ m.entries ∨ e ∈ entries := by
  induction entries generalizing m with
  | nil => exact .inl h
  | cons a entries ih =>
    rcases ih h with hm | hm
    · rcases mem_place hm with rfl | hm
      · exact .inr (List.mem_cons_self ..)
      · exact .inl hm
    · exact .inr (List.mem_cons_of_mem a hm)

/-- Every entry of a map comes from the list that it was made of. -/
theorem mem_of_mem_ofList {entries : List (String × α)} {e : String × α}
    (h : e ∈ (ofList entries).entries) : e ∈ entries := by
  rcases mem_entries_foldl_insert h with hm | hm
  · exact absurd hm (by simp [empty])
  · exact hm

end TextMap

namespace Json

theorem canonicalItems_of_fixed {items : List Json} (h : ∀ v ∈ items, v.canonical = v) :
    canonicalItems items = items := by
  induction items with
  | nil => rfl
  | cons item items ih =>
    obtain ⟨hitem, hlater⟩ := List.forall_mem_cons.mp h
    rw [canonicalItems, hitem, ih hlater]

theorem canonicalMembers_of_fixed {members : List (String × Json)}
    (h : ∀ m ∈ members, m.2.canonical = m.2) : canonicalMembers members = members := by
  induction members with
  | nil => rfl
  | cons member members ih =>
    obtain ⟨k, v⟩ := member
    obtain ⟨hmember, hlater⟩ := List.forall_mem_cons.mp h
    rw [canonicalMembers, hmember, ih hlater]

mutual

/-- A document in canonical form is its own canonical form. -/
theorem canonical_canonical : (v : Json) → v.canonical.canonical = v.canonical
  | .null => rfl
  | .bool _ => rfl
  | .num _ => rfl
  | .str _ => rfl
  | .arr items => by
    rw [canonical, canonical, canonicalItems_of_fixed (fixed_of_mem_canonicalItems items)]
  | .obj members => by
    rw [canonical, canonical, canonicalMembers_of_fixed fun m hm =>
      fixed_of_mem_canonicalMembers members m (TextMap.mem_of_mem_ofList hm),
      TextMap.ofList_entries]

theorem fixed_of_mem_canonicalItems : (items : List Json) →
    ∀ v ∈ canonicalItems items, v.canonical = v
  | [] => fun v hv => absurd hv (by simp [canonicalItems])
  | item :: items => fun v hv => by
    rw [canonicalItems, List.mem_cons] at hv
    rcases hv with rfl | hv
    · exact canonical_canonical item
    · exact fixed_of_mem_canonicalItems items v hv

theorem fixed_of_mem_canonicalMembers : (members : List (String × Json)) →
    ∀ m ∈ canonicalMembers members, m.2.canonical = m.2
  | [] => fun m hm => absurd hm (by simp [canonicalMembers])
  | (k, v) :: members => fun m hm => by
    rw [canonicalMembers, List.mem_cons] at hm
    rcases hm with rfl | hm
    · exact canonical_canonical v
    · exact fixed_of_mem_canonicalMembers members m hm

end

mutual

/-- The canonical form of a document without floats has none. -/
theorem FloatFree.canonical : (v : Json) → v.FloatFree → v.canonical.FloatFree
  | .null, h => h
  | .bool _, h => h
  | .num _, h => h
  | .str _, h => h
  | .arr items, h => by
    rw [Json.canonical, FloatFree, itemsFloatFree_iff]
    exact floatFree_of_mem_canonicalItems items h
  | .obj members, h => by
    rw [Json.canonical, FloatFree, membersFloatFree_iff]
    exact fun m hm =>
      floatFree_of_mem_canonicalMembers members h m (TextMap.mem_of_mem_ofList hm)

theorem floatFree_of_mem_canonicalItems : (items : List Json) → ItemsFloatFree items →
    ∀ v ∈ canonicalItems items, v.FloatFree
  | [], _ => fun v hv => absurd hv (by simp [canonicalItems])
  | item :: items, h => fun v hv => by
    rw [canonicalItems, List.mem_cons] at hv
    rcases hv with rfl | hv
    · exact FloatFree.canonical item h.1
    · exact floatFree_of_mem_canonicalItems items h.2 v hv

theorem floatFree_of_mem_canonicalMembers : (members : List (String × Json)) →
    MembersFloatFree members → ∀ m ∈ canonicalMembers members, m.2.FloatFree
  | [], _ => fun m hm => absurd hm (by simp [canonicalMembers])
  | (k, v) :: members, h => fun m hm => by
    rw [canonicalMembers, List.mem_cons] at hm
    rcases hm with rfl | hm
    · exact FloatFree.canonical v h.1
    · exact floatFree_of_mem_canonicalMembers members h.2 m hm

end

end Json

end CommandLink
