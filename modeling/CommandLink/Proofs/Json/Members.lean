import CommandLink.Json.Record
import CommandLink.Proofs.Json.Canonical
import Mathlib.Data.List.Perm.Basic

/-!
# The order of members, and members that are not asked for

What a record says under a name is the entry of that name (`namedEntry`). It stays the same where
members with distinct keys are permuted and where a member is added whose key is not asked for
(`Varies.namedEntry_eq`). The canonical form of a document stays the same where the members of an
object inside it are permuted (`Permuted.canonical_eq`).
-/

namespace CommandLink

namespace TextMap

variable {α : Type}

theorem place_perm {key : String} {value : α} {entries : List (String × α)}
    (h : ∀ e ∈ entries, key ≠ e.1) : (place key value entries).Perm ((key, value) :: entries) := by
  induction entries with
  | nil => exact .refl _
  | cons e entries ih =>
    obtain ⟨hne, hlater⟩ := List.forall_mem_cons.mp h
    rw [place]
    split_ifs
    · exact .refl _
    · exact ((ih hlater).cons e).trans (.swap _ _ _)

theorem entries_foldl_insert_perm {entries : List (String × α)} {m : TextMap α}
    (h : ((m.entries ++ entries).map Prod.fst).Nodup) :
    (entries.foldl (fun m e => m.insert e.1 e.2) m).entries.Perm (m.entries ++ entries) := by
  induction entries generalizing m with
  | nil =>
    rw [List.append_nil]
    exact .refl _
  | cons e entries ih =>
    have hinsert : (m.insert e.1 e.2).entries.Perm (e :: m.entries) := by
      refine place_perm fun a ha heq => ?_
      rw [List.map_append, List.nodup_append] at h
      exact h.2.2 a.1 (List.mem_map_of_mem ha) e.1 (by simp) heq.symm
    have hmiddle : ((m.insert e.1 e.2).entries ++ entries).Perm (m.entries ++ e :: entries) :=
      (hinsert.append_right entries).trans List.perm_middle.symm
    rw [List.foldl_cons]
    exact (ih ((hmiddle.map Prod.fst).nodup_iff.mpr h)).trans hmiddle

/-- Entries with distinct keys are the entries of the map that they make. -/
theorem entries_ofList_perm {entries : List (String × α)} (h : (entries.map Prod.fst).Nodup) :
    (ofList entries).entries.Perm entries :=
  entries_foldl_insert_perm (m := empty) h

/-- The order of entries with distinct keys does not matter. -/
theorem entries_ofList_of_perm {entries entries' : List (String × α)}
    (h : (entries.map Prod.fst).Nodup) (hp : entries.Perm entries') :
    (ofList entries).entries = (ofList entries').entries := by
  have h' : (entries'.map Prod.fst).Nodup := (hp.map Prod.fst).nodup_iff.mp h
  have hsame := ((entries_ofList_perm h).trans hp).trans (entries_ofList_perm h').symm
  refine hsame.eq_of_pairwise (fun a b _ _ hab hba => ?_) (ofList entries).sorted
    (ofList entries').sorted
  exact absurd (String.lt_trans hab hba) (String.lt_irrefl _)

end TextMap

namespace Json

variable {members members' first last : List (String × Json)} {key name tag : String}
  {v w value : Json}

/-! ## Entries -/

theorem namedEntry_congr
    (h : members.filter (fun m => m.1 = name) = members'.filter fun m => m.1 = name) :
    namedEntry members name = namedEntry members' name := by
  rw [namedEntry, namedEntry, h]

/-- A member under another key does not matter. -/
theorem namedEntry_append_cons_of_ne (h : key ≠ name) :
    namedEntry (first ++ (key, value) :: last) name = namedEntry (first ++ last) name :=
  namedEntry_congr (by simp [h])

/-- Members under one key do not matter for the entries under other names. -/
theorem namedEntry_filter_ne (h : name ≠ tag) :
    namedEntry (members.filter fun m => m.1 ≠ tag) name = namedEntry members name := by
  refine namedEntry_congr ?_
  rw [List.filter_filter]
  refine List.filter_congr fun m _ => ?_
  by_cases hm : m.1 = name
  · simp [hm, h]
  · simp [hm]

theorem namedEntry_filter_eq :
    namedEntry (members.filter fun m => m.1 ≠ name) name = some .omitted := by
  rw [namedEntry, List.filter_filter, List.filter_eq_nil_iff.mpr (by simp)]

theorem namedEntry_of_perm (h : (members.map Prod.fst).Nodup) (hp : members.Perm members') :
    namedEntry members name = namedEntry members' name := by
  refine namedEntry_congr ?_
  have hfilter := hp.filter fun m => m.1 = name
  rcases hone : members.filter (fun m => m.1 = name) with _ | ⟨m, _ | ⟨m', others⟩⟩
  · rw [hone] at hfilter ⊢
    exact hfilter.nil_eq
  · rw [hone] at hfilter ⊢
    exact (List.perm_singleton.mp hfilter.symm).symm
  · -- Two members under one name have no distinct keys.
    have hsub : [m.1, m'.1].Sublist (members.map Prod.fst) :=
      ((List.singleton_sublist.mpr List.mem_cons_self |>.cons_cons m).trans
        (hone ▸ List.filter_sublist)).map Prod.fst
    have hkeys : ∀ a ∈ m :: m' :: others, a.1 = name := by
      intro a ha
      rw [← hone, List.mem_filter] at ha
      exact of_decide_eq_true ha.2
    have hnodup := h.sublist hsub
    rw [hkeys m (by simp), hkeys m' (by simp)] at hnodup
    simp at hnodup

theorem namedEntry_reverse (members : List (String × Json)) (name : String) :
    namedEntry members.reverse name =
      match members.filter fun m => m.1 = name with
      | [] => some .omitted
      | [m] => some (.given m.2)
      | _ => none := by
  rw [namedEntry, List.filter_reverse]
  generalize members.filter (fun m => m.1 = name) = named
  rcases named with _ | ⟨a, _ | ⟨b, others⟩⟩
  · rfl
  · rfl
  · rcases h : (a :: b :: others).reverse with _ | ⟨x, _ | ⟨y, later⟩⟩
    · simpa using congrArg List.length h
    · simpa using congrArg List.length h
    · rfl

/-- The members of an object in another order, or with one more under a key that is not known. -/
inductive Varies (known : List String) : List (String × Json) → List (String × Json) → Prop
  | permuted (members members' : List (String × Json)) (distinct : (members.map Prod.fst).Nodup)
    (perm : members.Perm members') : Varies known members members'
  | extended (first last : List (String × Json)) (key : String) (value : Json)
    (unknown : key ∉ known) : Varies known (first ++ last) (first ++ (key, value) :: last)

/-- What is known under a name stays the same. -/
theorem Varies.namedEntry_eq {known : List String} (h : Varies known members members')
    (hname : name ∈ known) : namedEntry members name = namedEntry members' name := by
  cases h with
  | permuted _ _ distinct perm => exact namedEntry_of_perm distinct perm
  | extended first last key value unknown =>
    refine (namedEntry_append_cons_of_ne ?_).symm
    rintro rfl
    exact unknown hname

/-! ## Records -/

theorem Record.entries_congr {names : List String}
    (h : ∀ name ∈ names, namedEntry members name = namedEntry members' name) :
    (Record.named members).entries names = (Record.named members').entries names := by
  rw [Record.entries, Record.entries]
  induction names with
  | nil => rfl
  | cons name names ih =>
    obtain ⟨hname, hlater⟩ := List.forall_mem_cons.mp h
    rw [List.mapM_cons, List.mapM_cons, hname, ih hlater]

theorem Record.entries_pair (members : List (String × Json)) (name other : String) :
    (Record.named members).entries [name, other] =
      (namedEntry members name).bind fun e => (namedEntry members other).bind fun e' =>
        some [e, e'] := by
  rw [Record.entries, List.mapM_cons, List.mapM_cons, List.mapM_nil]
  rcases namedEntry members name with _ | e
  · rfl
  · rcases namedEntry members other with _ | e'
    · rfl
    · rfl

/-- The content of a record of several kinds has the same entries as the record, but for its tag. -/
theorem Record.entries_filter_congr {names : List String}
    (h : ∀ name ∈ names, namedEntry members name = namedEntry members' name) :
    (Record.named (members.filter fun m => m.1 ≠ tag)).entries names =
      (Record.named (members'.filter fun m => m.1 ≠ tag)).entries names := by
  refine Record.entries_congr fun name hname => ?_
  by_cases heq : name = tag
  · subst heq
    rw [namedEntry_filter_eq, namedEntry_filter_eq]
  · rw [namedEntry_filter_ne heq, namedEntry_filter_ne heq, h name hname]

/-! ## How deep the fields of records nest -/

/-- How deep the containers among the fields of a record nest. -/
def Record.depth : Record → ℕ
  | .named members => membersDepth members
  | .positional items => itemsDepth items

theorem mem_of_namedEntry (h : namedEntry members name = some (.given v)) :
    (name, v) ∈ members := by
  unfold namedEntry at h
  split at h
  · cases h
  · rename_i m hfilter
    cases h
    have hm : m ∈ members.filter fun m => m.1 = name := hfilter ▸ List.mem_singleton_self m
    obtain ⟨hmem, hname⟩ := List.mem_filter.mp hm
    rwa [← of_decide_eq_true hname]
  · cases h

theorem mem_of_positionalEntries {names : List String} {items : List Json} {entries : List Entry}
    (h : positionalEntries names items = some entries) (hv : .given v ∈ entries) : v ∈ items := by
  induction names generalizing items entries with
  | nil =>
    cases items with
    | nil =>
      cases h
      cases hv
    | cons item items => cases h
  | cons name names ih =>
    cases items with
    | nil =>
      obtain ⟨later, hlater, rfl⟩ := Option.map_eq_some_iff.mp h
      rcases List.mem_cons.mp hv with hcut | hv
      · cases hcut
      · exact ih hlater hv
    | cons item items =>
      obtain ⟨later, hlater, rfl⟩ := Option.map_eq_some_iff.mp h
      rcases List.mem_cons.mp hv with hgiven | hv
      · cases hgiven
        exact List.mem_cons_self
      · exact List.mem_cons_of_mem item (ih hlater hv)

/-- A field that is given nests no deeper than the record. -/
theorem Record.depth_of_given {names : List String} {r : Record} {entries : List Entry}
    (h : r.entries names = some entries) (hv : .given v ∈ entries) : v.depth ≤ r.depth := by
  rcases r with members | items
  · rw [Record.entries] at h
    suffices ∃ name, (name, v) ∈ members by
      obtain ⟨name, hmem⟩ := this
      exact membersDepth_le_iff.mp (Nat.le_refl _) _ hmem
    induction names generalizing entries with
    | nil =>
      cases h
      cases hv
    | cons name names ih =>
      rw [List.mapM_cons] at h
      obtain ⟨e, he, h⟩ := Option.bind_eq_some_iff.mp h
      obtain ⟨later, hlater, h⟩ := Option.bind_eq_some_iff.mp h
      cases h
      rcases List.mem_cons.mp hv with rfl | hv
      · exact ⟨name, mem_of_namedEntry he⟩
      · exact ih hv hlater
  · exact itemsDepth_le_iff.mp (Nat.le_refl _) _ (mem_of_positionalEntries h hv)

/-- The content of a record nests less deep than its document. -/
theorem depth_of_tagged? {kind : Json} {r : Record} (h : v.tagged? tag = some (kind, r)) :
    r.depth + 1 ≤ v.depth := by
  unfold tagged? at h
  split at h
  · split at h
    · cases h
      rw [depth, Record.depth, Nat.add_le_add_iff_right, membersDepth_le_iff]
      exact fun m hm => membersDepth_le_iff.mp (Nat.le_refl _) m (List.mem_filter.mp hm).1
    · cases h
  · cases h
    rw [depth, Record.depth, Nat.add_le_add_iff_right, itemsDepth]
    exact Nat.le_max_right _ _
  · cases h

/-! ## One member in the place of another -/

theorem namedEntry_replaced (first last : List (String × Json)) (key : String) (v w : Json)
    (name : String) :
    namedEntry (first ++ (key, v) :: last) name = namedEntry (first ++ (key, w) :: last) name ∨
      name = key ∧ namedEntry (first ++ (key, v) :: last) name = some (.given v) ∧
        namedEntry (first ++ (key, w) :: last) name = some (.given w) := by
  by_cases h : key = name
  · subst h
    simp only [namedEntry, List.filter_append, List.filter_cons, decide_true, if_true]
    generalize first.filter (fun m => m.1 = key) = before
    generalize last.filter (fun m => m.1 = key) = after
    rcases before with _ | ⟨a, _ | ⟨b, before⟩⟩
    · rcases after with _ | ⟨b, after⟩
      · exact .inr ⟨trivial, rfl, rfl⟩
      · exact .inl rfl
    · exact .inl rfl
    · exact .inl rfl
  · rw [namedEntry_append_cons_of_ne h, namedEntry_append_cons_of_ne h]
    exact .inl rfl

/-- What is read of the entry under a name. -/
def field? {α : Type} (members : List (String × Json)) (name : String) (read : Entry → Option α) :
    Option α :=
  (namedEntry members name).bind read

/-- What is read alike may replace one another. -/
theorem field?_replaced {α : Type} {read : Entry → Option α}
    (h : name = key → read (.given v) = read (.given w)) :
    field? (first ++ (key, v) :: last) name read =
      field? (first ++ (key, w) :: last) name read := by
  rcases namedEntry_replaced first last key v w name with hsame | ⟨hname, hv, hw⟩
  · rw [field?, field?, hsame]
  · rw [field?, field?, hv, hw, Option.bind_some, Option.bind_some, h hname]

/-! ## Canonical forms -/

theorem canonicalItems_eq_map (items : List Json) : canonicalItems items = items.map canonical := by
  induction items with
  | nil => rfl
  | cons item items ih => rw [canonicalItems, ih, List.map_cons]

theorem canonicalMembers_eq_map (members : List (String × Json)) :
    canonicalMembers members = members.map fun m => (m.1, m.2.canonical) := by
  induction members with
  | nil => rfl
  | cons member members ih => rw [canonicalMembers, ih, List.map_cons]

/-- The members of an object somewhere in a document in another order. -/
inductive Permuted : Json → Json → Prop
  | members (members members' : List (String × Json)) (distinct : (members.map Prod.fst).Nodup)
    (perm : members.Perm members') : Permuted (.obj members) (.obj members')
  | item (first last : List Json) {v w : Json} (inner : Permuted v w) :
    Permuted (.arr (first ++ v :: last)) (.arr (first ++ w :: last))
  | member (first last : List (String × Json)) (key : String) {v w : Json} (inner : Permuted v w) :
    Permuted (.obj (first ++ (key, v) :: last)) (.obj (first ++ (key, w) :: last))

/-- **The order of members does not matter to canonical forms.** -/
theorem Permuted.canonical_eq (h : Permuted v w) : v.canonical = w.canonical := by
  induction h with
  | members members members' distinct perm =>
    have hkeys : ((canonicalMembers members).map Prod.fst).Nodup := by
      rw [canonicalMembers_eq_map, List.map_map]
      exact distinct
    have hperm : (canonicalMembers members).Perm (canonicalMembers members') := by
      rw [canonicalMembers_eq_map, canonicalMembers_eq_map]
      exact perm.map _
    rw [canonical, canonical, TextMap.entries_ofList_of_perm hkeys hperm]
  | item first last inner ih =>
    simp only [canonical, canonicalItems_eq_map, List.map_append, List.map_cons, ih]
  | member first last key inner ih =>
    simp only [canonical, canonicalMembers_eq_map, List.map_append, List.map_cons, ih]

mutual

/-- The canonical form of a document nests no deeper. -/
theorem depth_canonical_le : (v : Json) → v.canonical.depth ≤ v.depth
  | .null => Nat.le_refl _
  | .bool _ => Nat.le_refl _
  | .num _ => Nat.le_refl _
  | .str _ => Nat.le_refl _
  | .arr items => by
    rw [canonical, depth, depth, Nat.add_le_add_iff_right, itemsDepth_le_iff]
    exact depth_le_of_mem_canonicalItems items
  | .obj members => by
    rw [canonical, depth, depth, Nat.add_le_add_iff_right, membersDepth_le_iff]
    exact fun m hm => depth_le_of_mem_canonicalMembers members m (TextMap.mem_of_mem_ofList hm)

theorem depth_le_of_mem_canonicalItems : (items : List Json) →
    ∀ v ∈ canonicalItems items, v.depth ≤ itemsDepth items
  | [] => fun v hv => absurd hv (by simp [canonicalItems])
  | item :: items => fun v hv => by
    rw [canonicalItems, List.mem_cons] at hv
    rw [itemsDepth]
    rcases hv with rfl | hv
    · exact Nat.le_trans (depth_canonical_le item) (Nat.le_max_left _ _)
    · exact Nat.le_trans (depth_le_of_mem_canonicalItems items v hv) (Nat.le_max_right _ _)

theorem depth_le_of_mem_canonicalMembers : (members : List (String × Json)) →
    ∀ m ∈ canonicalMembers members, m.2.depth ≤ membersDepth members
  | [] => fun m hm => absurd hm (by simp [canonicalMembers])
  | (k, v) :: members => fun m hm => by
    rw [canonicalMembers, List.mem_cons] at hm
    rw [membersDepth]
    rcases hm with rfl | hm
    · exact Nat.le_trans (depth_canonical_le v) (Nat.le_max_left _ _)
    · exact Nat.le_trans (depth_le_of_mem_canonicalMembers members m hm) (Nat.le_max_right _ _)

end

end Json

end CommandLink
