import CommandLink.Proofs.Files.Writing
import Mathlib.Data.String.Basic

/-!
# The directories above a path

The path that `parent?` cuts off leads, in every tree, to the directory that holds the last name of
a path: where the path itself leads anywhere, this directory is there (`isDirectory_parent`). So an
attempt to make a directory with those above it has nothing left to do when it is made again,
whether it has succeeded or not (`ensureAll_again`).
-/

namespace CommandLink.Files

variable {f g : Files} {path upper : String}

/-! ## Names joined by slashes -/

/-- What can stand between the slashes of a path. -/
def IsName (name : String) : Prop := name ≠ "" ∧ '/' ∉ name.toList

theorem isName_of_mem_pathNames {name : String} (h : name ∈ pathNames path) : IsName name := by
  simp only [pathNames, List.mem_map, List.mem_filter, decide_eq_true_eq] at h
  obtain ⟨cs, ⟨hmem, hne⟩, rfl⟩ := h
  refine ⟨fun hempty => hne ?_, ?_⟩
  · simpa using congrArg String.toList hempty
  · rw [String.toList_ofList]
    exact Text.not_mem_of_mem_splitOn hmem

theorem intercalate_sublist {pieces pieces' : List (List Char)} (h : pieces.Sublist pieces') :
    (['/'].intercalate pieces).Sublist (['/'].intercalate pieces') := by
  induction h with
  | slnil => exact .slnil
  | @cons pieces pieces' piece h ih =>
    cases pieces' with
    | nil => simp [List.sublist_nil.mp h]
    | cons next pieces' =>
      rw [List.intercalate_cons_cons]
      exact ih.trans (List.sublist_append_right ..)
  | @cons_cons pieces pieces' piece h ih =>
    cases pieces' with
    | nil =>
      rw [List.sublist_nil.mp h]
    | cons next pieces' =>
      rw [List.intercalate_cons_cons]
      cases pieces with
      | nil =>
        rw [List.intercalate_singleton, List.append_assoc]
        exact List.sublist_append_left ..
      | cons other pieces =>
        rw [List.intercalate_cons_cons]
        exact (List.Sublist.refl _).append ih

/-- The names of a path are those that were joined to it. -/
theorem pathNames_join {names : List String} {root : String} (hroot : root = "" ∨ root = "/")
    (hn : ∀ name ∈ names, IsName name) :
    pathNames (root ++ String.intercalate "/" names) = names := by
  have hkept : ∀ pieces : List (List Char), (∀ piece ∈ pieces, piece ≠ []) →
      pieces.filter (· ≠ []) = pieces := fun pieces hp =>
    List.filter_eq_self.mpr fun piece hpiece => by simpa using hp piece hpiece
  have htexts : ∀ piece ∈ names.map String.toList, piece ≠ [] ∧ '/' ∉ piece := by
    simp only [List.mem_map, forall_exists_index, and_imp]
    rintro _ name hname rfl
    exact ⟨by simpa using (hn name hname).1, (hn name hname).2⟩
  have hback : (names.map String.toList).map String.ofList = names := by
    simp [Function.comp_def]
  have hslash : ("/" : String).toList = ['/'] := rfl
  unfold pathNames
  rw [String.toList_append, String.toList_intercalate, hslash]
  rcases List.eq_nil_or_concat names with rfl | hlast
  · rcases hroot with rfl | rfl <;> rfl
  have hne : names.map String.toList ≠ [] := by
    obtain ⟨_, _, rfl⟩ := hlast
    simp
  have hpieces := Text.splitOn_intercalate hne fun piece hp => (htexts piece hp).2
  have hnames := hkept _ fun piece hp => (htexts piece hp).1
  rcases hroot with rfl | rfl
  · rw [String.toList_empty, List.nil_append, hpieces, hnames, hback]
  · rw [hslash, List.singleton_append, ← List.nil_append ('/' :: _),
      Text.splitOn_append List.not_mem_nil, hpieces, List.filter_cons_of_neg (by simp), hnames,
      hback]

/-! ## The text of the path above -/

theorem plainNames_sublist (path : String) : (plainNames path).Sublist (pathNames path) := by
  unfold plainNames
  split
  · exact List.nil_sublist _
  · rename_i first rest hnames
    rw [hnames]
    split_ifs
    · exact List.filter_sublist.cons first
    · exact List.filter_sublist.cons_cons first

/-- What a path starts with that starts at the root. -/
def rootText (path : String) : String := if path.toList.head? = some '/' then "/" else ""

theorem parent?_eq_some (h : parent? path = some upper) :
    plainNames path ≠ [] ∧
      upper = rootText path ++ String.intercalate "/" (plainNames path).dropLast := by
  by_cases hnone : plainNames path = []
  · simp [parent?, hnone] at h
  · simp only [parent?, if_neg hnone, Option.some.injEq] at h
    exact ⟨hnone, h.symm⟩

theorem pathNames_parent (h : parent? path = some upper) :
    pathNames upper = (plainNames path).dropLast := by
  obtain ⟨-, rfl⟩ := parent?_eq_some h
  refine pathNames_join (by unfold rootText; split_ifs <;> simp) fun name hname => ?_
  exact isName_of_mem_pathNames ((plainNames_sublist path).subset (List.dropLast_subset _ hname))

theorem toList_parent_sublist (h : parent? path = some upper) :
    upper.toList.Sublist path.toList := by
  obtain ⟨-, rfl⟩ := parent?_eq_some h
  have hslash : ("/" : String).toList = ['/'] := rfl
  have hnames : ((plainNames path).dropLast.map String.toList).Sublist
      ((Text.splitOn '/' path.toList).filter (· ≠ [])) := by
    have hsub := ((List.dropLast_sublist _).trans (plainNames_sublist path)).map String.toList
    simpa [pathNames, Function.comp_def] using hsub
  have hjoined := intercalate_sublist (hnames.trans List.filter_sublist)
  rw [Text.intercalate_splitOn] at hjoined
  rw [String.toList_append, String.toList_intercalate, hslash]
  unfold rootText
  split_ifs with hroot
  · -- The path starts with a slash, and its names come after this.
    obtain ⟨cs, hcs⟩ := List.head?_eq_some_iff.mp hroot
    have hrest : (['/'].intercalate ((plainNames path).dropLast.map String.toList)).Sublist cs := by
      rw [hcs, ← List.nil_append ('/' :: cs), Text.splitOn_append List.not_mem_nil,
        List.filter_cons_of_neg (by simp)] at hnames
      have := intercalate_sublist (hnames.trans List.filter_sublist)
      rwa [Text.intercalate_splitOn] at this
    rw [hcs, hslash]
    exact hrest.cons_cons '/'
  · simpa using hjoined

theorem length_parent_lt (h : parent? path = some upper) : upper.length < path.length := by
  have hsub := toList_parent_sublist h
  rw [← String.length_toList, ← String.length_toList]
  refine lt_of_le_of_ne hsub.length_le fun hlength => ?_
  have hsame : upper = path := String.toList_injective (hsub.eq_of_length hlength)
  have hnames := congrArg List.length (pathNames_parent h)
  have hfewer := (plainNames_sublist path).length_le
  have hsome := List.length_pos_iff.mpr (parent?_eq_some h).1
  rw [hsame, List.length_dropLast] at hnames
  omega

theorem head?_parent (h : parent? path = some upper) (hne : upper ≠ "") :
    upper.toList.head? = some '/' ↔ path.toList.head? = some '/' := by
  have hnames := pathNames_parent h
  obtain ⟨-, hupper⟩ := parent?_eq_some h
  unfold rootText at hupper
  split_ifs at hupper with hroot
  · simp [hupper, hroot]
  refine iff_of_false (fun hslash => ?_) hroot
  -- A path that starts with a name does not start with a slash.
  rw [String.empty_append] at hupper
  rcases hn : (plainNames path).dropLast with _ | ⟨name, names⟩
  · exact hne (by rw [hupper, hn]; rfl)
  have hmem : name ∈ pathNames upper := by simp [hnames, hn]
  have hname := isName_of_mem_pathNames hmem
  obtain ⟨c, cs, hc⟩ := List.exists_cons_of_ne_nil (l := name.toList) (by simpa using hname.1)
  have hhead : upper.toList.head? = some c := by
    rw [hupper, hn, String.toList_intercalate]
    cases names <;> simp [hc]
  rw [hslash] at hhead
  exact hname.2 (by rw [hc, Option.some.inj hhead]; exact List.mem_cons_self)

/-- The path above ends in a name, unless it names the root. -/
theorem asksForDirectory_parent (h : parent? path = some upper) :
    ¬ (asksForDirectory upper = true ∧ pathNames upper ≠ []) := by
  rintro ⟨hslash, hsome⟩
  have hnames := pathNames_parent h
  obtain ⟨-, hupper⟩ := parent?_eq_some h
  rw [← hnames] at hupper
  obtain ⟨names, name, hn⟩ := (List.eq_nil_or_concat (pathNames upper)).resolve_left hsome
  have hmem : name ∈ pathNames upper := by simp [hn]
  have hname := isName_of_mem_pathNames hmem
  obtain ⟨cs, c, hc⟩ := (List.eq_nil_or_concat name.toList).resolve_left (by simpa using hname.1)
  have hlast : upper.toList.getLast? = some c := by
    rw [hupper, hn]
    rcases List.eq_nil_or_concat names with rfl | hmore
    · simp [hc]
    · have hne : names ≠ [] := by
        obtain ⟨_, _, rfl⟩ := hmore
        simp
      rw [List.concat_eq_append, String.intercalate_append_of_ne_nil hne (by simp),
        String.intercalate_singleton, String.toList_append, String.toList_append, hc,
        List.concat_eq_append, List.getLast?_append, List.getLast?_append, List.getLast?_concat]
      rfl
  simp only [asksForDirectory, decide_eq_true_eq] at hslash
  rw [hslash] at hlast
  exact hname.2 (by rw [hc, Option.some.inj hlast]; simp)

/-! ## Where the path above leads -/

theorem follow_append (f : Files) (place : List String) (names names' : List String) :
    f.follow place (names ++ names') = (f.follow place names).bind fun p => f.follow p names' := by
  induction names generalizing place with
  | nil => rfl
  | cons name names ih =>
    rw [List.cons_append, follow, follow]
    rcases f.node? place with _ | _ | _
    · rfl
    · rfl
    · simp only
      split_ifs
      · exact ih _
      · exact ih _
      · rfl
      · exact ih _

/-- Names that name the directory they stand in change nothing for a path that leads somewhere. -/
theorem follow_filter {place place' : List String} {names : List String}
    (h : f.follow place names = .ok place') :
    f.follow place (names.filter (· ≠ ".")) = .ok place' := by
  induction names generalizing place with
  | nil => exact h
  | cons name names ih =>
    have hn := node?_of_follow_cons h
    rw [follow_cons hn] at h
    by_cases hdot : name = "."
    · rw [List.filter_cons_of_neg (by simpa using hdot)]
      rw [if_pos hdot] at h
      exact ih h
    · rw [List.filter_cons_of_pos (by simpa using hdot), follow_cons hn, if_neg hdot]
      rw [if_neg hdot] at h
      split_ifs at h ⊢
      · exact ih h
      · exact ih h

theorem follow_plainNames {place place' : List String} {tail : List String}
    (htail : tail.filter (· ≠ ".") = [])
    (h : f.follow place (pathNames path ++ tail) = .ok place') :
    f.follow place (plainNames path) = .ok place' := by
  have hfiltered := follow_filter h
  rw [List.filter_append, htail, List.append_nil] at hfiltered
  unfold plainNames
  rcases hnames : pathNames path with _ | ⟨first, rest⟩
  · rwa [hnames] at hfiltered
  simp only
  split_ifs with hdot
  · rwa [hnames, List.filter_cons_of_neg (by simpa using hdot.1)] at hfiltered
  · rw [hnames, List.cons_append, ← List.singleton_append, follow_append] at h
    rcases hfirst : f.follow place [first] with e | start
    · rw [hfirst] at h
      cases h
    rw [hfirst] at h
    have hrest := follow_filter h
    rw [List.filter_append, htail, List.append_nil] at hrest
    rw [← List.singleton_append, follow_append, hfirst]
    exact hrest

/-- What it takes for names to lead somewhere from where a path starts. -/
theorem followIn_eq_ok_iff {place names : List String} :
    f.followIn path names = .ok place ↔
      holdsNul path = false ∧ path ≠ "" ∧ path.utf8ByteSize ≤ longestPath ∧
        f.follow (if path.toList.head? = some '/' then [] else f.workingDirectory) names =
          .ok place := by
  unfold followIn
  by_cases hnul : holdsNul path = true
  · simp [hnul]
  by_cases hempty : path = ""
  · rw [if_neg hnul, if_pos hempty]
    simp [hempty]
  by_cases hlong : longestPath < path.utf8ByteSize
  · simp [hnul, hempty, hlong]
  · simp [hnul, hempty, hlong, Nat.le_of_not_lt hlong]

/-- The plain names of a path that leads somewhere end in a directory. -/
theorem follow_dropLast_plainNames {start place : List String} {tail : List String}
    (htail : tail.filter (· ≠ ".") = []) (hsome : plainNames path ≠ [])
    (h : f.follow start (pathNames path ++ tail) = .ok place) :
    ∃ above, f.follow start (plainNames path).dropLast = .ok above ∧
      f.node? above = some .directory := by
  have hplain := follow_plainNames htail h
  rw [← List.dropLast_append_getLast hsome, follow_append] at hplain
  rcases habove : f.follow start (plainNames path).dropLast with e | above
  · rw [habove] at hplain
    cases hplain
  rw [habove] at hplain
  exact ⟨above, rfl, node?_of_follow_cons hplain⟩

/-- **Where a path leads anywhere, the directory above it is there.** -/
theorem isDirectory_parent {place : List String} (hp : f.place path = .ok place)
    (h : parent? path = some upper) (hne : upper ≠ "") : f.isDirectory upper = true := by
  obtain ⟨tail, htail, hfollow⟩ : ∃ tail, tail.filter (· ≠ ".") = [] ∧
      f.followIn path (pathNames path ++ tail) = .ok place := by
    unfold Files.place at hp
    simp only at hp
    split_ifs at hp
    · exact ⟨["."], by simp, hp⟩
    · exact ⟨[], rfl, by simpa using hp⟩
  obtain ⟨hnul, -, hshort, hfollow⟩ := followIn_eq_ok_iff.mp hfollow
  obtain ⟨above, habove, hnode⟩ := follow_dropLast_plainNames htail (parent?_eq_some h).1 hfollow
  have hsub := toList_parent_sublist h
  have hupper : f.place upper = .ok above := by
    unfold Files.place
    simp only [if_neg (asksForDirectory_parent h)]
    rw [followIn_eq_ok_iff, pathNames_parent h]
    simp only [head?_parent h hne]
    refine ⟨?_, hne, ?_, habove⟩
    · simp only [holdsNul, List.any_eq_false] at hnul ⊢
      exact fun c hc => hnul c (hsub.subset hc)
    · have hsize := String.utf8Len_le_of_sublist hsub
      rw [← String.utf8ByteSize_ofList, ← String.utf8ByteSize_ofList, String.ofList_toList,
        String.ofList_toList] at hsize
      exact hsize.trans hshort
  simp [isDirectory, hupper, isDirectoryAt, hnode]

/-! ## Making directories again -/

theorem makeDirectory_eq_ok {path : String} (h : f.makeDirectory path = .ok g) :
    ∃ place, f.place path = .ok place ∧ f.node? place = none ∧ g = f.set place .directory := by
  unfold makeDirectory at h
  rcases hp : f.place path with e | place
  · rw [hp] at h
    cases h
  rw [hp] at h
  rcases hn : f.node? place with _ | node
  · simp only [bind, Except.bind, hn] at h
    exact ⟨place, rfl, hn, (Except.ok.inj h).symm⟩
  · simp only [bind, Except.bind, hn] at h
    cases h

/-- A directory that has been made is there. -/
theorem isDirectory_of_makeDirectory (h : f.makeDirectory path = .ok g) :
    g.isDirectory path = true := by
  have hg := makeDirectory_grown h
  obtain ⟨place, hplace, hnone, rfl⟩ := makeDirectory_eq_ok h
  have hne : place ≠ [] := by
    rintro rfl
    cases hnone
  have hlead := place_of_directories hg.workingDirectory (fun _ hd => hg.node?_eq hd) hplace
  simp [isDirectory, hlead, isDirectoryAt, node?_set hne]

/-- Where there is a directory, none is made. -/
theorem ensureDirectory_of_isDirectory (h : f.isDirectory path = true) :
    f.ensureDirectory path = (f, .ok ()) := by
  rcases hmade : f.makeDirectory path with e | made
  · simp [ensureDirectory, hmade, h]
  · obtain ⟨place, hplace, hnone, -⟩ := makeDirectory_eq_ok hmade
    simp [isDirectory, hplace, isDirectoryAt, hnone] at h

/-- A directory stands where one has been made sure of, and after a failure nothing has changed. -/
theorem ensureDirectory_cases (f : Files) (path : String) :
    ((f.ensureDirectory path).2 = .ok () ∧ (f.ensureDirectory path).1.isDirectory path = true) ∨
    ((f.ensureDirectory path).1 = f ∧ f.isDirectory path = false ∧
      ∃ e, f.ensureDirectory path = (f, .error e)) := by
  rcases hmade : f.makeDirectory path with e | made
  · rcases hd : f.isDirectory path with _ | _
    · exact .inr ⟨by simp [ensureDirectory, hmade], rfl, e, by simp [ensureDirectory, hmade, hd]⟩
    · exact .inl ⟨by simp [ensureDirectory, hmade, hd], by simp [ensureDirectory, hmade, hd]⟩
  · exact .inl ⟨by simp [ensureDirectory, hmade],
      by simpa [ensureDirectory, hmade] using isDirectory_of_makeDirectory hmade⟩

/-- A directory is made sure of at once, or once those above it have been. -/
theorem makeDirectories_succ (f : Files) (depth : ℕ) (hne : path ≠ "") :
    f.makeDirectories (depth + 1) path = f.ensureDirectory path ∨
    ∃ upper, parent? path = some upper ∧
      f.makeDirectories (depth + 1) path =
        match f.makeDirectories depth upper with
        | (made, .error e) => (made, .error e)
        | (made, .ok ()) => made.ensureDirectory path := by
  rw [makeDirectories, if_neg hne]
  split
  · exact .inr ⟨_, ‹_›, rfl⟩
  · exact .inl rfl

/-- Nothing is made where neither the directory nor one of those above it can be. -/
theorem makeDirectories_of_stuck {depth : ℕ} {e : IoError} (hne : path ≠ "")
    (h : f.ensureDirectory path = (f, .error e))
    (hup : ∀ upper, parent? path = some upper → (f.makeDirectories depth upper).1 = f) :
    (f.makeDirectories (depth + 1) path).1 = f := by
  rcases makeDirectories_succ f depth hne with hsame | ⟨upper, hupper, hsame⟩
  · rw [hsame, h]
  · have hfixed := hup upper hupper
    rw [hsame]
    rcases hmade : f.makeDirectories depth upper with ⟨made, _ | _⟩
    · rw [hmade] at hfixed
      exact hfixed
    · rw [hmade] at hfixed
      subst hfixed
      simp only [h]

theorem ne_empty_of_makeDirectories {depth : ℕ} {e : IoError} (hdepth : 0 < depth)
    (h : f.makeDirectories depth path = (g, .error e)) : path ≠ "" := by
  rintro rfl
  obtain ⟨depth, rfl⟩ := Nat.exists_eq_succ_of_ne_zero hdepth.ne'
  simp [makeDirectories] at h

/-- An attempt to make a directory succeeds exactly if the directory is there afterwards. -/
theorem makeDirectories_eq_ok_iff {depth : ℕ} (hdepth : path.length < depth) (hne : path ≠ "") :
    (f.makeDirectories depth path).2 = .ok () ↔
      (f.makeDirectories depth path).1.isDirectory path = true := by
  induction depth generalizing path with
  | zero => omega
  | succ depth ih =>
    have hensured : ∀ made : Files, (made.ensureDirectory path).2 = .ok () ↔
        (made.ensureDirectory path).1.isDirectory path = true := by
      intro made
      rcases ensureDirectory_cases made path with ⟨hok, hdir⟩ | ⟨-, hno, e, heq⟩
      · simp [hok, hdir]
      · simp [heq, hno]
    rcases makeDirectories_succ f depth hne with hsame | ⟨upper, hupper, hsame⟩
    · rw [hsame]
      exact hensured f
    rw [hsame]
    have hlength := length_parent_lt hupper
    rcases hmade : f.makeDirectories depth upper with ⟨made, e | _⟩
    · -- Without the directory above it, the path leads nowhere.
      refine iff_of_false (by simp) fun hdir => ?_
      have hnone := ne_empty_of_makeDirectories (by omega) hmade
      have habove := ih (by omega) hnone
      rw [hmade] at habove
      obtain ⟨place, hplace⟩ : ∃ place, made.place path = .ok place := by
        rcases hp : made.place path with e | place
        · simp [isDirectory, hp] at hdir
        · exact ⟨place, rfl⟩
      exact absurd (habove.mpr (isDirectory_parent hplace hupper hnone)) (by simp)
    · exact hensured made

theorem makeDirectories_of_isDirectory (depth : ℕ) (hne : path ≠ "")
    (h : f.isDirectory path = true) : f.makeDirectories (depth + 1) path = (f, .ok ()) := by
  rw [makeDirectories, if_neg hne, ensureDirectory_of_isDirectory h]

/-- A path that leads nowhere cannot be made a directory. -/
theorem ensureDirectory_of_place_eq_error {e : IoError} (h : f.place path = .error e) :
    f.ensureDirectory path = (f, .error e) := by
  simp [ensureDirectory, makeDirectory, isDirectory, h, bind, Except.bind]

/-- **Making directories again changes nothing more**, whether they could be made or not. -/
theorem makeDirectories_again {depth : ℕ} (hdepth : path.length < depth) :
    ((f.makeDirectories depth path).1.makeDirectories depth path).1 =
      (f.makeDirectories depth path).1 := by
  induction depth generalizing path with
  | zero => omega
  | succ depth ih =>
    by_cases hne : path = ""
    · simp [makeDirectories, hne]
    have hup : ∀ upper, parent? path = some upper →
        ((f.makeDirectories depth upper).1.makeDirectories depth upper).1 =
          (f.makeDirectories depth upper).1 := fun upper hupper =>
      ih (by have := length_parent_lt hupper; omega)
    rcases makeDirectories_succ f depth hne with hsame | ⟨upper, hupper, hsame⟩
    · rcases ensureDirectory_cases f path with ⟨-, hdir⟩ | ⟨hf, -, -⟩
      · rw [hsame, makeDirectories_of_isDirectory depth hne hdir]
      · rw [hsame, hf, hsame, hf]
    have hfixed := hup upper hupper
    have honly : ∀ other, parent? path = some other → other = upper := fun other hother =>
      Option.some.inj (hother.symm.trans hupper)
    rw [hsame]
    rcases hmade : f.makeDirectories depth upper with ⟨made, e | _⟩
    · -- The directory above is not there, so the path leads nowhere.
      rw [hmade] at hfixed
      rcases hplace : made.place path with e' | place
      · refine makeDirectories_of_stuck hne (ensureDirectory_of_place_eq_error hplace) ?_
        intro other hother
        rw [honly other hother]
        exact hfixed
      · have hlength := length_parent_lt hupper
        have hnone := ne_empty_of_makeDirectories (by omega) hmade
        have hiff : _ ↔ (f.makeDirectories depth upper).1.isDirectory upper = true :=
          makeDirectories_eq_ok_iff (by omega) hnone
        rw [hmade] at hiff
        exact absurd (hiff.mpr (isDirectory_parent hplace hupper hnone)) (by simp)
    · rw [hmade] at hfixed
      rcases ensureDirectory_cases made path with ⟨-, hdir⟩ | ⟨-, -, e, heq⟩
      · simp only [makeDirectories_of_isDirectory depth hne hdir]
      · simp only [heq]
        refine makeDirectories_of_stuck hne heq ?_
        intro other hother
        rw [honly other hother]
        exact hfixed

/-- What is still missing after the directories of a path have been made stays missing. -/
theorem ensureAll_again (f : Files) (path : String) :
    ((f.ensureAll path).1.ensureAll path).1 = (f.ensureAll path).1 :=
  makeDirectories_again (Nat.lt_succ_self _)

/-! ## Faults to come

What goes wrong at the next files to be written has no part in where paths lead and in the making of
directories. -/

/-- A tree with other faults to come. -/
def withFaults (f : Files) (faults : List (Option WriteFault)) : Files :=
  { f with faults := faults }

variable (f) (faults : List (Option WriteFault))

theorem takeFault_snd : f.takeFault.2 = f.withFaults f.faults.tail := by
  unfold takeFault
  split
  · rename_i hnone
    rw [hnone, withFaults, List.tail_nil, ← hnone]
  · rename_i hsome
    rw [hsome, withFaults, List.tail_cons]

theorem node?_withFaults (place : List String) :
    (f.withFaults faults).node? place = f.node? place := rfl

@[simp]
theorem follow_withFaults (place names : List String) :
    (f.withFaults faults).follow place names = f.follow place names := by
  induction names generalizing place with
  | nil => rfl
  | cons name names ih => simp only [follow, ih, node?_withFaults]

@[simp]
theorem followIn_withFaults (path : String) (names : List String) :
    (f.withFaults faults).followIn path names = f.followIn path names := by
  unfold followIn
  simp only [follow_withFaults]
  rfl

@[simp]
theorem place_withFaults (path : String) : (f.withFaults faults).place path = f.place path := by
  simp only [Files.place, followIn_withFaults]

@[simp]
theorem hasPath_withFaults (path : String) :
    (f.withFaults faults).hasPath path = f.hasPath path := by
  simp only [hasPath, place_withFaults, node?_withFaults]

@[simp]
theorem isDirectory_withFaults (path : String) :
    (f.withFaults faults).isDirectory path = f.isDirectory path := by
  simp only [isDirectory, isDirectoryAt, place_withFaults, node?_withFaults]
  rfl

theorem ensureDirectory_withFaults (path : String) :
    (f.withFaults faults).ensureDirectory path =
      ((f.ensureDirectory path).1.withFaults faults, (f.ensureDirectory path).2) := by
  have hmade : (f.withFaults faults).makeDirectory path =
      (f.makeDirectory path).map (·.withFaults faults) := by
    unfold makeDirectory
    simp only [place_withFaults]
    rcases f.place path with e | place
    · rfl
    · simp only [bind, Except.bind, node?_withFaults]
      rcases f.node? place with _ | _ <;> rfl
  unfold ensureDirectory
  rw [hmade, isDirectory_withFaults]
  rcases f.makeDirectory path with e | made <;> rfl

theorem makeDirectories_withFaults (depth : ℕ) (path : String) :
    (f.withFaults faults).makeDirectories depth path =
      ((f.makeDirectories depth path).1.withFaults faults, (f.makeDirectories depth path).2) := by
  induction depth generalizing f path with
  | zero => rfl
  | succ depth ih =>
    rw [makeDirectories, makeDirectories]
    split_ifs
    · rfl
    rw [ensureDirectory_withFaults]
    rcases f.ensureDirectory path with ⟨made, e | _⟩
    · by_cases he : e = .notFound
      · subst he
        rcases parent? path with _ | upper
        · rfl
        · simp only [ih]
          rcases f.makeDirectories depth upper with ⟨made, _ | _⟩
          · rfl
          · exact ensureDirectory_withFaults made faults path
      · cases e <;> first | rfl | exact absurd rfl he
    · rfl

theorem ensureAll_withFaults (path : String) :
    (f.withFaults faults).ensureAll path =
      ((f.ensureAll path).1.withFaults faults, (f.ensureAll path).2) :=
  makeDirectories_withFaults f faults _ path

end CommandLink.Files
