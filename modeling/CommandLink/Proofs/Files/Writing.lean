import CommandLink.Files
import Mathlib.Tactic.Common

/-!
# What writing does to a tree of files

Making directories only adds directories where there was nothing (`ensureAll_grown`), so every path
leads where it led before, and every file is as it was. A file is written as a whole where its path
leads (`exists_of_replace`), and is then read back (`read_of_replace`).
-/

namespace CommandLink.Files

variable {f g : Files}

/-! ## Trees that grow -/

/-- A tree has grown into another: what was there is there, and what is new is a directory. -/
structure Grown (f g : Files) : Prop where
  workingDirectory : g.workingDirectory = f.workingDirectory
  node : ∀ place, g.node? place = f.node? place ∨
    (f.node? place = none ∧ g.node? place = some .directory)

theorem Grown.refl (f : Files) : Grown f f := ⟨rfl, fun _ => .inl rfl⟩

theorem Grown.trans {e : Files} (h : Grown f g) (h' : Grown g e) : Grown f e where
  workingDirectory := h'.workingDirectory.trans h.workingDirectory
  node place := by
    rcases h'.node place with hsame | ⟨hnone, hmade⟩
    · rw [hsame]
      exact h.node place
    · rcases h.node place with hsame | ⟨-, hmade'⟩
      · exact .inr ⟨hsame ▸ hnone, hmade⟩
      · rw [hnone] at hmade'
        cases hmade'

/-- What was there is there. -/
theorem Grown.node?_eq {place : List String} {node : FileNode} (h : Grown f g)
    (hn : f.node? place = some node) : g.node? place = some node := by
  rcases h.node place with hsame | ⟨hnone, -⟩
  · rw [hsame, hn]
  · rw [hn] at hnone
    cases hnone

/-- The files of a tree that has grown are those that were there. -/
theorem Grown.node?_eq_file_iff (h : Grown f g) (place : List String) (content : Bytes) :
    g.node? place = some (.file content) ↔ f.node? place = some (.file content) := by
  rcases h.node place with hsame | ⟨hnone, hmade⟩
  · rw [hsame]
  · rw [hnone, hmade]
    simp

/-! ## Where paths lead -/

/-- Names lead on from nowhere but a directory. -/
theorem node?_of_follow_cons {place place' : List String} {name : String} {names : List String}
    (h : f.follow place (name :: names) = .ok place') : f.node? place = some .directory := by
  rw [follow] at h
  rcases hn : f.node? place with _ | content | _
  · rw [hn] at h
    cases h
  · rw [hn] at h
    cases h
  · rfl

theorem follow_cons {place : List String} (hn : f.node? place = some .directory) (name : String)
    (names : List String) :
    f.follow place (name :: names) =
      if name = "." then f.follow place names
      else if name = ".." then f.follow place.dropLast names
      else if longestName < name.utf8ByteSize then .error .nameTooLong
      else f.follow (place ++ [name]) names := by
  rw [follow, hn]

/-- Paths lead on through directories that are still there. -/
theorem follow_of_directories {place place' : List String} {names : List String}
    (hd : ∀ p, f.node? p = some .directory → g.node? p = some .directory)
    (h : f.follow place names = .ok place') : g.follow place names = .ok place' := by
  induction names generalizing place with
  | nil => exact h
  | cons name names ih =>
    have hn := node?_of_follow_cons h
    rw [follow_cons hn] at h
    rw [follow_cons (hd place hn)]
    split_ifs at h ⊢
    · exact ih h
    · exact ih h
    · exact ih h

theorem followIn_of_directories {path : String} {place : List String} {names : List String}
    (hw : g.workingDirectory = f.workingDirectory)
    (hd : ∀ p, f.node? p = some .directory → g.node? p = some .directory)
    (h : f.followIn path names = .ok place) : g.followIn path names = .ok place := by
  unfold followIn at h ⊢
  split_ifs at h ⊢
  · exact follow_of_directories hd h
  · rw [hw]
    exact follow_of_directories hd h

theorem place_of_directories {path : String} {place : List String}
    (hw : g.workingDirectory = f.workingDirectory)
    (hd : ∀ p, f.node? p = some .directory → g.node? p = some .directory)
    (h : f.place path = .ok place) : g.place path = .ok place :=
  followIn_of_directories hw hd h

/-- A path where there is something leads to it still after the tree has grown. -/
theorem place_of_grown {path : String} (hg : Grown f g) (hp : f.hasPath path = true) :
    ∃ place node, f.place path = .ok place ∧ g.place path = .ok place ∧
      f.node? place = some node ∧ g.node? place = some node := by
  rcases hplace : f.place path with e | place
  · simp [hasPath, hplace] at hp
  rcases hn : f.node? place with _ | node
  · simp [hasPath, hplace, hn] at hp
  exact ⟨place, node, rfl, place_of_directories hg.workingDirectory (fun _ hd => hg.node?_eq hd)
    hplace, hn, hg.node?_eq hn⟩

theorem hasPath_of_grown {path : String} (hg : Grown f g) (hp : f.hasPath path = true) :
    g.hasPath path = true := by
  obtain ⟨place, node, -, hplace, -, hnode⟩ := place_of_grown hg hp
  simp [hasPath, hplace, hnode]

theorem read_of_grown {path : String} (hg : Grown f g) (hp : f.hasPath path = true) :
    g.read path = f.read path := by
  obtain ⟨place, node, hplace, hplace', hnode, hnode'⟩ := place_of_grown hg hp
  simp only [read, hplace, hplace', bind, Except.bind, hnode, hnode']

/-- Behind a path that leads to a directory stands whatever has a name there. -/
theorem follow_concat {place above : List String} {names : List String} {name : String}
    (h : f.follow place (names ++ ["."]) = .ok above) (hdot : name ≠ ".") (hup : name ≠ "..")
    (hlong : ¬ longestName < name.utf8ByteSize) :
    f.follow place (names ++ [name]) = .ok (above ++ [name]) := by
  induction names generalizing place with
  | nil =>
    have hn := node?_of_follow_cons h
    rw [List.nil_append, follow_cons hn, if_pos rfl] at h
    cases h
    rw [List.nil_append, follow_cons hn, if_neg hdot, if_neg hup, if_neg hlong, follow]
  | cons first names ih =>
    rw [List.cons_append] at h ⊢
    have hn := node?_of_follow_cons h
    rw [follow_cons hn] at h ⊢
    split_ifs at h ⊢
    · exact ih h
    · exact ih h
    · exact ih h

/-- The place of a path is that of its last name in the directory above. -/
theorem place_of_placeAbove {path name : String} {above : List String}
    (h : f.placeAbove path = .ok (above, some name)) (hdot : name ≠ ".") (hup : name ≠ "..")
    (hlong : ¬ longestName < name.utf8ByteSize) (hslash : ¬ asksForDirectory path = true) :
    f.place path = .ok (above ++ [name]) := by
  obtain ⟨habove, hlast⟩ : f.followIn path ((pathNames path).dropLast ++ ["."]) = .ok above ∧
      (pathNames path).getLast? = some name := by
    unfold placeAbove at h
    rcases hf : f.followIn path ((pathNames path).dropLast ++ ["."]) with e | place
    · simp only [hf, bind, Except.bind] at h
      cases h
    · simp only [hf, bind, Except.bind, pure, Except.pure, Except.ok.injEq, Prod.mk.injEq] at h
      exact ⟨by rw [h.1], h.2⟩
  have hnames : pathNames path = (pathNames path).dropLast ++ [name] := by
    obtain ⟨names, hn⟩ := List.getLast?_eq_some_iff.mp hlast
    rw [hn, List.dropLast_concat]
  have hplace : f.place path = f.followIn path (pathNames path) := by
    rw [place, if_neg fun hp => hslash hp.1]
  rw [hplace, hnames]
  unfold followIn at habove ⊢
  split_ifs at habove ⊢
  · exact follow_concat habove hdot hup hlong
  · exact follow_concat habove hdot hup hlong

/-! ## Making directories -/

theorem node?_set {place other : List String} {node : FileNode} (hp : place ≠ []) :
    (f.set place node).node? other = if other = place then some node else f.node? other := by
  by_cases ho : other = []
  · subst ho
    rw [if_neg (Ne.symm hp)]
    rfl
  · simp only [node?, set, ho, if_false, Table.get?_insert]

theorem makeDirectory_grown {path : String} (h : f.makeDirectory path = .ok g) : Grown f g := by
  unfold makeDirectory at h
  rcases hp : f.place path with e | place
  · rw [hp] at h
    cases h
  rw [hp] at h
  rcases hn : f.node? place with _ | node
  · simp only [bind, Except.bind, hn] at h
    cases h
    have hne : place ≠ [] := by
      rintro rfl
      cases hn
    refine ⟨rfl, fun other => ?_⟩
    rw [node?_set hne]
    split_ifs with ho
    · subst ho
      exact .inr ⟨hn, rfl⟩
    · exact .inl rfl
  · simp only [bind, Except.bind, hn] at h
    cases h

theorem ensureDirectory_grown (f : Files) (path : String) : Grown f (f.ensureDirectory path).1 := by
  unfold ensureDirectory
  split
  · rename_i hmade
    exact makeDirectory_grown hmade
  · exact .refl f

theorem makeDirectories_grown (f : Files) (depth : ℕ) (path : String) :
    Grown f (f.makeDirectories depth path).1 := by
  induction depth generalizing f path with
  | zero => exact .refl f
  | succ depth ih =>
    rw [makeDirectories]
    split_ifs
    · exact .refl f
    split
    · -- The last directory of the path is made once those above it are there.
      rename_i upper _ _
      have hupper := ih f upper
      split
      · rename_i hmade
        rwa [hmade] at hupper
      · rename_i hmade
        rw [hmade] at hupper
        exact hupper.trans (ensureDirectory_grown _ path)
    · exact ensureDirectory_grown f path

/-- **Making directories only adds directories.** -/
theorem ensureAll_grown (f : Files) (path : String) : Grown f (f.ensureAll path).1 :=
  makeDirectories_grown f _ path

/-! ## Writing a file as a whole -/

/-- A file is written where its path leads. -/
theorem exists_of_replace {path : String} {content : Bytes} (h : f.replace path content = .ok g) :
    ∃ place, place ≠ [] ∧ f.place path = .ok place ∧ f.node? place ≠ some .directory ∧
      g = f.set place (.file content) := by
  unfold replace at h
  by_cases hnul : holdsNul path = true
  · simp only [hnul, if_true, bind, Except.bind] at h
    cases h
  rcases habove : f.placeAbove path with e | ⟨above, _ | name⟩
  · simp only [hnul, habove, bind, Except.bind] at h
    cases h
  · simp only [hnul, habove, bind, Except.bind] at h
    cases h
  simp only [hnul, habove, bind, Except.bind] at h
  rw [if_neg Bool.false_ne_true] at h
  split_ifs at h with hdots hlong hslash hdir
  cases h
  rw [not_or] at hdots
  refine ⟨above ++ [name], by simp, place_of_placeAbove habove hdots.1 hdots.2 hlong hslash,
    fun hn => hdir ?_, rfl⟩
  simp [isDirectoryAt, hn]

/-- **What has been written is read back.** -/
theorem read_of_replace {path : String} {content : Bytes} (h : f.replace path content = .ok g) :
    g.hasPath path = true ∧ g.read path = .ok content := by
  obtain ⟨place, hne, hplace, hdir, rfl⟩ := exists_of_replace h
  have hnode : (f.set place (.file content)).node? place = some (.file content) := by
    rw [node?_set hne, if_pos rfl]
  have hlead : (f.set place (.file content)).place path = .ok place := by
    have hkept : ∀ p, f.node? p = some .directory →
        (f.set place (.file content)).node? p = some .directory := by
      intro p hp
      rw [node?_set hne, if_neg, hp]
      rintro rfl
      exact hdir hp
    have hw : (f.set place (.file content)).workingDirectory = f.workingDirectory := rfl
    exact place_of_directories hw hkept hplace
  refine ⟨?_, ?_⟩
  · simp [hasPath, hlead, hnode]
  · simp [read, hlead, hnode, bind, Except.bind]

end CommandLink.Files
