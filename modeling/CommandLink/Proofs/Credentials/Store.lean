import CommandLink.Credentials.Store
import CommandLink.Proofs.Files.Directories
import CommandLink.Proofs.Json.PrettyTexts
import Mathlib.Data.List.TakeWhile

/-!
# A store and its file

What the file of a store holds is what the store holds (`parseContent_content`). A change to a store
either is written, and then the path of the store opens as the changed store, or it fails, and then
no file has been touched, and at most directories have been made (`commit_cases`).
-/

namespace CommandLink.CredentialStore

/-- The bytes of a file with some tokens are read as these tokens. -/
theorem parseContent_content (path : String) (entries : TextMap String) :
    parseContent path (content entries) = .ok entries := by
  have hfirst : ∃ cs, Json.prettyTexts entries.entries = '{' :: cs := by
    unfold Json.prettyTexts
    split
    · exact ⟨_, rfl⟩
    · exact ⟨_, rfl⟩
  have hkept : Text.trimChars (Json.prettyTexts entries.entries) ≠ [] := by
    obtain ⟨cs, hcs⟩ := hfirst
    have hbrace : '{' ∈ ((Json.prettyTexts entries.entries).dropWhile Text.isBlank).reverse := by
      rw [hcs, List.dropWhile_cons_of_neg (by decide), List.mem_reverse]
      exact List.mem_cons_self ..
    intro hnil
    rw [Text.trimChars, List.reverse_eq_nil_iff, List.dropWhile_eq_nil_iff] at hnil
    exact absurd (hnil '{' hbrace) (by decide)
  rw [parseContent, content, Text.Utf8.decode?_encode]
  simp only [if_neg hkept, Json.parseTexts_prettyTexts]
  rfl

/-! ## Opening -/

variable {files files' : Files} {path : String} {store store' : CredentialStore}

/-- A store keeps the path that it was opened at. -/
theorem path_of_openAt (ho : openAt files path = .ok store) : store.path = path := by
  unfold openAt at ho
  split_ifs at ho
  · rcases hread : files.read path with e | bytes
    · simp [hread] at ho
    · simp only [hread] at ho
      rcases hparsed : parseContent path bytes with e | entries
      · simp [hparsed, Except.map] at ho
      · rw [hparsed] at ho
        exact congrArg CredentialStore.path (Except.ok.inj ho).symm
  · exact congrArg CredentialStore.path (Except.ok.inj ho).symm

/-- A path where there is a file opens as the same store after the tree has grown. -/
theorem openAt_of_grown (hg : Files.Grown files files') (hp : files.hasPath path = true)
    (ho : openAt files path = .ok store) : openAt files' path = .ok store := by
  rw [openAt, Files.hasPath_of_grown hg hp, Files.read_of_grown hg hp]
  rwa [openAt, hp] at ho

/-! ## Changing -/

/-- What a failed write leaves of a tree: all that was there, and perhaps the directories that the
file would have needed. -/
def Spared (path : String) (files files' : Files) : Prop :=
  files' = files.takeFault.2 ∨ files' = (files.takeFault.2.ensureAll (directoryOf path)).1

theorem takeFault_grown (files : Files) : Files.Grown files files.takeFault.2 := by
  rw [Files.takeFault_snd]
  exact ⟨rfl, fun _ => .inl rfl⟩

theorem Spared.grown (h : Spared path files files') : Files.Grown files files' := by
  rcases h with rfl | rfl
  · exact takeFault_grown files
  · exact (takeFault_grown files).trans (Files.ensureAll_grown _ _)

/-- Writing the file of a store spares the tree, or leaves one that opens as the store. -/
theorem writeFile_cases (files : Files) (path : String) (entries : TextMap String) :
    ((writeFile files path entries).2 = .ok () ∧
      (writeFile files path entries).1.hasPath path = true ∧
      openAt (writeFile files path entries).1 path = .ok ⟨path, entries⟩) ∨
    ∃ e, (writeFile files path entries).2 = .error (.write path e) ∧
      Spared path files (writeFile files path entries).1 := by
  unfold writeFile Spared
  generalize files.takeFault = taken
  obtain ⟨fault, rest⟩ := taken
  simp only
  split
  · exact .inr ⟨_, rfl, .inl rfl⟩
  · generalize rest.ensureAll (directoryOf path) = ensured
    obtain ⟨made, result⟩ := ensured
    rcases result with e | ⟨⟨⟩⟩
    · exact .inr ⟨e, rfl, .inr rfl⟩
    rcases hwritten : made.replace path (content entries) with e | written
    · rcases fault with _ | e' | e' | e'
      all_goals
        simp only [hwritten]
        exact .inr ⟨_, rfl, .inr trivial⟩
    · obtain ⟨hthere, hread⟩ := Files.read_of_replace hwritten
      have hopen : openAt written path = .ok ⟨path, entries⟩ := by
        rw [openAt, hthere, hread]
        simp only [if_true, parseContent_content]
        rfl
      rcases fault with _ | e | e | e
      · simp only [hwritten]
        exact .inl ⟨trivial, hthere, hopen⟩
      · simp only [hwritten]
        exact .inl ⟨trivial, hthere, hopen⟩
      · exact .inr ⟨e, rfl, .inr rfl⟩
      · exact .inr ⟨e, rfl, .inr rfl⟩

/-- A change is written as a whole, and then made, or it fails, and then it is not made and no file
is touched. -/
theorem commit_cases (store : CredentialStore) (files : Files) (next : TextMap String) :
    ((store.commit files next).2 = .ok { store with entries := next } ∧
      (store.commit files next).1.hasPath store.path = true ∧
      openAt (store.commit files next).1 store.path = .ok { store with entries := next }) ∨
    ∃ e, (store.commit files next).2 = .error (.write store.path e) ∧
      Spared store.path files (store.commit files next).1 := by
  have hcommit : store.commit files next =
      ((writeFile files store.path next).1,
        (writeFile files store.path next).2.map fun _ => { store with entries := next }) := rfl
  rw [hcommit]
  rcases writeFile_cases files store.path next with ⟨hok, hthere, hopen⟩ | ⟨e, herror, hspared⟩
  · exact .inl ⟨by rw [hok]; rfl, hthere, hopen⟩
  · exact .inr ⟨e, by rw [herror]; rfl, hspared⟩

end CommandLink.CredentialStore
