import CommandLink.Proofs.Credentials.Store

/-!
# What a store holds after any changes

A store goes through puts and removals, some of which fail as its file is written. Whatever fails,
the file and the memory stay together: opened again, the path gives the store that is in memory
(`run_faithful`), and for each address the store has the token that the last change made to it left
there.

One kind of path is different. A path such as `x/../c.json` may lead to nothing only because the
directory `x` is missing. A write that fails can leave this directory behind, and then the path
leads to whatever else is called `c.json` (`exists_openAt_run_ne`). A path is `Settled` where
this cannot happen.
-/

namespace CommandLink.CredentialStore

/-! ## Changes and how they end -/

/-- A change asked of a store. -/
inductive Change where
  | put (url token : String)
  | remove (url : String)
  deriving DecidableEq, Repr

/-- The address that a change is about. -/
def Change.url : Change → String
  | .put url _ => url
  | .remove url => url

/-- How a change ends. -/
inductive Outcome where
  | kept
  | forgotten (existed : Bool)
  | failed (error : StorageError)
  deriving DecidableEq, Repr

/-- Whether a change has been made that its file was written for. -/
def Outcome.written : Outcome → Bool
  | .kept => true
  | .forgotten existed => existed
  | .failed _ => false

/-- A store in memory, and the files that its own is among. -/
structure OnDisk where
  store : CredentialStore
  files : Files

namespace OnDisk

/-- What a change does, and how it ends. -/
def change (s : OnDisk) : Change → OnDisk × Outcome
  | .put url token =>
    match s.store.put s.files url token with
    | (files, .ok store) => (⟨store, files⟩, .kept)
    | (files, .error e) => (⟨s.store, files⟩, .failed e)
  | .remove url =>
    match s.store.remove s.files url with
    | (files, .ok (store, existed)) => (⟨store, files⟩, .forgotten existed)
    | (files, .error e) => (⟨s.store, files⟩, .failed e)

/-- What changes do one after the other, and how each of them ends. -/
def run (s : OnDisk) : List Change → OnDisk × List (Change × Outcome)
  | [] => (s, [])
  | c :: changes =>
    let after := (s.change c).1.run changes
    (after.1, (c, (s.change c).2) :: after.2)

end OnDisk

/-- What a change that ended so has made of the token for an address: `none` if nothing, else the
token that is there from then on, if any. -/
def Change.leaves (c : Change) (outcome : Outcome) (url : String) : Option (Option String) :=
  if normalizeUrl c.url = normalizeUrl url then
    match c, outcome with
    | .put _ token, .kept => some (some token)
    | .remove _, .forgotten _ => some none
    | _, _ => none
  else none

/-- What the last of the changes that concern an address has made of its token. -/
def lastLeft (log : List (Change × Outcome)) (url : String) : Option (Option String) :=
  (log.filterMap fun entry => entry.1.leaves entry.2 url).getLast?

/-- The tokens with a change made to them. -/
def Change.apply (entries : TextMap String) : Change → TextMap String
  | .put url token => entries.insert (normalizeUrl url) token
  | .remove url => entries.erase (normalizeUrl url)

/-- How a change ends that is made. -/
def Change.made : Change → Outcome
  | .put .. => .kept
  | .remove _ => .forgotten true

namespace OnDisk

variable {s : OnDisk} {c : Change}

/-- A removal without a token to remove changes nothing, not even the files; every other change is
made and written, or it fails, and then the tokens and the tree are spared. -/
theorem change_cases (s : OnDisk) (c : Change) :
    (∃ url, c = .remove url ∧ s.store.get? url = none ∧ s.change c = (s, .forgotten false)) ∨
    ((∀ url, c = .remove url → (s.store.get? url).isSome) ∧
      ((∃ files,
        s.change c = (⟨{ s.store with entries := c.apply s.store.entries }, files⟩, c.made) ∧
        files.hasPath s.store.path = true ∧
        openAt files s.store.path = .ok { s.store with entries := c.apply s.store.entries }) ∨
      ∃ files e, s.change c = (⟨s.store, files⟩, .failed e) ∧
        Spared s.store.path s.files files)) := by
  have hcommit := s.store.commit_cases s.files (c.apply s.store.entries)
  cases c with
  | put url token =>
    refine .inr ⟨nofun, ?_⟩
    simp only [change, CredentialStore.put]
    simp only [Change.apply] at hcommit ⊢
    generalize s.store.commit s.files _ = committed at hcommit ⊢
    obtain ⟨files, result⟩ := committed
    rcases hcommit with ⟨rfl, hthere, hopen⟩ | ⟨e, rfl, hspared⟩
    · exact .inl ⟨files, rfl, hthere, hopen⟩
    · exact .inr ⟨files, _, rfl, hspared⟩
  | remove url =>
    rcases hentry : s.store.get? url with _ | token
    · have hno : s.store.entries.contains (normalizeUrl url) = false := by
        simpa [TextMap.contains, CredentialStore.get?] using hentry
      exact .inl ⟨url, rfl, hentry, by simp [change, CredentialStore.remove, hno]⟩
    · have hyes : s.store.entries.contains (normalizeUrl url) = true := by
        simpa [TextMap.contains, CredentialStore.get?] using congrArg Option.isSome hentry
      refine .inr ⟨fun other h => by cases h; simp [hentry], ?_⟩
      simp only [change, CredentialStore.remove, hyes, if_true]
      simp only [Change.apply] at hcommit ⊢
      generalize s.store.commit s.files _ = committed at hcommit ⊢
      obtain ⟨files, result⟩ := committed
      rcases hcommit with ⟨rfl, hthere, hopen⟩ | ⟨e, rfl, hspared⟩
      · exact .inl ⟨files, rfl, hthere, hopen⟩
      · exact .inr ⟨files, _, rfl, hspared⟩

/-! ## Where a path opens again -/

end OnDisk

/-- A path that there is something at, or that making the directories above it does not lead to
anything. -/
def Settled (files : Files) (path : String) : Prop :=
  files.hasPath path = true ∨ (files.ensureAll (directoryOf path)).1.hasPath path = false

theorem Settled.hasPath_eq_false {files : Files} {path : String} (h : Settled files path)
    (hno : files.hasPath path = false) :
    (files.ensureAll (directoryOf path)).1.hasPath path = false :=
  h.resolve_left (by simp [hno])

theorem Spared.hasPath_eq_false {files files' : Files} {path : String}
    (h : Spared path files files') (hs : Settled files path) (hno : files.hasPath path = false) :
    files'.hasPath path = false := by
  rcases h with rfl | rfl
  · rwa [Files.takeFault_snd, Files.hasPath_withFaults]
  · rw [Files.takeFault_snd, Files.ensureAll_withFaults, Files.hasPath_withFaults]
    exact hs.hasPath_eq_false hno

/-- A settled path stays settled when a write fails. -/
theorem Spared.settled {files files' : Files} {path : String} (h : Spared path files files')
    (hs : Settled files path) : Settled files' path := by
  rcases hthere : files.hasPath path with _ | _
  · refine .inr ?_
    have hno := hs.hasPath_eq_false hthere
    rcases h with rfl | rfl
    · rwa [Files.takeFault_snd, Files.ensureAll_withFaults, Files.hasPath_withFaults]
    · rwa [Files.takeFault_snd, Files.ensureAll_withFaults, Files.ensureAll_withFaults,
        Files.hasPath_withFaults, Files.ensureAll_again]
  · exact .inl (Files.hasPath_of_grown h.grown hthere)

/-- A settled path opens as the same store when a write has failed. -/
theorem Spared.openAt {files files' : Files} {path : String} {store : CredentialStore}
    (h : Spared path files files') (hs : Settled files path)
    (ho : CredentialStore.openAt files path = .ok store) :
    CredentialStore.openAt files' path = .ok store := by
  rcases hthere : files.hasPath path with _ | _
  · rw [CredentialStore.openAt, h.hasPath_eq_false hs hthere]
    rwa [CredentialStore.openAt, hthere] at ho
  · exact openAt_of_grown h.grown hthere ho

namespace OnDisk

variable {s : OnDisk} {c : Change}

@[simp]
theorem path_change (s : OnDisk) (c : Change) :
    (s.change c).1.store.path = s.store.path := by
  rcases change_cases s c with ⟨_, -, -, h⟩ | ⟨-, ⟨_, h, -⟩ | ⟨_, _, h, -⟩⟩ <;> rw [h]

@[simp]
theorem path_run (s : OnDisk) (changes : List Change) :
    (s.run changes).1.store.path = s.store.path := by
  induction changes generalizing s with
  | nil => rfl
  | cons c changes ih => rw [run, ih, path_change]

/-- The file of a store holds what is in memory, and failing writes will not change that. -/
structure Together (s : OnDisk) : Prop where
  settled : Settled s.files s.store.path
  openAt : CredentialStore.openAt s.files s.store.path = .ok s.store

/-- One change leaves the file and the memory together, and brings them together if it is
written. -/
theorem together_change (h : s.Together ∨ (s.change c).2.written = true) :
    (s.change c).1.Together := by
  rcases change_cases s c with
    ⟨url, rfl, -, heq⟩ | ⟨-, ⟨files, heq, hthere, hopen⟩ | ⟨files, e, heq, hspared⟩⟩
  · rw [heq] at h ⊢
    exact h.resolve_right (by simp [Outcome.written])
  · rw [heq]
    exact ⟨.inl hthere, hopen⟩
  · rw [heq] at h ⊢
    have h := h.resolve_right (by simp [Outcome.written])
    exact ⟨hspared.settled h.settled, hspared.openAt h.settled h.openAt⟩

theorem together_run {changes : List Change}
    (h : s.Together ∨ ∃ entry ∈ (s.run changes).2, entry.2.written = true) :
    (s.run changes).1.Together := by
  induction changes generalizing s with
  | nil => exact h.resolve_right (by simp [run])
  | cons c changes ih =>
    simp only [run, List.mem_cons] at h ⊢
    refine ih ?_
    rcases h with h | ⟨entry, rfl | hmem, hwritten⟩
    · exact .inl (together_change (.inl h))
    · exact .inl (together_change (.inr hwritten))
    · exact .inr ⟨entry, hmem, hwritten⟩

/-! ## What one change does -/

/-- What a change does to a store and to the files, however it ends. -/
structure Faithful (s : OnDisk) (c : Change) : Prop where
  /-- A change that fails leaves all tokens as they were, and every file. -/
  failed : ∀ e, (s.change c).2 = .failed e → (s.change c).1.store = s.store ∧
    ∀ place content, (s.change c).1.files.node? place = some (.file content) ↔
      s.files.node? place = some (.file content)
  /-- A removal that is made tells whether there was a token. -/
  existed : ∀ url existed, c = .remove url → (s.change c).2 = .forgotten existed →
    existed = (s.store.get? url).isSome
  /-- A removal without a token to remove is made, and nothing is written. -/
  absent : ∀ url, c = .remove url → s.store.get? url = none → s.change c = (s, .forgotten false)
  /-- What is under other keys stands, whether or not the keys are addresses in their one form. -/
  others : ∀ key, key ≠ normalizeUrl c.url →
    (s.change c).1.store.entries.get? key = s.store.entries.get? key

theorem get?_apply_of_ne (entries : TextMap String) {key : String} (h : key ≠ normalizeUrl c.url) :
    (c.apply entries).get? key = entries.get? key := by
  cases c with
  | put url token => exact (TextMap.get?_insert ..).trans (if_neg h)
  | remove url => exact (TextMap.get?_erase ..).trans (if_neg h)

theorem faithful_change (s : OnDisk) (c : Change) : s.Faithful c := by
  rcases change_cases s c with
    ⟨url, rfl, hnone, heq⟩ | ⟨hsome, ⟨files, heq, -, -⟩ | ⟨files, e, heq, hspared⟩⟩
  · exact {
      failed := by simp [heq]
      existed := by
        intro other existed hother hended
        cases hother
        simp [heq] at hended
        simp [hnone, ← hended]
      absent := by
        intro other hother _
        cases hother
        exact heq
      others := by simp [heq] }
  · exact {
      failed := by
        intro e he
        cases c <;> simp [heq, Change.made] at he
      existed := by
        intro url existed hurl hended
        cases hurl
        simp only [heq, Change.made, Outcome.forgotten.injEq] at hended
        rw [← hended, hsome url rfl]
      absent := by
        intro url hurl hnone
        simpa [hnone] using hsome url hurl
      others := fun key hkey => by simpa [heq] using get?_apply_of_ne s.store.entries hkey }
  · exact {
      failed := by
        intro _ _
        rw [heq]
        exact ⟨rfl, hspared.grown.node?_eq_file_iff⟩
      existed := by simp [heq]
      absent := by
        intro url hurl hnone
        simpa [hnone] using hsome url hurl
      others := by simp [heq] }

/-! ## What all changes do -/

/-- After a change an address has the token that the change leaves it, and the token that it had
where the change leaves none. -/
theorem get?_change (s : OnDisk) (c : Change) (url : String) :
    (s.change c).1.store.get? url = (c.leaves (s.change c).2 url).getD (s.store.get? url) := by
  rcases change_cases s c with
    ⟨other, rfl, hnone, heq⟩ | ⟨-, ⟨files, heq, -, -⟩ | ⟨files, e, heq, -⟩⟩
  · rw [heq]
    by_cases hkey : normalizeUrl other = normalizeUrl url
    · rw [CredentialStore.get?, hkey] at hnone
      simp [Change.leaves, Change.url, hkey, CredentialStore.get?, hnone]
    · simp [Change.leaves, Change.url, hkey]
  · rw [heq]
    by_cases hkey : normalizeUrl url = normalizeUrl c.url
    · cases c <;>
        simp [Change.leaves, Change.made, CredentialStore.get?, Change.apply, hkey, Change.url,
          TextMap.get?_insert, TextMap.get?_erase]
    · rw [CredentialStore.get?, get?_apply_of_ne _ hkey]
      simp [Change.leaves, Ne.symm hkey, CredentialStore.get?]
  · rw [heq]
    cases c <;> simp [Change.leaves]

/-- A change that has come first counts where those after it leave nothing. -/
theorem lastLeft_cons (c : Change) (outcome : Outcome) (log : List (Change × Outcome))
    (url : String) :
    lastLeft ((c, outcome) :: log) url = (lastLeft log url).or (c.leaves outcome url) := by
  unfold lastLeft
  rw [List.filterMap_cons]
  rcases c.leaves outcome url with _ | left
  · simp
  · rw [List.getLast?_cons]
    cases (List.filterMap _ log).getLast? <;> rfl

theorem get?_run (s : OnDisk) (changes : List Change) (url : String) :
    (s.run changes).1.store.get? url =
      (lastLeft (s.run changes).2 url).getD (s.store.get? url) := by
  induction changes generalizing s with
  | nil => rfl
  | cons c changes ih =>
    simp only [run]
    rw [ih, get?_change, lastLeft_cons]
    cases lastLeft ((s.change c).1.run changes).2 url <;> rfl

end OnDisk

/-! ## Opening again -/

variable {files : Files} {path : String} {store : CredentialStore}

/-- **Memory and file stay together.** A store is opened, and any changes are made to it, of which
any may fail, at any stage of writing the file. If the path is settled, or as soon as one of the
changes has been written, the path opens as the store that is in memory. Each address has the token
that the last change made to it has left there, or the one that it had from the start. And the next
change, whatever it is, is made as it says or changes nothing. -/
theorem run_faithful (ho : openAt files path = .ok store) (changes : List Change) :
    (Settled files path ∨
        (∃ entry ∈ (OnDisk.run ⟨store, files⟩ changes).2, entry.2.written = true) →
      openAt (OnDisk.run ⟨store, files⟩ changes).1.files path =
        .ok (OnDisk.run ⟨store, files⟩ changes).1.store) ∧
    (∀ url, (OnDisk.run ⟨store, files⟩ changes).1.store.get? url =
      (lastLeft (OnDisk.run ⟨store, files⟩ changes).2 url).getD (store.get? url)) ∧
    ∀ next, (OnDisk.run ⟨store, files⟩ changes).1.Faithful next := by
  have hpath := path_of_openAt ho
  refine ⟨fun h => ?_, fun url => OnDisk.get?_run _ _ url, OnDisk.faithful_change _⟩
  have hstart : Settled files path → OnDisk.Together ⟨store, files⟩ := fun hs =>
    ⟨by rwa [hpath], by rwa [hpath]⟩
  have htogether : (OnDisk.run ⟨store, files⟩ changes).1.Together :=
    OnDisk.together_run (h.imp_left hstart)
  have hopen := htogether.openAt
  rwa [OnDisk.path_run, hpath] at hopen

/-- Where the disk is full at the first put, and only then, the store has what the second one
kept. -/
theorem run_faithful_of_full_disk :
    openAt ⟨.empty, [], [some (.rename .noSpace)]⟩ "relay/c.json" = .ok ⟨"relay/c.json", .empty⟩ ∧
    Settled ⟨.empty, [], [some (.rename .noSpace)]⟩ "relay/c.json" ∧
    openAt (OnDisk.run ⟨⟨"relay/c.json", .empty⟩, ⟨.empty, [], [some (.rename .noSpace)]⟩⟩
      [.put "a" "first", .put "b" "second"]).1.files "relay/c.json" =
      .ok (OnDisk.run ⟨⟨"relay/c.json", .empty⟩, ⟨.empty, [], [some (.rename .noSpace)]⟩⟩
        [.put "a" "first", .put "b" "second"]).1.store :=
  ⟨rfl, .inr (by decide),
    (run_faithful rfl [.put "a" "first", .put "b" "second"]).1 (.inl (.inr (by decide)))⟩

/-- A path that is not settled can open as another store than the one in memory: where `c.json` is a
directory and there is no directory `x`, a put to `x/../c.json` fails and leaves `x`. -/
theorem exists_openAt_run_ne :
    ¬ ∀ (files : Files) (path : String) (store : CredentialStore) (changes : List Change),
      openAt files path = .ok store →
        openAt (OnDisk.run ⟨store, files⟩ changes).1.files path =
          .ok (OnDisk.run ⟨store, files⟩ changes).1.store := by
  intro h
  have hopen := h ⟨Table.empty.insert ["c.json"] .directory, [], []⟩ "x/../c.json"
    ⟨"x/../c.json", .empty⟩ [.put "https://a.example/" "t"] rfl
  exact absurd (congrArg (fun opened => opened.toOption.isSome) hopen) (by decide)

end CommandLink.CredentialStore
