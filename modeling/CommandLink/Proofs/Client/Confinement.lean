import CommandLink.Client.Callbacks
import CommandLink.Proofs.Credentials.Store
import CommandLink.Proofs.Credentials.Url

/-!
# What a server can do to the store of a client

A server calls its client in any way. Whatever addresses it names, the client keeps, forgets and
shows the one token that belongs to the address it is connected to (`confined_to_own_entry`). A call
does one of three things to the store (`answer_cases`); from this follow what some calls can change
(`Reached`), and that what they are answered depends on no other token (`Alike`).
-/

namespace CommandLink

/-- What the file system says as a call is answered: what a password file holds, or whether the
store could be written. -/
inductive DiskAnswer where
  | read (result : Except IoError String)
  | written (result : Except StorageError Unit)

namespace ClientState

/-- What a client holds after some calls, and what they were answered. -/
def answerAll (s : ClientState) : List Call → ClientState × List (Except Failure Reply)
  | [] => (s, [])
  | call :: calls =>
    let later := (s.answer call).1.answerAll calls
    (later.1, (s.answer call).2 :: later.2)

/-- What the file system says as a call is answered, if it is asked. -/
def diskAnswer? (s : ClientState) (call : Call) : Option DiskAnswer :=
  match call, s.store with
  | .readPasswordFile path, _ => some (.read (s.files.readText path))
  | .storeToken _ token, some store =>
    let next := store.entries.insert (normalizeUrl s.url) token
    some (.written ((store.commit s.files next).2.map fun _ => ()))
  | .removeToken _, some store =>
    let next := store.entries.erase (normalizeUrl s.url)
    if store.entries.contains (normalizeUrl s.url) then
      some (.written ((store.commit s.files next).2.map fun _ => ()))
    else none
  | _, _ => none

/-- What the file system says as some calls are answered one after the other. -/
def diskAnswers (s : ClientState) : List Call → List (Option DiskAnswer)
  | [] => []
  | call :: calls => s.diskAnswer? call :: (s.answer call).1.diskAnswers calls

/-! ## One call -/

/-- What becomes of a client, and what it answers, when its store is to hold other tokens. -/
def commits (s : ClientState) (store : CredentialStore) (next : TextMap String) (reply : Reply) :
    ClientState × Except Failure Reply :=
  match store.commit s.files next with
  | (files, .ok store) => ({ s with files := files, store := some store }, .ok reply)
  | (files, .error e) => ({ s with files := files }, .error ⟨e.message⟩)

section Call

variable {s t : ClientState} {store other : CredentialStore}

theorem storeToken_eq (hs : s.store = some store) (token : String) :
    s.storeToken token =
      s.commits store (store.entries.insert (normalizeUrl s.url) token) .done := by
  obtain ⟨url, kept, buildToken, prompt, files⟩ := s
  obtain rfl : kept = some store := hs
  simp only [storeToken, CredentialStore.put, commits]
  rcases store.commit files (store.entries.insert (normalizeUrl url) token) with ⟨files', e | changed⟩
  · rfl
  · rfl

theorem removeToken_eq (hs : s.store = some store) :
    s.removeToken =
      if store.entries.contains (normalizeUrl s.url) then
        s.commits store (store.entries.erase (normalizeUrl s.url)) (.flag true)
      else (s, .ok (.flag false)) := by
  obtain ⟨url, kept, buildToken, prompt, files⟩ := s
  obtain rfl : kept = some store := hs
  simp only [removeToken, CredentialStore.remove, commits]
  split_ifs
  · rcases store.commit files (store.entries.erase (normalizeUrl url)) with ⟨files', e | changed⟩
    · rfl
    · rfl
  · rfl

theorem storedToken_eq (hs : s.store = some store) :
    s.storedToken = .ok (.text (store.entries.get? (normalizeUrl s.url))) := by
  rw [storedToken, hs]
  rfl

/-- Other tokens are written and then held, or neither the tokens nor any file have changed. -/
theorem commits_cases (s : ClientState) (store : CredentialStore) (next : TextMap String)
    (reply : Reply) :
    (∃ files, s.commits store next reply =
        ({ s with files := files, store := some { store with entries := next } }, .ok reply) ∧
      (store.commit s.files next).2.map (fun _ => ()) = .ok () ∧
      files.hasPath store.path = true ∧
      CredentialStore.openAt files store.path = .ok { store with entries := next }) ∨
    ∃ files e, s.commits store next reply = ({ s with files := files }, .error ⟨e.message⟩) ∧
      (store.commit s.files next).2.map (fun _ => ()) = .error e ∧ Files.Grown s.files files := by
  have hcases := store.commit_cases s.files next
  unfold commits
  generalize store.commit s.files next = committed at hcases ⊢
  obtain ⟨files, result⟩ := committed
  rcases hcases with ⟨rfl, hthere, hopen⟩ | ⟨e, rfl, hspared⟩
  · exact .inl ⟨files, rfl, rfl, hthere, hopen⟩
  · exact .inr ⟨files, _, rfl, rfl, hspared.grown⟩

/-- A call leaves the tokens as they are and touches no file, or it changes the one token in the
store and in its file. -/
theorem answer_cases (hs : s.store = some store) (call : Call) :
    ∃ files kept, (s.answer call).1 = { s with files := files, store := some kept } ∧
      ((kept = store ∧ Files.Grown s.files files) ∨
        (((∃ url token, call = .storeToken url token ∧
            kept = { store with
              entries := store.entries.insert (normalizeUrl s.url) token }) ∨
          ∃ url, call = .removeToken url ∧
            kept = { store with entries := store.entries.erase (normalizeUrl s.url) }) ∧
        files.hasPath store.path = true ∧
        CredentialStore.openAt files store.path = .ok kept)) := by
  have hself : s = { s with files := s.files, store := some store } := by rw [← hs]
  have hrest : (s.answer call).1 = s → ∃ files kept,
      (s.answer call).1 = { s with files := files, store := some kept } ∧
        kept = store ∧ Files.Grown s.files files :=
    fun h => ⟨s.files, store, h.trans hself, rfl, .refl _⟩
  cases call with
  | storeToken url token =>
    have heq : s.answer (.storeToken url token) =
        s.commits store (store.entries.insert (normalizeUrl s.url) token) .done :=
      storeToken_eq hs token
    rcases s.commits_cases store (store.entries.insert (normalizeUrl s.url) token) .done with
      ⟨files, hc, -, hthere, hopen⟩ | ⟨files, e, hc, -, hgrown⟩
    · exact ⟨files, _, by rw [heq, hc], .inr ⟨.inl ⟨url, token, rfl, rfl⟩, hthere, hopen⟩⟩
    · refine ⟨files, store, ?_, .inl ⟨rfl, hgrown⟩⟩
      rw [heq, hc, ← hs]
  | removeToken url =>
    have heq : s.answer (.removeToken url) =
        if store.entries.contains (normalizeUrl s.url) then
          s.commits store (store.entries.erase (normalizeUrl s.url)) (.flag true)
        else (s, .ok (.flag false)) := removeToken_eq hs
    by_cases hc : store.entries.contains (normalizeUrl s.url) = true
    · rw [if_pos hc] at heq
      rcases s.commits_cases store (store.entries.erase (normalizeUrl s.url)) (.flag true) with
        ⟨files, hcommit, -, hthere, hopen⟩ | ⟨files, e, hcommit, -, hgrown⟩
      · exact ⟨files, _, by rw [heq, hcommit], .inr ⟨.inr ⟨url, rfl, rfl⟩, hthere, hopen⟩⟩
      · refine ⟨files, store, ?_, .inl ⟨rfl, hgrown⟩⟩
        rw [heq, hcommit, ← hs]
    · rw [if_neg hc] at heq
      obtain ⟨files, kept, h, hk⟩ := hrest (by rw [heq])
      exact ⟨files, kept, h, .inl hk⟩
  | _ =>
    obtain ⟨files, kept, h, hk⟩ := hrest rfl
    exact ⟨files, kept, h, .inl hk⟩

end Call

/-! ## Some calls -/

/-- What some calls make of a client that began with a store. No other entry of the store has
changed. Either no file has been touched and the store is what it was, or its path opens as the
store. -/
structure Reached (start : ClientState) (initial : CredentialStore) (s : ClientState)
    (kept : CredentialStore) : Prop where
  url : s.url = start.url
  holds : s.store = some kept
  path : kept.path = initial.path
  others : ∀ key, key ≠ normalizeUrl start.url →
    kept.entries.get? key = initial.entries.get? key
  file : (kept = initial ∧ Files.Grown start.files s.files) ∨
    (s.files.hasPath initial.path = true ∧
      CredentialStore.openAt s.files initial.path = .ok kept)

theorem Reached.answer {start s : ClientState} {initial kept : CredentialStore}
    (h : Reached start initial s kept) (call : Call) :
    ∃ kept', Reached start initial (s.answer call).1 kept' := by
  obtain ⟨files, kept', heq, hk⟩ := answer_cases h.holds call
  have hurl : (s.answer call).1.url = start.url := by rw [heq, ← h.url]
  have hfiles : (s.answer call).1.files = files := by rw [heq]
  have hholds : (s.answer call).1.store = some kept' := by rw [heq]
  refine ⟨kept', ?_⟩
  rcases hk with ⟨rfl, hgrown⟩ | ⟨hchanged, hthere, hopen⟩
  · refine ⟨hurl, hholds, h.path, h.others, ?_⟩
    rw [hfiles]
    rcases h.file with ⟨hsame, hg⟩ | ⟨hthere, hopen⟩
    · exact .inl ⟨hsame, hg.trans hgrown⟩
    · exact .inr ⟨Files.hasPath_of_grown hgrown hthere,
        CredentialStore.openAt_of_grown hgrown hthere hopen⟩
  · rw [h.path] at hthere hopen
    rw [h.url] at hchanged
    refine ⟨hurl, hholds, ?_, fun key hkey => ?_, by rw [hfiles]; exact .inr ⟨hthere, hopen⟩⟩
    · rcases hchanged with ⟨_, _, _, rfl⟩ | ⟨_, _, rfl⟩
      · exact h.path
      · exact h.path
    · rcases hchanged with ⟨_, _, _, rfl⟩ | ⟨_, _, rfl⟩
      · rw [TextMap.get?_insert, if_neg hkey, h.others key hkey]
      · rw [TextMap.get?_erase, if_neg hkey, h.others key hkey]

theorem Reached.answerAll {start s : ClientState} {initial kept : CredentialStore}
    (h : Reached start initial s kept) (calls : List Call) :
    ∃ kept', Reached start initial (s.answerAll calls).1 kept' := by
  induction calls generalizing s kept with
  | nil => exact ⟨kept, h⟩
  | cons call calls ih =>
    obtain ⟨kept', h'⟩ := h.answer call
    exact ih h'

/-! ## Two clients -/

/-- Two clients that differ in nothing that a server may see: their stores agree on the one
token. -/
structure Alike (s t : ClientState) : Prop where
  url : t.url = s.url
  buildToken : t.buildToken = s.buildToken
  prompt : t.prompt = s.prompt
  token : ∃ kept other, s.store = some kept ∧ t.store = some other ∧
    other.entries.get? (normalizeUrl s.url) = kept.entries.get? (normalizeUrl s.url)

/-- Stores that are to hold other tokens, and can both be written or both not. -/
theorem Alike.commits {s t : ClientState} {store other : CredentialStore} (h : Alike s t)
    {next next' : TextMap String} (reply : Reply)
    (hnext : next'.get? (normalizeUrl s.url) = next.get? (normalizeUrl s.url))
    (hdisk : (store.commit s.files next).2.map (fun _ => ()) =
      (other.commit t.files next').2.map fun _ => ()) :
    (s.commits store next reply).2 = (t.commits other next' reply).2 ∧
      Alike (s.commits store next reply).1 (t.commits other next' reply).1 := by
  rcases s.commits_cases store next reply with ⟨files, hc, hok, -⟩ | ⟨files, e, hc, herror, -⟩
  · rcases t.commits_cases other next' reply with ⟨files', hc', -⟩ | ⟨_, e', -, herror', -⟩
    · rw [hc, hc']
      exact ⟨rfl, h.url, h.buildToken, h.prompt, _, _, rfl, rfl, hnext⟩
    · rw [hok, herror'] at hdisk
      cases hdisk
  · rcases t.commits_cases other next' reply with ⟨_, -, hok', -⟩ | ⟨files', e', hc', herror', -⟩
    · rw [herror, hok'] at hdisk
      cases hdisk
    · rw [herror, herror'] at hdisk
      cases hdisk
      rw [hc, hc']
      exact ⟨rfl, h.url, h.buildToken, h.prompt, h.token⟩

/-- Clients that are alike answer a call in the same way and stay alike, if the file system says the
same to both. -/
theorem Alike.answer {s t : ClientState} (h : Alike s t) (call : Call)
    (hdisk : s.diskAnswer? call = t.diskAnswer? call) :
    (s.answer call).2 = (t.answer call).2 ∧ Alike (s.answer call).1 (t.answer call).1 := by
  obtain ⟨store, other, hs, ht, hsame⟩ := h.token
  cases call with
  | storeToken url token =>
    have heq : s.answer (.storeToken url token) =
        s.commits store (store.entries.insert (normalizeUrl s.url) token) .done :=
      storeToken_eq hs token
    have heq' : t.answer (.storeToken url token) =
        t.commits other (other.entries.insert (normalizeUrl t.url) token) .done :=
      storeToken_eq ht token
    rw [heq, heq']
    refine h.commits _ (by simp [h.url]) ?_
    simp only [diskAnswer?, hs, ht, Option.some.injEq, DiskAnswer.written.injEq] at hdisk
    exact hdisk
  | removeToken url =>
    have heq : s.answer (.removeToken url) =
        if store.entries.contains (normalizeUrl s.url) then
          s.commits store (store.entries.erase (normalizeUrl s.url)) (.flag true)
        else (s, .ok (.flag false)) := removeToken_eq hs
    have heq' : t.answer (.removeToken url) =
        if other.entries.contains (normalizeUrl t.url) then
          t.commits other (other.entries.erase (normalizeUrl t.url)) (.flag true)
        else (t, .ok (.flag false)) := removeToken_eq ht
    have hcontains : other.entries.contains (normalizeUrl t.url) =
        store.entries.contains (normalizeUrl s.url) := by
      rw [TextMap.contains, TextMap.contains, h.url, hsame]
    rw [heq, heq', hcontains]
    by_cases hc : store.entries.contains (normalizeUrl s.url) = true
    · rw [if_pos hc, if_pos hc]
      refine h.commits _ (by simp [h.url]) ?_
      simp only [diskAnswer?, hs, ht, hcontains, hc, if_true, Option.some.injEq,
        DiskAnswer.written.injEq] at hdisk
      exact hdisk
    · rw [if_neg hc, if_neg hc]
      exact ⟨rfl, h⟩
  | readPasswordFile path =>
    simp only [diskAnswer?, Option.some.injEq, DiskAnswer.read.injEq] at hdisk
    refine ⟨?_, h⟩
    simp only [ClientState.answer, passwordFile, hdisk]
  | promptPassword text =>
    refine ⟨?_, h⟩
    simp only [ClientState.answer, promptPassword, h.prompt]
  | readStoredToken url =>
    refine ⟨?_, h⟩
    simp only [ClientState.answer, storedToken_eq hs, storedToken_eq ht, h.url, hsame]
  | readBuildToken =>
    refine ⟨?_, h⟩
    simp only [ClientState.answer, h.buildToken]
  | execute invocation => exact ⟨rfl, h⟩
  | hasCommand name => exact ⟨rfl, h⟩

theorem Alike.answerAll {s t : ClientState} (h : Alike s t) (calls : List Call)
    (hdisk : s.diskAnswers calls = t.diskAnswers calls) :
    (s.answerAll calls).2 = (t.answerAll calls).2 := by
  induction calls generalizing s t with
  | nil => rfl
  | cons call calls ih =>
    rw [diskAnswers, diskAnswers, List.cons.injEq] at hdisk
    obtain ⟨hreply, halike⟩ := h.answer call hdisk.1
    rw [ClientState.answerAll, ClientState.answerAll, hreply, ih halike hdisk.2]

/-! ## The one entry -/

/-- Every call about a token is about the entry under `own` in the tokens `kept`, whatever address
the call names. What cannot be written stays as it was. -/
structure ActsOn (s : ClientState) (kept : CredentialStore) (own : String) : Prop where
  read : ∀ named, s.answer (.readStoredToken named) = (s, .ok (.text (kept.entries.get? own)))
  stored : ∀ named token, ∃ files,
    s.answer (.storeToken named token) =
        ({ s with
            files := files,
            store := some { kept with entries := kept.entries.insert own token } },
          .ok .done) ∨
      ∃ e : StorageError,
        s.answer (.storeToken named token) = ({ s with files := files }, .error ⟨e.message⟩)
  removed : ∀ named, ∃ files,
    s.answer (.removeToken named) =
        ({ s with files := files, store := some { kept with entries := kept.entries.erase own } },
          .ok (.flag (kept.entries.contains own))) ∨
      ∃ e : StorageError,
        s.answer (.removeToken named) = ({ s with files := files }, .error ⟨e.message⟩)

theorem actsOn {s : ClientState} {kept : CredentialStore} (hs : s.store = some kept) :
    s.ActsOn kept (normalizeUrl s.url) where
  read named := by
    simp only [answer, storedToken_eq hs]
  stored named token := by
    have heq : s.answer (.storeToken named token) =
        s.commits kept (kept.entries.insert (normalizeUrl s.url) token) .done :=
      storeToken_eq hs token
    rw [heq]
    rcases s.commits_cases kept (kept.entries.insert (normalizeUrl s.url) token) .done with
      ⟨files, hc, -⟩ | ⟨files, e, hc, -⟩
    · exact ⟨files, .inl hc⟩
    · exact ⟨files, .inr ⟨e, hc⟩⟩
  removed named := by
    have heq : s.answer (.removeToken named) =
        if kept.entries.contains (normalizeUrl s.url) then
          s.commits kept (kept.entries.erase (normalizeUrl s.url)) (.flag true)
        else (s, .ok (.flag false)) := removeToken_eq hs
    rw [heq]
    by_cases hc : kept.entries.contains (normalizeUrl s.url) = true
    · rw [if_pos hc, hc]
      rcases s.commits_cases kept (kept.entries.erase (normalizeUrl s.url)) (.flag true) with
        ⟨files, hcommit, -⟩ | ⟨files, e, hcommit, -⟩
      · exact ⟨files, .inl hcommit⟩
      · exact ⟨files, .inr ⟨e, hcommit⟩⟩
    · rw [if_neg hc, TextMap.erase_of_not_contains hc, ← hs, Bool.eq_false_iff.mpr hc]
      exact ⟨s.files, .inl rfl⟩

end ClientState

end CommandLink
