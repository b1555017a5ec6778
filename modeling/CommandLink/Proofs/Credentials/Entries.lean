import CommandLink.Client.Callbacks
import CommandLink.Proofs.Credentials.Store
import CommandLink.Proofs.Credentials.Url
import CommandLink.Server.Startup

/-!
# Which addresses share an entry

An address can be written with white space around it, and with or without a slash at its end. A
store, a client and a server each bring the addresses that they are given into the one form, so that
some are brought into it more than once. Two addresses name one entry of every store just when they
are the same but for how they are written (`oneEntry_iff`), and just then a client that is connected
to the one serves a server of the other from the server's own entry (`one_entry_per_address`).
-/

namespace CommandLink

/-! ## Entries of stores -/

/-- Two addresses that are one to every store: what is got, kept or forgotten under the one is got,
kept or forgotten under the other. -/
structure OneEntry (u v : String) : Prop where
  get? : ∀ store : CredentialStore, store.get? u = store.get? v
  put : ∀ (store : CredentialStore) (files : Files) (token : String),
    store.put files u token = store.put files v token
  remove : ∀ (store : CredentialStore) (files : Files), store.remove files u = store.remove files v

theorem oneEntry_of_normalizeUrl_eq {u v : String} (h : normalizeUrl u = normalizeUrl v) :
    OneEntry u v where
  get? store := by rw [CredentialStore.get?, CredentialStore.get?, h]
  put store files token := by rw [CredentialStore.put, CredentialStore.put, h]
  remove store files := by simp only [CredentialStore.remove, h]

/-- Addresses of two forms are told apart by a store with a token for one of them. -/
theorem normalizeUrl_eq_of_get?_eq {u v : String}
    (h : ∀ store : CredentialStore, store.get? u = store.get? v) :
    normalizeUrl u = normalizeUrl v := by
  have hget := h ⟨"", TextMap.empty.insert (normalizeUrl v) ""⟩
  rw [CredentialStore.get?, CredentialStore.get?, TextMap.get?_insert, TextMap.get?_insert,
    if_pos rfl] at hget
  by_contra hne
  rw [if_neg hne, TextMap.get?_empty] at hget
  cases hget

/-- **Two addresses name one entry of every store** just when they are the same but for how they are
written. -/
theorem oneEntry_iff {u v : String} : OneEntry u v ↔ SameAddress u v := by
  rw [← normalizeUrl_eq_iff]
  exact ⟨fun h => normalizeUrl_eq_of_get?_eq h.get?, oneEntry_of_normalizeUrl_eq⟩

theorem oneEntry_normalizeUrl (url : String) : OneEntry (normalizeUrl url) url :=
  oneEntry_of_normalizeUrl_eq (normalizeUrl_normalizeUrl url)

namespace CredentialStore

variable {store after : CredentialStore} {files files' : Files} {url token : String}

/-- What a store holds in which a token has been kept. -/
theorem eq_of_put (h : store.put files url token = (files', .ok after)) :
    after = { store with entries := store.entries.insert (normalizeUrl url) token } := by
  rw [put] at h
  rcases store.commit_cases files (store.entries.insert (normalizeUrl url) token) with
    ⟨hok, -⟩ | ⟨e, herror, -⟩
  · rw [h] at hok
    exact Except.ok.inj hok
  · rw [h] at herror
    cases herror

/-- A token that has been kept is got under every address that is the same; under the others there
is what was there before. -/
theorem get?_of_put (h : store.put files url token = (files', .ok after)) (other : String) :
    after.get? other = if SameAddress url other then some token else store.get? other := by
  rw [eq_of_put h, get?, TextMap.get?_insert, get?]
  exact if_congr (eq_comm.trans normalizeUrl_eq_iff) rfl rfl

end CredentialStore

/-! ## Clients and servers -/

namespace ClientState

/-- Every call about a token, whatever address it names, gets, keeps or forgets a token as the store
does under the address `url`. -/
structure ServesFrom (s : ClientState) (store : CredentialStore) (url : String) : Prop where
  read : ∀ named, s.answer (.readStoredToken named) = (s, .ok (.text (store.get? url)))
  stored : ∀ named token, s.answer (.storeToken named token) =
    match store.put s.files url token with
    | (files, .ok after) => ({ s with files := files, store := some after }, .ok .done)
    | (files, .error e) => ({ s with files := files }, .error ⟨e.message⟩)
  removed : ∀ named, s.answer (.removeToken named) =
    match store.remove s.files url with
    | (files, .ok (after, existed)) =>
      ({ s with files := files, store := some after }, .ok (.flag existed))
    | (files, .error e) => ({ s with files := files }, .error ⟨e.message⟩)

/-- A client serves from the entry of its address, in whatever way the address is written. -/
theorem servesFrom_of_oneEntry {s : ClientState} {store : CredentialStore} {url : String}
    (hs : s.store = some store) (h : OneEntry s.url url) : s.ServesFrom store url where
  read named := by
    simp only [answer, storedToken, hs, Option.bind_some, h.get?]
  stored named token := by
    simp only [answer, storeToken, hs, h.put]
    rcases store.put s.files url token with ⟨files, e | after⟩
    · rfl
    · rfl
  removed named := by
    simp only [answer, removeToken, hs, h.remove]
    rcases store.remove s.files url with ⟨files, e | ⟨after, existed⟩⟩
    · rfl
    · rfl

/-- A client that serves from the entry of an address, whatever its store holds, is connected to an
address of the same form. -/
theorem normalizeUrl_eq_of_servesFrom {u v : String} {buildToken : Option String}
    {prompt : String → Except String (Option String)} {files : Files}
    (h : ∀ store, (connected u (some store) buildToken prompt files).ServesFrom store v) :
    normalizeUrl u = normalizeUrl v := by
  refine normalizeUrl_eq_of_get?_eq fun store => ?_
  have hown := servesFrom_of_oneEntry (s := connected u (some store) buildToken prompt files) rfl
    (oneEntry_normalizeUrl u)
  have hread := (hown.read v).symm.trans ((h store).read v)
  simpa using hread

end ClientState

/-- **An address has one entry, however it is written.** The one form of an address is its own one
form: it ends in a slash, and it neither begins nor ends with white space. It is the part of the
address between the white space around it, with a slash added if there is none at the end. Two
addresses name one entry of every store just when they are the same but for how they are written;
what is kept under the one is then got under the other, and else it is not. A client that is
connected to the one serves all calls about tokens from the entry of this address. It takes the
address that a server of the other one calls itself for its own, and serves from the entry of that
address, just when the two are the same. -/
theorem one_entry_per_address (u v : String) :
    (normalizeUrl (normalizeUrl u) = normalizeUrl u ∧
      (normalizeUrl u).toList.getLast? = some '/' ∧
      Text.Trims (normalizeUrl u).toList (normalizeUrl u).toList ∧
      Text.Trims u.toList (Text.trimChars u.toList) ∧
      (normalizeUrl u).toList = slashed (Text.trimChars u.toList)) ∧
    (OneEntry u v ↔ SameAddress u v) ∧
    (∀ (store after : CredentialStore) (files files' : Files) (token : String),
      store.put files u token = (files', .ok after) →
        after.get? v = if SameAddress u v then some token else store.get? v) ∧
    ∀ {ρ : Type} (buildToken : Option String) (prompt : String → Except String (Option String))
      (files : Files) (config : ServerConfig) (madeUp : SecretKey) (salt : Nat → Bytes)
      (commands : Server.Registry ρ),
      let client := fun store => ClientState.connected u (some store) buildToken prompt files
      let server := Server.configured { config with rootUrl := v } madeUp salt commands
      OneEntry server.profile.rootUrl v ∧
      (∀ store, OneEntry (client store).url u ∧ (client store).ServesFrom store u ∧
        (normalizeUrl server.profile.rootUrl = (client store).url ↔ SameAddress u v)) ∧
      ((∀ store, (client store).ServesFrom store server.profile.rootUrl) ↔ SameAddress u v) := by
  refine ⟨⟨normalizeUrl_normalizeUrl u, getLast?_normalizeUrl u,
    Text.trims_iff.mpr (trimChars_normalizeUrl u).symm, Text.trims_trimChars _,
    toList_normalizeUrl u⟩, oneEntry_iff,
    fun store after files files' token h => CredentialStore.get?_of_put h v, ?_⟩
  intro ρ buildToken prompt files config madeUp salt commands client server
  have hroot : normalizeUrl server.profile.rootUrl = normalizeUrl v := normalizeUrl_normalizeUrl v
  have hown : ∀ store, OneEntry (client store).url u := fun _ => oneEntry_normalizeUrl u
  refine ⟨oneEntry_normalizeUrl v, fun store => ⟨hown store,
    ClientState.servesFrom_of_oneEntry rfl (hown store), ?_⟩, ?_⟩
  · rw [hroot, eq_comm]
    exact normalizeUrl_eq_iff
  · rw [← normalizeUrl_eq_iff, ← hroot]
    refine ⟨ClientState.normalizeUrl_eq_of_servesFrom, fun h store => ?_⟩
    refine ClientState.servesFrom_of_oneEntry rfl (oneEntry_of_normalizeUrl_eq ?_)
    exact (normalizeUrl_normalizeUrl u).trans h

/-- What is kept for an address with white space around it and no slash at its end is got for the
address with a slash, and not for the one with two. -/
theorem one_entry_per_address_spellings :
    ∃ files after, (⟨"c.json", .empty⟩ : CredentialStore).put ⟨.empty, [], []⟩
        "\u3000https://ci.example\n" "t" = (files, .ok after) ∧
      after.get? "https://ci.example/" = some "t" ∧ after.get? "https://ci.example//" = none := by
  have hput : (⟨"c.json", .empty⟩ : CredentialStore).put ⟨.empty, [], []⟩
      "\u3000https://ci.example\n" "t" =
      (_, .ok ⟨"c.json", TextMap.empty.insert (normalizeUrl "\u3000https://ci.example\n") "t"⟩) :=
    rfl
  have hget := fun v => (one_entry_per_address "\u3000https://ci.example\n" v).2.2.1 _ _ _ _ _ hput
  refine ⟨_, _, hput, ?_, ?_⟩
  · exact (hget "https://ci.example/").trans (if_pos (by decide))
  · exact (hget "https://ci.example//").trans (if_neg (by decide))

end CommandLink
