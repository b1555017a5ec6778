import CommandLink.Proofs.Token.Codec
import CommandLink.Realm
import Mathlib.Data.List.Basic
import Mathlib.Data.List.Induction

/-!
# Accounts by their history

A realm keeps nothing of a password but a salted digest, and yet it answers as if it knew the
password. Which salts are used makes no difference to what is hashed (`preimage_ne`), so the answer to
a name and a password follows from the last change that is about the name (`authenticate_after`),
unless two different strings of bytes have one digest. All of this is `answers_by_history`.
-/

namespace CommandLink

open Digest.Sha256 (Collision)

namespace PasswordDigest

variable {salt salt' : Bytes} {password other : String}

/-- Different passwords are hashed from different bytes, whatever their salts, which are all equally
long. -/
theorem preimage_ne (hlength : salt.length = salt'.length) (hne : other ≠ password) :
    preimage salt other ≠ preimage salt' password := fun h =>
  hne (String.toList_injective (Text.Utf8.encode_injective (List.append_inj h hlength).2))

theorem accepts_of_iff : (PasswordDigest.of salt password).accepts other = true ↔
    Digest.Sha256.digest (preimage salt other) = Digest.Sha256.digest (preimage salt password) :=
  Bytes.agree_iff _ _

/-- No password opens an account but its own, unless the two have one digest. -/
theorem digest_eq_iff :
    Digest.Sha256.digest (preimage salt other) = Digest.Sha256.digest (preimage salt password) ↔
      other = password ∨ Collision (preimage salt other) (preimage salt password) := by
  constructor
  · intro h
    by_cases heq : other = password
    · exact .inl heq
    · exact .inr ⟨preimage_ne rfl heq, h⟩
  · rintro (rfl | ⟨-, h⟩)
    · rfl
    · exact h

end PasswordDigest

namespace Realm

open PasswordDigest (preimage)

/-! ## Histories of accounts -/

/-- A change to the accounts. -/
inductive Change where
  | add (name password : String)
  | remove (name : String)
  deriving DecidableEq, Repr

/-- Whose account is changed. -/
def Change.name : Change → String
  | .add name _ => name
  | .remove name => name

/-- The password of the account after a change, if there is an account. -/
def Change.password? : Change → Option String
  | .add _ password => some password
  | .remove _ => none

/-- The accounts after a change. The salt is for an account that is added. -/
def change (realm : Realm) (salt : Bytes) : Change → Realm
  | .add name password => realm.addUser salt name password
  | .remove name => realm.removeUser name

/-- The accounts after a history of changes, each with its salt. At first there are none. -/
def after (history : List (Change × Bytes)) : Realm :=
  history.foldl (fun realm event => realm.change event.2 event.1) .empty

/-- The last of a history that is about a name. -/
def last? (history : List (Change × Bytes)) (name : String) : Option (Change × Bytes) :=
  (history.filter (·.1.name = name)).getLast?

variable {history history' : List (Change × Bytes)} {name password other : String} {salt : Bytes}

theorem last?_concat (history : List (Change × Bytes)) (event : Change × Bytes) (name : String) :
    last? (history ++ [event]) name =
      if event.1.name = name then some event else last? history name := by
  by_cases h : event.1.name = name
  · simp [last?, h]
  · simp [last?, h]

/-- What is about other names does not count. -/
theorem last?_filter (history : List (Change × Bytes)) (name : String) :
    last? (history.filter (·.1.name = name)) name = last? history name := by
  rw [last?, List.filter_filter, last?]
  simp

theorem name_of_last? {event : Change × Bytes} (h : last? history name = some event) :
    event.1.name = name := by
  have hmem := List.mem_of_getLast? h
  simpa using (List.mem_filter.mp hmem).2

theorem get?_change (realm : Realm) (salt : Bytes) (c : Change) (name : String) :
    (realm.change salt c).get? name =
      if c.name = name then c.password?.map (PasswordDigest.of salt) else realm.get? name := by
  cases c
  all_goals
    simp only [change, addUser, removeUser, Table.get?_insert, Table.get?_erase, Change.name,
      Change.password?, Option.map_some, Option.map_none, eq_comm]

/-- **What is kept of an account** is what its last change has left. -/
theorem get?_after (history : List (Change × Bytes)) (name : String) :
    (after history).get? name = (last? history name).bind fun event =>
      event.1.password?.map (PasswordDigest.of event.2) := by
  induction history using List.reverseRecOn with
  | nil => rfl
  | append_singleton history event ih =>
    have hafter : after (history ++ [event]) = (after history).change event.2 event.1 :=
      List.foldl_concat ..
    rw [hafter, get?_change, ih, last?_concat]
    split_ifs
    · rfl
    · rfl

/-! ## Answers -/

/-- The answer where there is an account. -/
theorem authenticate_after (h : last? history name = some (.add name password, salt)) :
    (after history).authenticate name other =
      if Digest.Sha256.digest (preimage salt other) = Digest.Sha256.digest (preimage salt password)
        then .ok () else .error .invalidCredentials := by
  have hkept : (after history).get? name = some (.of salt password) := by
    rw [get?_after, h]
    rfl
  simp only [authenticate, hkept, PasswordDigest.accepts_of_iff]

/-- The answer where there is none. -/
theorem authenticate_after_of_not_added
    (h : ¬ ∃ password salt, last? history name = some (.add name password, salt)) :
    (after history).authenticate name other = .error .invalidCredentials := by
  have hkept : (after history).get? name = none := by
    rw [get?_after]
    rcases hlast : last? history name with _ | ⟨c, salt⟩
    · rfl
    · cases c with
      | add name' password =>
        have hname : name' = name := name_of_last? hlast
        exact absurd ⟨password, salt, hname ▸ hlast⟩ h
      | remove name' => rfl
  rw [authenticate, hkept]

/-- Which passwords open an account: its own, and those that have the same digest. -/
theorem authenticate_eq_ok_iff (h : last? history name = some (.add name password, salt)) :
    (after history).authenticate name other = .ok () ↔
      other = password ∨ Collision (preimage salt other) (preimage salt password) := by
  rw [authenticate_after h, ← PasswordDigest.digest_eq_iff]
  split_ifs with heq
  · simp [heq]
  · simp [heq]

/-- A password that is not the account's own is refused, unless it has the same digest. -/
theorem refused_or_collision (h : last? history name = some (.add name password, salt))
    (hne : other ≠ password) :
    (after history).authenticate name other = .error .invalidCredentials ∨
      Collision (preimage salt other) (preimage salt password) := by
  rw [authenticate_after h]
  split_ifs with heq
  · exact .inr ((PasswordDigest.digest_eq_iff.mp heq).resolve_left hne)
  · exact .inl rfl

/-- Answers depend on what is kept under the name only. -/
theorem authenticate_congr {realm realm' : Realm} (h : realm.get? name = realm'.get? name) :
    realm.authenticate name other = realm'.authenticate name other := by
  rw [authenticate, h, authenticate]

/-! ## Other salts -/

/-- The last change about a name is the same where only the salts differ. -/
theorem map_fst_last? (hsame : history.map Prod.fst = history'.map Prod.fst) (name : String) :
    (last? history name).map Prod.fst = (last? history' name).map Prod.fst := by
  have hfirst (l : List (Change × Bytes)) : (last? l name).map Prod.fst =
      ((l.map Prod.fst).filter (·.name = name)).getLast? := by
    rw [last?, List.filter_map, List.getLast?_map]
    rfl
  rw [hfirst, hfirst, hsame]

theorem hasUser_after (history : List (Change × Bytes)) (name : String) :
    (after history).hasUser name =
      (((last? history name).map Prod.fst).bind Change.password?).isSome := by
  rw [hasUser, Table.contains, get?_after]
  rcases last? history name with _ | ⟨c, salt⟩
  · rfl
  · cases c <;> rfl

/-- There is an account if the last change about its name has added it. -/
theorem hasUser_after_iff : (after history).hasUser name = true ↔
    ∃ password salt, last? history name = some (.add name password, salt) := by
  rw [hasUser_after]
  rcases hlast : last? history name with _ | ⟨c, salt⟩
  · simp
  · have hname := name_of_last? hlast
    cases c with
    | add name' password =>
      obtain rfl : name' = name := hname
      exact iff_of_true rfl ⟨password, salt, rfl⟩
    | remove name' =>
      refine iff_of_false Bool.false_ne_true ?_
      rintro ⟨password, salt', h⟩
      cases h

/-- The names of the accounts after a change, in the order of their arrival. -/
def Change.names (names : List String) : Change → List String
  | .add name _ => if name ∈ names then names else names ++ [name]
  | .remove name => names.filter (· ≠ name)

theorem keys_change (realm : Realm) (salt : Bytes) (c : Change) :
    (realm.change salt c).keys = c.names realm.keys := by
  cases c with
  | add name password => exact Table.keys_put _ _ _
  | remove name =>
    rw [change, removeUser, Table.erase, Table.keys, Table.keys, Change.names, List.filter_map]
    rfl

/-- There are the same accounts whatever the salts. -/
theorem keys_after (history : List (Change × Bytes)) :
    (after history).keys = (history.map Prod.fst).foldl Change.names [] := by
  induction history using List.reverseRecOn with
  | nil => rfl
  | append_singleton history event ih =>
    have hafter : after (history ++ [event]) = (after history).change event.2 event.1 :=
      List.foldl_concat ..
    rw [hafter, keys_change, ih, List.map_append, List.foldl_append]
    rfl

theorem size_eq_length_keys (realm : Realm) : realm.size = realm.keys.length :=
  (List.length_map _).symm

/-- The answer to a password is the same whatever the salts, unless it has the digest of another. -/
theorem authenticate_eq_or_collision (hsame : history.map Prod.fst = history'.map Prod.fst)
    (name other : String) :
    (after history).authenticate name other = (after history').authenticate name other ∨
      ∃ password salt, (last? history name = some (.add name password, salt) ∨
        last? history' name = some (.add name password, salt)) ∧
        Collision (preimage salt other) (preimage salt password) := by
  have hlast := map_fst_last? hsame name
  by_cases hadded : ∃ password salt, last? history name = some (.add name password, salt)
  · obtain ⟨password, salt, h⟩ := hadded
    obtain ⟨salt', h'⟩ : ∃ salt', last? history' name = some (.add name password, salt') := by
      rw [h, Option.map_some, eq_comm, Option.map_eq_some_iff] at hlast
      obtain ⟨⟨c, salt'⟩, h', rfl⟩ := hlast
      exact ⟨salt', h'⟩
    by_cases hown : other = password
    · have hopens := (authenticate_eq_ok_iff h).mpr (.inl hown)
      exact .inl (hopens.trans ((authenticate_eq_ok_iff h').mpr (.inl hown)).symm)
    · rcases refused_or_collision h hown with hrefused | hcollision
      · rcases refused_or_collision h' hown with hrefused' | hcollision
        · exact .inl (hrefused.trans hrefused'.symm)
        · exact .inr ⟨password, salt', .inr h', hcollision⟩
      · exact .inr ⟨password, salt, .inl h, hcollision⟩
  · have hadded' : ¬ ∃ password salt, last? history' name = some (.add name password, salt) := by
      rintro ⟨password, salt', h'⟩
      rw [h', Option.map_some, Option.map_eq_some_iff] at hlast
      obtain ⟨⟨c, salt⟩, h, rfl⟩ := hlast
      exact hadded ⟨password, salt, h⟩
    have hrefused : (after history).authenticate name other = .error .invalidCredentials :=
      authenticate_after_of_not_added hadded
    exact .inl (hrefused.trans (authenticate_after_of_not_added hadded').symm)

/-- **A realm answers as its history says**, whatever the salts: the last change about a name decides
which password opens its account, and a password that is replaced or removed opens nothing from then
on. -/
theorem answers_by_history :
    -- an account
    (∀ history name password salt, last? history name = some (.add name password, salt) →
      (after history).authenticate name password = .ok () ∧
      ∀ other, Digest.Sha256.digest (preimage salt other) ≠
          Digest.Sha256.digest (preimage salt password) →
        (after history).authenticate name other = .error .invalidCredentials) ∧
    -- no account
    (∀ history name, (after history).hasUser name = true ↔
      ∃ password salt, last? history name = some (.add name password, salt)) ∧
    (∀ history name, (¬ ∃ password salt, last? history name = some (.add name password, salt)) →
      ∀ other, (after history).authenticate name other = .error .invalidCredentials) ∧
    -- a password that has just been replaced, and an account that has just been removed
    (∀ history name old new salt, old ≠ new →
      (after (history ++ [(.add name new, salt)])).authenticate name old =
          .error .invalidCredentials ∨
        Collision (preimage salt old) (preimage salt new)) ∧
    (∀ history name salt other,
      (after (history ++ [(.remove name, salt)])).authenticate name other =
        .error .invalidCredentials) ∧
    -- what is hashed for different passwords
    (∀ salt salt' password other, salt.length = salt'.length → other ≠ password →
      preimage salt other ≠ preimage salt' password) ∧
    -- changes about other names
    (∀ history name other, (after history).authenticate name other =
      (after (history.filter (·.1.name = name))).authenticate name other) ∧
    -- the same changes with other salts
    ∀ history history', history.map Prod.fst = history'.map Prod.fst →
      (after history).size = (after history').size ∧
      (∀ name, (after history).hasUser name = (after history').hasUser name) ∧
      ∀ name other,
        (after history).authenticate name other = (after history').authenticate name other ∨
          ∃ password salt, (last? history name = some (.add name password, salt) ∨
            last? history' name = some (.add name password, salt)) ∧
            Collision (preimage salt other) (preimage salt password) := by
  refine ⟨fun history name password salt h => ⟨?_, fun other hne => ?_⟩,
    fun history name => hasUser_after_iff,
    fun history name h other => authenticate_after_of_not_added h,
    fun history name old new salt hne => ?_, fun history name salt other => ?_,
    fun salt salt' password other => PasswordDigest.preimage_ne, fun history name other => ?_,
    fun history history' hsame => ⟨?_, fun name => ?_, authenticate_eq_or_collision hsame⟩⟩
  · exact (authenticate_eq_ok_iff h).mpr (.inl rfl)
  · rw [authenticate_after h, if_neg hne]
  · exact refused_or_collision (by rw [last?_concat]; exact if_pos rfl) hne
  · refine authenticate_after_of_not_added ?_
    rintro ⟨password, salt', h⟩
    rw [last?_concat] at h
    simp [Change.name] at h
  · exact authenticate_congr (by rw [get?_after, get?_after, last?_filter])
  · rw [size_eq_length_keys, size_eq_length_keys, keys_after, keys_after, hsame]
  · rw [hasUser_after, hasUser_after, map_fst_last? hsame]

end Realm

end CommandLink
