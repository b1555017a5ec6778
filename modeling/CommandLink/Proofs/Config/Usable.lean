import CommandLink.Proofs.Auth.Accounts
import CommandLink.Proofs.Token.Environment
import CommandLink.Proofs.Token.Session
import CommandLink.Server.Startup

/-!
# Usable configurations

Whatever its environment holds, a server gets a configuration with which it can work: its numbers are
within their bounds (`ServerConfig.load_bounded`), and each account of its list can be used
(`ServerConfig.load_usable`). The name of an account is not empty and holds no colon, since it ends at
the first colon of its entry, so a session token can say it; and the lifetime of a session is at most a
year, so no token is refused for want of a date until the last year of the calendar. A name that is
listed more than once has the password that is listed last.

A list is made of its entries with commas between them (`UserSeed.listing`), and it is trimmed as a
whole before it is split and entry by entry afterwards. Neither takes anything from an account whose
name does not begin with white space and whose password does not end with it
(`UserSeed.Listable.parse?_entry`), so all such accounts are read back (`UserSeed.parseUsers_listing`).
-/

namespace CommandLink

/-! ## Lists of accounts -/

/-- A text ends with white space. -/
def Text.EndsBlank (s : String) : Prop := ∃ c, s.toList.getLast? = some c ∧ isBlank c = true

namespace UserSeed

/-- An account that can stand in a list. -/
structure Listable (user : UserSeed) : Prop where
  name_ne : user.name ≠ ""
  comma_not_mem_name : ',' ∉ user.name.toList
  colon_not_mem_name : ':' ∉ user.name.toList
  name_begins : ¬ Text.BeginsBlank user.name
  comma_not_mem_password : ',' ∉ user.password.toList
  password_ends : ¬ Text.EndsBlank user.password

/-- The entry of an account. -/
def entry (user : UserSeed) : String := user.name ++ ":" ++ user.password

/-- The list of some accounts. -/
def listing (users : List UserSeed) : String := ",".intercalate (users.map entry)

variable {user : UserSeed} {users : List UserSeed} {c : Char}

theorem toList_entry (user : UserSeed) :
    user.entry.toList = user.name.toList ++ ':' :: user.password.toList := by
  simp [entry]

theorem entry_ne_nil (user : UserSeed) : user.entry.toList ≠ [] := by
  simp [toList_entry]

theorem toList_listing (users : List UserSeed) :
    (listing users).toList = [','].intercalate (users.map fun user => user.entry.toList) := by
  simp [listing, Function.comp_def]

namespace Listable

theorem toList_name_ne (h : user.Listable) : user.name.toList ≠ [] := fun hnil =>
  h.name_ne (String.toList_eq_nil_iff.mp hnil)

/-- The entry begins as the name does. -/
theorem isBlank_of_head? (h : user.Listable) (hc : user.entry.toList.head? = some c) :
    Text.isBlank c = false := by
  rw [toList_entry, List.head?_append,
    Option.or_of_isSome (List.isSome_head?.mpr h.toList_name_ne)] at hc
  exact Bool.eq_false_iff.mpr fun hblank => h.name_begins ⟨c, hc, hblank⟩

/-- The entry ends as the password does, or in the colon where there is no password. -/
theorem isBlank_of_getLast? (h : user.Listable) (hc : user.entry.toList.getLast? = some c) :
    Text.isBlank c = false := by
  rw [toList_entry, List.getLast?_append, List.getLast?_cons] at hc
  rcases hpassword : user.password.toList.getLast? with _ | d
  · rw [hpassword] at hc
    cases hc
    decide
  · rw [hpassword] at hc
    cases hc
    exact Bool.eq_false_iff.mpr fun hblank => h.password_ends ⟨d, hpassword, hblank⟩

theorem comma_not_mem_entry (h : user.Listable) : ',' ∉ user.entry.toList := by
  rw [toList_entry, List.mem_append, List.mem_cons, not_or, not_or]
  exact ⟨h.comma_not_mem_name, by decide, h.comma_not_mem_password⟩

/-- **An entry is read back**: nothing is trimmed from it, and its first colon is the one between the
name and the password. -/
theorem parse?_entry (h : user.Listable) : parse? user.entry.toList = some user := by
  have htrim : Text.trimChars user.entry.toList = user.entry.toList :=
    Text.trimChars_eq_self (fun _ => h.isBlank_of_head?) fun _ => h.isBlank_of_getLast?
  obtain ⟨c, cs, hname⟩ := List.exists_cons_of_ne_nil h.toList_name_ne
  rw [parse?, htrim, toList_entry, Text.splitOnce_append h.colon_not_mem_name, hname]
  show some (UserSeed.mk (String.ofList (c :: cs)) (String.ofList user.password.toList)) = some user
  rw [← hname, String.ofList_toList, String.ofList_toList]

end Listable

/-- Nothing is trimmed from a list. -/
theorem trim_listing (hall : ∀ user ∈ users, user.Listable) :
    Text.trim (listing users) = listing users := by
  rw [← String.toList_inj, Text.toList_trim]
  refine Text.trimChars_eq_self (fun c hc => ?_) fun c hc => ?_
  -- entries are not empty, so the list begins with the first of them and ends with the last
  · rcases users with _ | ⟨first, users⟩
    · cases hc
    · rw [toList_listing, List.map_cons, Text.head?_intercalate first.entry_ne_nil] at hc
      exact (hall first List.mem_cons_self).isBlank_of_head? hc
  · rcases users.eq_nil_or_concat' with rfl | ⟨users, last, rfl⟩
    · cases hc
    · rw [toList_listing, List.map_append, List.map_singleton,
        Text.getLast?_intercalate last.entry_ne_nil] at hc
      exact (hall last (by simp)).isBlank_of_getLast? hc

theorem parseUsers_empty : parseUsers "" = [] := by
  simp [parseUsers, parse?, Text.splitOn, Text.trimChars, Text.splitOnce]

/-- **A list is read back**, entry by entry. -/
theorem parseUsers_listing (hall : ∀ user ∈ users, user.Listable) :
    parseUsers (listing users) = users := by
  by_cases hne : users = []
  · rw [hne]
    exact parseUsers_empty
  · have hsplit : Text.splitOn ',' (listing users).toList =
        users.map fun user => user.entry.toList := by
      rw [toList_listing]
      refine Text.splitOn_intercalate (by simpa using hne) fun piece hpiece => ?_
      obtain ⟨user, huser, rfl⟩ := List.mem_map.mp hpiece
      exact (hall user huser).comma_not_mem_entry
    have hread : ∀ user ∈ users, (parse? ∘ fun user => user.entry.toList) user = some user := by
      intro user huser
      rw [Function.comp_apply]
      exact (hall user huser).parse?_entry
    rw [parseUsers, hsplit, List.filterMap_map, List.filterMap_congr hread, List.filterMap_some]

/-- A program can be started with a list of accounts that hold no NUL. -/
theorem exists_ofEntries?_listing
    (hnul : ∀ user ∈ users, '\x00' ∉ user.name.toList ∧ '\x00' ∉ user.password.toList) :
    ∃ env, Environment.ofEntries? [("RELAY_USERS", listing users)] = some env ∧
      env.text? "RELAY_USERS" = some (listing users) := by
  have hlist : '\x00' ∉ (listing users).toList := fun hmem => by
    rw [toList_listing] at hmem
    rcases Text.mem_of_mem_intercalate hmem with hcomma | ⟨piece, hpiece, hmem⟩
    · exact absurd hcomma (by decide)
    · obtain ⟨user, huser, rfl⟩ := List.mem_map.mp hpiece
      rw [toList_entry, List.mem_append, List.mem_cons] at hmem
      rcases hmem with hname | hcolon | hpassword
      · exact (hnul user huser).1 hname
      · exact absurd hcolon (by decide)
      · exact (hnul user huser).2 hpassword
  refine ⟨_, if_pos (by simpa using hlist), ?_⟩
  rw [Environment.text?]
  simp [Table.ofList, Text.Utf8.toString?_ofString]

/-- An account that is read has a name, which ends at the first colon of its entry. -/
theorem name_of_parse? {cs : List Char} (h : parse? cs = some user) :
    user.name ≠ "" ∧ ':' ∉ user.name.toList := by
  rw [parse?] at h
  rcases hsplit : Text.splitOnce ':' (Text.trimChars cs) with _ | ⟨_ | ⟨c, name⟩, password⟩
  all_goals rw [hsplit] at h
  · cases h
  · cases h
  · obtain rfl : UserSeed.mk (String.ofList (c :: name)) (String.ofList password) = user :=
      Option.some.inj h
    refine ⟨fun hempty => ?_, ?_⟩
    · have hnil := congrArg String.toList hempty
      rw [String.toList_ofList] at hnil
      cases hnil
    · rw [String.toList_ofList]
      exact (Text.eq_append_of_splitOnce hsplit).2

end UserSeed

namespace ServerConfig

variable {env : Environment} {user : UserSeed} {users : List UserSeed}

/-! ## What an environment gives -/

theorem users_load_of_text? {list : String} (h : env.text? "RELAY_USERS" = some list) :
    (load env).users = parseUsers (Text.trim list) := by
  show ((env.trimmed? "RELAY_USERS").map parseUsers).getD [] = _
  rw [Environment.trimmed?, h, Option.map_some, Option.filter_some]
  by_cases hempty : Text.trim list = ""
  · rw [if_neg (by simpa using hempty), hempty, UserSeed.parseUsers_empty]
    rfl
  · rw [if_pos (by simpa using hempty), Option.map_some, Option.getD_some]

theorem users_load_of_not_text? (h : env.text? "RELAY_USERS" = none) : (load env).users = [] := by
  show ((env.trimmed? "RELAY_USERS").map parseUsers).getD [] = _
  rw [Environment.trimmed?, h]
  rfl

theorem name_of_mem_users (h : user ∈ (load env).users) :
    user.name ≠ "" ∧ ':' ∉ user.name.toList := by
  rcases htext : env.text? "RELAY_USERS" with _ | list
  · rw [users_load_of_not_text? htext] at h
    cases h
  · rw [users_load_of_text? htext] at h
    obtain ⟨cs, -, hcs⟩ := List.mem_filterMap.mp h
    exact UserSeed.name_of_parse? hcs

/-- Accounts that can stand in a list come back from it. -/
theorem users_load_listing (hall : ∀ user ∈ users, user.Listable)
    (h : env.text? "RELAY_USERS" = some (UserSeed.listing users)) : (load env).users = users := by
  rw [users_load_of_text? h, UserSeed.trim_listing hall, UserSeed.parseUsers_listing hall]

/-- The numbers with which a server can work. -/
structure Bounded (config : ServerConfig) : Prop where
  sessionSeconds_pos : 1 ≤ config.sessionSeconds
  sessionSeconds_le : config.sessionSeconds ≤ 365 * 24 * 60 * 60
  maxConnections_pos : 1 ≤ config.maxConnections
  shutdownSeconds_pos : 1 ≤ config.shutdownSeconds
  heartbeatSeconds_pos : 1 ≤ config.channel.heartbeatSeconds
  frameLimit_ge : 4096 ≤ config.channel.frameLimit

theorem load_bounded (env : Environment) : (load env).Bounded where
  sessionSeconds_pos := le_min (by decide) (le_max_left _ _)
  sessionSeconds_le := min_le_left _ _
  maxConnections_pos := le_max_left _ _
  shutdownSeconds_pos := le_max_left _ _
  heartbeatSeconds_pos := le_max_left _ _
  frameLimit_ge := le_max_left _ _

end ServerConfig

/-! ## Sessions until the last year of the calendar -/

namespace Instant

variable {t : Instant} {d e : Duration}

theorem seconds_le_add (t : Instant) (d : Duration) : t.seconds ≤ (t.add d).seconds := by
  rw [add]
  split_ifs
  · exact Int.le_refl _
  · exact Int.le_add_of_nonneg_right (Int.natCast_nonneg _)
  · exact Int.le_add_of_nonneg_right (Int.natCast_nonneg _)

/-- What is longer leads as far, also from a leap second. -/
theorem seconds_add_le (h : d ≤ e) : (t.add d).seconds ≤ (t.add e).seconds := by
  by_cases hleap : 1000000000 ≤ t.nanos ∧ t.nanos + d < 2000000000
  · rw [add, if_pos hleap]
    exact seconds_le_add t e
  · -- what is longer does not end in the leap second either
    have hleap' : ¬ (1000000000 ≤ t.nanos ∧ t.nanos + e < 2000000000) := fun hshort =>
      hleap ⟨hshort.1, (Nat.add_le_add_left h _).trans_lt hshort.2⟩
    rw [add, if_neg hleap, add, if_neg hleap']
    exact Int.add_le_add_left (Int.ofNat_le.mpr (Nat.div_le_div_right (Nat.add_le_add_left h _))) _

/-- What is shorter than something that ends within the calendar does so, too. -/
theorem onCalendar_add_of_le (ht : t.onCalendar = true) (h : d ≤ e)
    (he : (t.add e).onCalendar = true) : (t.add d).onCalendar = true := by
  simp only [onCalendar, Bool.and_eq_true, decide_eq_true_eq] at ht he ⊢
  exact ⟨ht.1.trans (seconds_le_add t d), (seconds_add_le h).trans he.2⟩

end Instant

/-- A session of at most a year can be begun until the last year of the calendar. -/
theorem SessionTokens.exists_issueAt_of_year {sessions : SessionTokens} {name : String} {now : Instant}
    (hname : ':' ∉ name.toList)
    (hyear : sessions.lifetime ≤ Duration.seconds (365 * 24 * 60 * 60)) (hnow : now.onCalendar = true)
    (hleft : (now.add (Duration.seconds (365 * 24 * 60 * 60))).onCalendar = true) :
    ∃ token, sessions.issueAt name now = .ok token := by
  have hlongest : Duration.seconds (365 * 24 * 60 * 60) ≤ longestLifetime := by decide
  exact exists_issueAt hname (hyear.trans hlongest) (Instant.onCalendar_add_of_le hnow hyear hleft)

/-! ## Accounts of a list in a realm -/

namespace Server

open Digest.Sha256 (Collision)
open PasswordDigest (preimage)

variable {users : List UserSeed}

/-- The last account of a list that has this name, with its position. -/
def lastListed? (users : List UserSeed) (name : String) : Option (UserSeed × Nat) :=
  (users.zipIdx.filter (·.1.name = name)).getLast?

/-- What is done to the accounts when a server starts. -/
def seeding (salt : Nat → Bytes) (users : List UserSeed) : List (Realm.Change × Bytes) :=
  users.zipIdx.map fun u => (.add u.1.name u.1.password, salt u.2)

theorem seededRealm_eq_after (salt : Nat → Bytes) (users : List UserSeed) :
    seededRealm salt users = Realm.after (seeding salt users) := by
  rw [seededRealm, Realm.after, seeding, List.foldl_map]
  rfl

theorem last?_seeding (salt : Nat → Bytes) (users : List UserSeed) (name : String) :
    Realm.last? (seeding salt users) name =
      (lastListed? users name).map fun u => (.add u.1.name u.1.password, salt u.2) := by
  rw [Realm.last?, seeding, List.filter_map, List.getLast?_map]
  rfl

/-- Every name of a list is listed last somewhere. -/
theorem exists_lastListed? {user : UserSeed} (h : user ∈ users) :
    ∃ last i, lastListed? users user.name = some (last, i) := by
  rcases hlast : lastListed? users user.name with _ | ⟨last, i⟩
  · rw [lastListed?, List.getLast?_eq_none_iff, List.filter_eq_nil_iff] at hlast
    obtain ⟨i, hi, rfl⟩ := List.mem_iff_getElem.mp h
    have hmem : (users[i], i) ∈ users.zipIdx :=
      List.mem_zipIdx_iff_getElem?.mpr (List.getElem?_eq_getElem hi)
    exact absurd (decide_eq_true rfl) (hlast _ hmem)
  · exact ⟨last, i, rfl⟩

/-- **Which passwords open the accounts of a list**: the one that is listed last for the name, and
those that have the same digest. -/
theorem seededRealm_authenticate_iff (salt : Nat → Bytes) (users : List UserSeed)
    (name other : String) : (seededRealm salt users).authenticate name other = .ok () ↔
      ∃ last i, lastListed? users name = some (last, i) ∧
        (other = last.password ∨
          Collision (preimage (salt i) other) (preimage (salt i) last.password)) := by
  have hlast := last?_seeding salt users name
  rw [seededRealm_eq_after]
  rcases hlisted : lastListed? users name with _ | ⟨last, i⟩
  · rw [hlisted] at hlast
    rw [Realm.authenticate_after_of_not_added (by simp [hlast])]
    simp
  · rw [hlisted, Option.map_some] at hlast
    obtain rfl : last.name = name := Realm.name_of_last? hlast
    rw [Realm.authenticate_eq_ok_iff hlast]
    simp

end Server

/-- **Every environment gives a usable configuration**: its numbers are within their bounds, its
accounts have names for which sessions can be begun, and each of them has the password that is listed
last. Accounts that can stand in a list come back from it as they are. -/
theorem ServerConfig.load_usable :
    (∀ env, (load env).Bounded) ∧
    -- accounts
    (∀ env, ∀ user ∈ (load env).users, user.name ≠ "" ∧ ':' ∉ user.name.toList) ∧
    (∀ (ρ : Type) (env : Environment) (madeUp : SecretKey) (salt : ℕ → Bytes)
      (commands : Server.Registry ρ),
      let server := Server.configured (load env) madeUp salt commands
      (∀ name password, server.realm.authenticate name password = .ok () ↔
        ∃ last i, Server.lastListed? (load env).users name = some (last, i) ∧
          (password = last.password ∨ Digest.Sha256.Collision
            (PasswordDigest.preimage (salt i) password)
            (PasswordDigest.preimage (salt i) last.password))) ∧
      ∀ user ∈ (load env).users,
        (∃ last i, Server.lastListed? (load env).users user.name = some (last, i) ∧
          server.realm.authenticate user.name last.password = .ok ()) ∧
        ∀ now : Instant, now.onCalendar = true →
          (now.add (Duration.seconds (365 * 24 * 60 * 60))).onCalendar = true →
            ∃ token, server.profile.sessions.issueAt user.name now = .ok token) ∧
    -- lists
    ∀ users : List UserSeed, (∀ user ∈ users, user.Listable) →
      (∀ env, Environment.text? env "RELAY_USERS" = some (UserSeed.listing users) →
        (load env).users = users) ∧
      ((∀ user ∈ users, '\x00' ∉ user.name.toList ∧ '\x00' ∉ user.password.toList) →
        ∃ env, Environment.ofEntries? [("RELAY_USERS", UserSeed.listing users)] = some env ∧
          (load env).users = users) := by
  refine ⟨load_bounded, fun env user => name_of_mem_users,
    fun ρ env madeUp salt commands => ?_, fun users hall => ⟨fun env => users_load_listing hall,
      fun hnul => ?_⟩⟩
  · intro server
    have hopens : ∀ name password, server.realm.authenticate name password = .ok () ↔ _ :=
      Server.seededRealm_authenticate_iff salt (load env).users
    have hyear : server.profile.sessions.lifetime ≤ Duration.seconds (365 * 24 * 60 * 60) := by
      have hle := (load_bounded env).sessionSeconds_le
      show ((load env).sessionSeconds * 1000 * 1000000 : ℕ) ≤ 365 * 24 * 60 * 60 * 1000000000
      omega
    refine ⟨hopens, fun user huser => ⟨?_, fun now hnow hleft => ?_⟩⟩
    · obtain ⟨last, i, hlast⟩ := Server.exists_lastListed? huser
      exact ⟨last, i, hlast, (hopens _ _).mpr ⟨last, i, hlast, .inl rfl⟩⟩
    · exact SessionTokens.exists_issueAt_of_year (name_of_mem_users huser).2 hyear hnow hleft
  · obtain ⟨env, henv, htext⟩ := UserSeed.exists_ofEntries?_listing hnul
    exact ⟨env, henv, users_load_listing hall htext⟩

example : (ServerConfig.load (.ofList [("RELAY_USERS",
    Text.Utf8.ofString "alice:old, bob:b:c,:nobody,eve,alice:new")])).users =
      [⟨"alice", "old"⟩, ⟨"bob", "b:c"⟩, ⟨"alice", "new"⟩] := by
  decide +kernel

end CommandLink
