import CommandLink.Auth.Error
import CommandLink.Digest.Sha256
import CommandLink.Table
import CommandLink.Text.Utf8

/-!
# Realms

The accounts of a server. Of a password only a salted digest is kept; the salt is chosen by
whoever adds the account.
-/

namespace CommandLink

/-- What is kept of a password. -/
structure PasswordDigest where
  salt : Bytes
  digest : Bytes
  deriving DecidableEq, Repr

namespace PasswordDigest

/-- What is hashed for a password. -/
def preimage (salt : Bytes) (password : String) : Bytes := salt ++ Text.Utf8.ofString password

/-- The digest of a password under a salt. -/
def of (salt : Bytes) (password : String) : PasswordDigest :=
  ⟨salt, Digest.Sha256.digest (preimage salt password)⟩

/-- Whether a password has the digest that is kept. -/
def accepts (kept : PasswordDigest) (password : String) : Bool :=
  Bytes.agree (PasswordDigest.of kept.salt password).digest kept.digest

end PasswordDigest

/-- The accounts, by their names. -/
abbrev Realm := Table String PasswordDigest

namespace Realm

/-- Adds an account, or gives an account another password. -/
def addUser (realm : Realm) (salt : Bytes) (name password : String) : Realm :=
  realm.insert name (.of salt password)

/-- Removes an account. -/
def removeUser (realm : Realm) (name : String) : Realm := realm.erase name

/-- Whether there is an account of this name. -/
def hasUser (realm : Realm) (name : String) : Bool := realm.contains name

/-- Whether a password opens an account. -/
def authenticates (realm : Realm) (name password : String) : Bool :=
  match realm.get? name with
  | some kept => kept.accepts password
  | none => false

/-- What a name and a password come to. A name without an account and a wrong password are the same
error. -/
def authenticate (realm : Realm) (name password : String) : Except AuthError Unit :=
  match realm.get? name with
  | none => .error .invalidCredentials
  | some kept => if kept.accepts password then .ok () else .error .invalidCredentials

theorem authenticate_eq (realm : Realm) (name password : String) :
    realm.authenticate name password =
      if realm.authenticates name password then .ok () else .error .invalidCredentials := by
  rw [authenticate, authenticates]
  cases realm.get? name
  · rfl
  · rfl

end Realm

end CommandLink
