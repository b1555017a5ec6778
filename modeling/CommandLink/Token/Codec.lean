import CommandLink.Digest.Sha256
import CommandLink.Text.Split
import CommandLink.Text.Utf8
import CommandLink.Token.Error

/-!
# Signed tokens

A token is a list of fields and a signature, joined by colons. The signature is the digest, in
hexadecimal, of the fields, a placeholder and a secret key, each but the key followed by a colon
(`preimage`).
-/

namespace CommandLink

/-- A secret for signing. -/
structure SecretKey where
  secret : String
  deriving DecidableEq

/-- How a key is shown: not at all. -/
def SecretKey.shown (_ : SecretKey) : String := "SecretKey(<redacted>)"

/-- Signs and checks tokens with one key. -/
structure TokenCodec where
  key : SecretKey
  deriving DecidableEq

namespace TokenCodec

/-- How a codec is shown: without its key. -/
def shown (codec : TokenCodec) : String := "TokenCodec \x7b key: " ++ codec.key.shown ++ " \x7d"

/-- The characters whose digest signs some fields. -/
def preimage (codec : TokenCodec) (fields : List (List Char)) : List Char :=
  fields.flatMap (fun field => field ++ [':']) ++ ['N', '/', 'A', ':'] ++ codec.key.secret.toList

/-- The bytes that are hashed for some fields. -/
def hashed (codec : TokenCodec) (fields : List (List Char)) : Bytes :=
  Text.Utf8.encode (codec.preimage fields)

/-- The signature of some fields: 64 hexadecimal digits. -/
def sign (codec : TokenCodec) (fields : List (List Char)) : List Char :=
  (Digest.Sha256.digest (codec.hashed fields)).toHexChars

theorem length_sign (codec : TokenCodec) (fields : List (List Char)) :
    (codec.sign fields).length = 64 := by
  rw [sign, Bytes.length_toHexChars, Digest.Sha256.length_digest]

/-- Fields and a signature, joined by colons. -/
def join (fields : List (List Char)) (signature : List Char) : List Char :=
  fields.flatMap (fun field => field ++ [':']) ++ signature

/-- The token of some fields. There has to be a field, and no field may hold a colon. -/
def encode (codec : TokenCodec) (fields : List String) : Except TokenError String :=
  if fields.isEmpty then .error (.malformed .noFields)
  else match fields.find? fun field => ':' ∈ field.toList with
    | some field => .error (.malformed (.delimiterInField field))
    | none =>
      let fields := fields.map String.toList
      .ok (String.ofList (join fields (codec.sign fields)))

/-- The fields of a token, of which there must be `count`, if it is signed by the key. The last part
of the token is compared with the signature that its other parts would have. -/
def decode (codec : TokenCodec) (token : String) (count : Nat) :
    Except TokenError (List String) :=
  let parts := Text.splitOn ':' token.toList
  if parts.length ≠ count + 1 then .error (.malformed (.fieldCount (count + 1) parts.length))
  else
    let fields := parts.dropLast
    let signature := parts.getLastD []
    if Bytes.agree (Text.Utf8.encode (codec.sign fields)) (Text.Utf8.encode signature) then
      .ok (fields.map String.ofList)
    else .error .invalidSignature

end TokenCodec

/-- The expiry that stands for none. -/
def unboundedExpiry : Int := -1

/-- The expiry that a field writes: an integer that fits a signed 64-bit word. -/
def parseExpiry (field : String) : Except TokenError Int :=
  match Text.int64? field with
  | some n => .ok n
  | none => .error (.malformed (.expiryNotInteger field))

end CommandLink
