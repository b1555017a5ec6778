import CommandLink.Time.Calendar
import CommandLink.Token.Codec

/-!
# Session tokens

A session token names a principal and the instant, in whole milliseconds, from which on it is no
longer accepted.
-/

namespace CommandLink

/-- What an accepted session token says. -/
structure SessionClaims where
  principal : String
  expires : Instant
  deriving DecidableEq, Repr

/-- Issues session tokens of one lifetime, and accepts them. -/
structure SessionTokens where
  codec : TokenCodec
  lifetime : Duration

namespace SessionTokens

/-- The longest lifetime that can be added to an instant: as many milliseconds as a signed 64-bit
word holds. -/
def longestLifetime : Duration := Duration.millis 9223372036854775807

/-- A token for a principal, issued at the given instant. -/
def issueAt (sessions : SessionTokens) (principal : String) (now : Instant) :
    Except TokenError String :=
  if longestLifetime < sessions.lifetime then .error (.malformed .lifetimeOutOfRange)
  else
    let expires := now.add sessions.lifetime
    if expires.onCalendar then
      sessions.codec.encode [principal, Text.decimal expires.toMillis]
    else .error (.malformed .pastCalendar)

/-- What a token says, if it is accepted at the given instant. -/
def verifyAt (sessions : SessionTokens) (token : String) (now : Instant) :
    Except TokenError SessionClaims := do
  match ← sessions.codec.decode token 2 with
  | [principal, field] =>
    let expiry ← parseExpiry field
    if expiry = unboundedExpiry then throw (.malformed .withoutExpiry)
    let expires := Instant.ofMillis expiry
    if ¬ expires.onCalendar then throw (.malformed (.expiryOutOfRange expiry))
    if expires ≤ now then throw .expired
    return ⟨principal, expires⟩
  | fields => throw (.malformed (.fieldCount 3 (fields.length + 1)))

end SessionTokens

end CommandLink
