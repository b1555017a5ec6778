import CommandLink.Proofs.Token.Session
import Mathlib.Data.List.Basic

/-!
# The validity window of session tokens

What becomes of a token depends on the time in one way only: either it is refused, for the same
reason at every time, or it is accepted until one instant and has expired from then on
(`verifyAt_cases`). For a token that has been issued this instant is the end of its lifetime without
what goes beyond whole milliseconds, except where the lifetime ends in a leap second. Leap seconds
have no timestamps of their own and share those of the seconds that follow them, so such a token is
accepted for up to a second longer (`Instant.stamped_of_leap`), or never where the calendar ends
with the leap second. All of this is `validity_window`.
-/

namespace CommandLink

namespace Instant

variable {t u v : Instant}

theorem le_trans (h : t ≤ u) (h' : u ≤ v) : t ≤ v := by
  simp only [le_iff] at h h' ⊢
  omega

/-! ## Timestamps -/

/-- The instant that the timestamp of an instant stands for, in whole milliseconds. -/
def stamped (t : Instant) : Instant := ofMillis t.toMillis

theorem stamped_of_regular (h : t.nanos < 1000000000) : t.stamped = t.floorMillis :=
  ofMillis_toMillis h

/-- The timestamp of an instant in a leap second is that of an instant in the second after it. -/
theorem stamped_of_leap (hleap : 1000000000 ≤ t.nanos) (h : t.nanos < 2000000000) :
    t.stamped = floorMillis ⟨t.seconds + 1, t.nanos - 1000000000⟩ := by
  have hregular : (⟨t.seconds + 1, t.nanos - 1000000000⟩ : Instant).nanos < 1000000000 := by
    show t.nanos - 1000000000 < 1000000000
    omega
  have hmillis : (⟨t.seconds + 1, t.nanos - 1000000000⟩ : Instant).toMillis = t.toMillis := by
    simp only [toMillis]
    omega
  rw [← stamped_of_regular hregular, stamped, stamped, hmillis]

theorem toMillis_ofMillis (n : ℤ) : (ofMillis n).toMillis = n := by
  have hsplit := Int.mul_fdiv_add_fmod n 1000
  have hmillis := Int.fmod_nonneg_of_pos n (show (0 : ℤ) < 1000 by omega)
  simp only [toMillis, ofMillis]
  omega

theorem toMillis_stamped (t : Instant) : t.stamped.toMillis = t.toMillis := toMillis_ofMillis _

theorem toMillis_floorMillis (t : Instant) : t.floorMillis.toMillis = t.toMillis := by
  simp only [toMillis, floorMillis]
  omega

/-- A sum is in a second or in the leap second after it, whatever is added to. -/
theorem nanos_add_lt_leap (t : Instant) (d : Duration) : (t.add d).nanos < 2000000000 := by
  unfold add
  split_ifs with hleap
  · exact hleap.2
  all_goals
    have hmod := Nat.mod_lt (t.nanos - 1000000000 + d) (show 0 < 1000000000 by omega)
    have hmod' := Nat.mod_lt (t.nanos + d) (show 0 < 1000000000 by omega)
    simp only
    omega

/-- The timestamps of the calendar fit a signed 64-bit word. -/
theorem toMillis_fits (h : t.nanos < 2000000000) (hc : t.onCalendar = true) :
    -9223372036854775808 ≤ t.toMillis ∧ t.toMillis ≤ 9223372036854775807 := by
  simp only [onCalendar, Bool.and_eq_true, decide_eq_true_eq] at hc
  rw [toMillis]
  omega

end Instant

/-! ## Tokens and times -/

namespace TokenCodec

/-- A token that is not read has no time to expire. -/
theorem ne_expired_of_decode {codec : TokenCodec} {token : String} {count : ℕ} {error : TokenError}
    (h : codec.decode token count = .error error) : error ≠ .expired := by
  simp only [decode] at h
  split_ifs at h
  · cases h
    simp
  · cases h
    simp

end TokenCodec

namespace SessionTokens

variable {sessions : SessionTokens} {name field token : String} {issued : Instant} {expiry : ℤ}

/-- What becomes of a token with an expiry. -/
def judged (name : String) (expiry : ℤ) (now : Instant) : Except TokenError SessionClaims :=
  if expiry = unboundedExpiry then .error (.malformed .withoutExpiry)
  else if (Instant.ofMillis expiry).onCalendar = false then
    .error (.malformed (.expiryOutOfRange expiry))
  else if Instant.ofMillis expiry ≤ now then .error .expired
  else .ok ⟨name, Instant.ofMillis expiry⟩

theorem verifyAt_of_decode (hd : sessions.codec.decode token 2 = .ok [name, field])
    (hp : parseExpiry field = .ok expiry) (now : Instant) :
    sessions.verifyAt token now = judged name expiry now := by
  simp only [verifyAt, hd, hp, bind, Except.bind, judged, Bool.not_eq_true]
  split_ifs
  all_goals rfl

/-- **The time decides on a token in one way only.** -/
theorem verifyAt_cases (sessions : SessionTokens) (token : String) :
    (∃ error, error ≠ .expired ∧ ∀ now, sessions.verifyAt token now = .error error) ∨
      ∃ claims, ∀ now, sessions.verifyAt token now =
        if claims.expires ≤ now then .error .expired else .ok claims := by
  rcases hd : sessions.codec.decode token 2 with error | fields
  · refine .inl ⟨error, TokenCodec.ne_expired_of_decode hd, fun now => ?_⟩
    simp only [verifyAt, hd, bind, Except.bind]
  · obtain ⟨hlength, -, -⟩ := (TokenCodec.decode_eq_ok_iff _).mp hd
    obtain ⟨name, field, rfl⟩ := List.length_eq_two.mp hlength
    rcases hp : Text.int64? field with _ | expiry
    · refine .inl ⟨.malformed (.expiryNotInteger field), by simp, fun now => ?_⟩
      simp only [verifyAt, hd, parseExpiry, hp, bind, Except.bind]
    · have hjudged := verifyAt_of_decode hd (show parseExpiry field = .ok expiry by
        rw [parseExpiry, hp])
      by_cases hbounded : expiry = unboundedExpiry
      · refine .inl ⟨.malformed .withoutExpiry, by simp, fun now => ?_⟩
        rw [hjudged, judged, if_pos hbounded]
      · by_cases hdate : (Instant.ofMillis expiry).onCalendar = false
        · refine .inl ⟨.malformed (.expiryOutOfRange expiry), by simp, fun now => ?_⟩
          rw [hjudged, judged, if_neg hbounded, if_pos hdate]
        · refine .inr ⟨⟨name, Instant.ofMillis expiry⟩, fun now => ?_⟩
          rw [hjudged, judged, if_neg hbounded, if_neg hdate]

/-- A token that is accepted has an expiry. -/
theorem exists_expiry_of_verifyAt {claims : SessionClaims} {now : Instant}
    (h : sessions.verifyAt token now = .ok claims) :
    ∃ field expiry, sessions.codec.decode token 2 = .ok [claims.principal, field] ∧
      parseExpiry field = .ok expiry ∧ expiry ≠ unboundedExpiry := by
  rcases hd : sessions.codec.decode token 2 with error | fields
  · simp only [verifyAt, hd, bind, Except.bind, reduceCtorEq] at h
  · obtain ⟨hlength, -, -⟩ := (TokenCodec.decode_eq_ok_iff _).mp hd
    obtain ⟨name, field, rfl⟩ := List.length_eq_two.mp hlength
    rcases hp : parseExpiry field with error | expiry
    · simp only [verifyAt, hd, hp, bind, Except.bind, reduceCtorEq] at h
    · rw [verifyAt_of_decode hd hp, judged] at h
      split_ifs at h with hbounded
      cases h
      exact ⟨field, expiry, rfl, hp, hbounded⟩

/-- What becomes of a token that has been issued, under any lifetime. -/
theorem verifyAt_issued (hi : sessions.issueAt name issued = .ok token) (lifetime : Duration)
    (now : Instant) :
    (SessionTokens.mk sessions.codec lifetime).verifyAt token now =
      judged name (issued.add sessions.lifetime).toMillis now := by
  obtain ⟨-, hdate, hencode⟩ := issueAt_eq_ok_iff.mp hi
  obtain ⟨hlow, hhigh⟩ := Instant.toMillis_fits (Instant.nanos_add_lt_leap _ _) hdate
  obtain ⟨-, hplain, htoken⟩ := (TokenCodec.encode_eq_ok_iff _).mp hencode
  have hdecode : sessions.codec.decode token 2 =
      .ok [name, Text.decimal (issued.add sessions.lifetime).toMillis] :=
    (TokenCodec.decode_eq_ok_iff _).mpr ⟨rfl, hplain, htoken⟩
  apply verifyAt_of_decode hdecode
  rw [parseExpiry, Text.int64?_decimal hlow hhigh]

/-- A token is accepted until an instant, as that of a name, and has expired from then on. -/
def AcceptedUntil (sessions : SessionTokens) (name token : String) (expires : Instant) : Prop :=
  ∀ lifetime now, (SessionTokens.mk sessions.codec lifetime).verifyAt token now =
    if expires ≤ now then .error .expired else .ok ⟨name, expires⟩

/-- A token is refused at every time, for the same reason. -/
def Refuses (sessions : SessionTokens) (token : String) (cause : Malformation) : Prop :=
  ∀ lifetime now, (SessionTokens.mk sessions.codec lifetime).verifyAt token now =
    .error (.malformed cause)

theorem acceptedUntil_stamped (hi : sessions.issueAt name issued = .ok token)
    (hbounded : (issued.add sessions.lifetime).toMillis ≠ unboundedExpiry)
    (hdate : (issued.add sessions.lifetime).stamped.onCalendar = true) :
    sessions.AcceptedUntil name token (issued.add sessions.lifetime).stamped := by
  intro lifetime now
  have hdate' : ¬ (Instant.ofMillis (issued.add sessions.lifetime).toMillis).onCalendar = false :=
    ne_false_of_eq_true hdate
  rw [verifyAt_issued hi, judged, if_neg hbounded, if_neg hdate', Instant.stamped]

theorem refuses_withoutExpiry (hi : sessions.issueAt name issued = .ok token)
    (hbounded : (issued.add sessions.lifetime).toMillis = unboundedExpiry) :
    sessions.Refuses token .withoutExpiry := by
  intro lifetime now
  rw [verifyAt_issued hi, judged, if_pos hbounded]

theorem refuses_expiryOutOfRange (hi : sessions.issueAt name issued = .ok token)
    (hbounded : (issued.add sessions.lifetime).toMillis ≠ unboundedExpiry)
    (hdate : (issued.add sessions.lifetime).stamped.onCalendar = false) :
    sessions.Refuses token (.expiryOutOfRange (issued.add sessions.lifetime).toMillis) := by
  intro lifetime now
  rw [Instant.stamped] at hdate
  rw [verifyAt_issued hi, judged, if_neg hbounded, if_pos hdate]

/-- **The validity window.** A token that has been issued is accepted for its lifetime without what
goes beyond whole milliseconds, and has expired from then on. Where the lifetime ends in a leap
second the token is accepted until the same part of the second after it, if that is on the calendar.
The time decides on any other token in the same way, or not at all, and a token that is not accepted
at some time is not accepted later. -/
theorem validity_window (sessions : SessionTokens) :
    (∀ name issued token, sessions.issueAt name issued = .ok token →
      let ends := issued.add sessions.lifetime
      let behind := Instant.floorMillis ⟨ends.seconds + 1, ends.nanos - 1000000000⟩
      (ends.nanos < 1000000000 →
        (ends.floorMillis.toMillis ≠ unboundedExpiry →
          sessions.AcceptedUntil name token ends.floorMillis) ∧
        (ends.floorMillis.toMillis = unboundedExpiry → sessions.Refuses token .withoutExpiry)) ∧
      (1000000000 ≤ ends.nanos →
        (behind.toMillis ≠ unboundedExpiry → behind.onCalendar = true →
          sessions.AcceptedUntil name token behind) ∧
        (behind.toMillis ≠ unboundedExpiry → behind.onCalendar = false →
          sessions.Refuses token (.expiryOutOfRange behind.toMillis)) ∧
        (behind.toMillis = unboundedExpiry → sessions.Refuses token .withoutExpiry))) ∧
    (∀ token,
      (∃ error, error ≠ .expired ∧ ∀ now, sessions.verifyAt token now = .error error) ∨
        ∃ claims, ∀ now, sessions.verifyAt token now =
          if claims.expires ≤ now then .error .expired else .ok claims) ∧
    ∀ token earlier later error, earlier ≤ later →
      sessions.verifyAt token earlier = .error error →
      ∃ error', sessions.verifyAt token later = .error error' := by
  refine ⟨fun name issued token hi => ?_, verifyAt_cases sessions, fun token earlier later error => ?_⟩
  · intro ends behind
    have hdate := (issueAt_eq_ok_iff.mp hi).2.1
    have hleap := Instant.nanos_add_lt_leap issued sessions.lifetime
    constructor
    · intro hregular
      have hstamped : ends.stamped = ends.floorMillis := Instant.stamped_of_regular hregular
      rw [Instant.toMillis_floorMillis, ← hstamped]
      exact ⟨fun hbounded => acceptedUntil_stamped hi hbounded (hstamped ▸ hdate),
        refuses_withoutExpiry hi⟩
    · intro hin
      have hstamped : ends.stamped = behind := Instant.stamped_of_leap hin hleap
      rw [← hstamped, Instant.toMillis_stamped]
      exact ⟨acceptedUntil_stamped hi, refuses_expiryOutOfRange hi, refuses_withoutExpiry hi⟩
  · intro horder hrefused
    rcases verifyAt_cases sessions token with ⟨error', -, hall⟩ | ⟨claims, hall⟩
    · exact ⟨error', hall later⟩
    · rw [hall] at hrefused
      split_ifs at hrefused with hexpired
      exact ⟨.expired, by rw [hall, if_pos (Instant.le_trans hexpired horder)]⟩

/-- Tokens that expire when they are issued. -/
def momentary : SessionTokens := ⟨⟨⟨"k"⟩⟩, 0⟩

/-- A token that expires in a leap second is accepted when it has expired, and one that expires in a
leap second at the end of the calendar is never accepted. -/
theorem accepted_in_leapSecond :
    (∃ token, momentary.issueAt "a" ⟨59, 1500000000⟩ = .ok token ∧
      (Instant.add ⟨59, 1500000000⟩ momentary.lifetime).floorMillis = ⟨59, 1500000000⟩ ∧
      Instant.toMillis ⟨59, 1500000000⟩ ≠ unboundedExpiry ∧
      momentary.verifyAt token ⟨59, 1500000000⟩ = .ok ⟨"a", ⟨60, 500000000⟩⟩) ∧
    ∃ token, momentary.issueAt "a" ⟨8210266876799, 1999999999⟩ = .ok token ∧
      (Instant.add ⟨8210266876799, 1999999999⟩ momentary.lifetime).floorMillis =
        ⟨8210266876799, 1999000000⟩ ∧
      Instant.toMillis ⟨8210266876799, 1999000000⟩ ≠ unboundedExpiry ∧
      ¬ (⟨8210266876799, 1999000000⟩ : Instant) ≤ ⟨0, 0⟩ ∧
      momentary.verifyAt token ⟨0, 0⟩ =
        .error (.malformed (.expiryOutOfRange 8210266876800999)) := by
  constructor
  · obtain ⟨token, hi⟩ : ∃ token, momentary.issueAt "a" ⟨59, 1500000000⟩ = .ok token :=
      exists_issueAt (by decide) (by decide) (by decide)
    refine ⟨token, hi, by decide, by decide, ?_⟩
    rw [show momentary = ⟨momentary.codec, 0⟩ from rfl, verifyAt_issued hi]
    decide
  · obtain ⟨token, hi⟩ :
        ∃ token, momentary.issueAt "a" ⟨8210266876799, 1999999999⟩ = .ok token :=
      exists_issueAt (by decide) (by decide) (by decide)
    refine ⟨token, hi, by decide, by decide, by decide, ?_⟩
    rw [show momentary = ⟨momentary.codec, 0⟩ from rfl, verifyAt_issued hi]
    decide

end SessionTokens

end CommandLink
