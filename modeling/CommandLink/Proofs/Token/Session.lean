import CommandLink.Proofs.Text.Integer
import CommandLink.Proofs.Token.Codec
import CommandLink.Token.Session

/-!
# The life of a session token

A session token that is issued now is accepted until its expiry, the instant after its lifetime
without what goes beyond whole milliseconds, and says who it was issued to; from then on it has
expired (`verifyAt_of_issueAt`).
-/

namespace CommandLink

namespace Instant

/-- An instant without what goes beyond whole milliseconds. -/
def floorMillis (t : Instant) : Instant := ⟨t.seconds, t.nanos / 1000000 * 1000000⟩

/-- An instant of a clock that counts no leap seconds, from 1970 on. -/
structure OnClock (t : Instant) : Prop where
  since1970 : 0 ≤ t.seconds
  regular : t.nanos < 1000000000

theorem nanos_add_lt {t : Instant} (h : t.nanos < 1000000000) (d : Duration) :
    (t.add d).nanos < 1000000000 := by
  rw [add_of_nanos_lt h]
  exact Nat.mod_lt _ (by omega)

theorem OnClock.add {t : Instant} (h : t.OnClock) (d : Duration) : (t.add d).OnClock := by
  refine ⟨?_, nanos_add_lt h.regular d⟩
  have hstart := h.since1970
  rw [add_of_nanos_lt h.regular]
  show 0 ≤ t.seconds + _
  omega

theorem ofMillis_toMillis {t : Instant} (h : t.nanos < 1000000000) :
    ofMillis t.toMillis = t.floorMillis := by
  have hseconds : Int.fdiv t.toMillis 1000 = t.seconds := by
    rw [toMillis, Int.fdiv_eq_ediv_of_nonneg _ (by omega)]
    omega
  have hmillis : Int.fmod t.toMillis 1000 = (t.nanos / 1000000 : ℕ) := by
    rw [toMillis, Int.fmod_eq_emod_of_nonneg _ (by omega)]
    omega
  rw [ofMillis, hseconds, hmillis, Int.toNat_natCast, floorMillis]

/-- The milliseconds of an instant with a date fit a signed 64-bit word. -/
theorem toMillis_bounds {t : Instant} (h : t.OnClock) (hc : t.onCalendar = true) :
    0 ≤ t.toMillis ∧ t.toMillis ≤ 9223372036854775807 := by
  have hstart := h.since1970
  have hregular := h.regular
  simp only [onCalendar, Bool.and_eq_true, decide_eq_true_eq] at hc
  rw [toMillis]
  omega

end Instant

namespace SessionTokens

variable {sessions : SessionTokens} {name token : String} {issued : Instant}

/-- What it takes for a token to be issued. -/
theorem issueAt_eq_ok_iff : sessions.issueAt name issued = .ok token ↔
    sessions.lifetime ≤ longestLifetime ∧ (issued.add sessions.lifetime).onCalendar = true ∧
      sessions.codec.encode [name, Text.decimal (issued.add sessions.lifetime).toMillis] =
        .ok token := by
  unfold issueAt
  split_ifs with hlong
  · simp [Nat.not_le.mpr hlong]
  · simp only
    split_ifs with hdate
    · simp [Nat.le_of_not_lt hlong, hdate]
    · simp [hdate]

theorem colon_not_mem_decimal (n : ℤ) : ':' ∉ (Text.decimal n).toList := by
  rw [Text.decimal, String.toList_ofList, Text.integerChars]
  have hdigits : ':' ∉ Text.naturalChars n.natAbs := fun h =>
    absurd (Text.isDigit_of_mem_naturalChars h) (by decide)
  split_ifs
  · simpa using hdigits
  · exact hdigits

/-- A token is issued to every name without a colon. -/
theorem exists_issueAt (hname : ':' ∉ name.toList) (hl : sessions.lifetime ≤ longestLifetime)
    (hc : (issued.add sessions.lifetime).onCalendar = true) :
    ∃ token, sessions.issueAt name issued = .ok token := by
  let fields := [name, Text.decimal (issued.add sessions.lifetime).toMillis]
  refine ⟨String.ofList (TokenCodec.join (TokenCodec.chars fields)
    (sessions.codec.sign (TokenCodec.chars fields))), issueAt_eq_ok_iff.mpr ⟨hl, hc, ?_⟩⟩
  rw [TokenCodec.encode_eq_ok_iff]
  refine ⟨by simp, fun field hfield => ?_, String.toList_ofList⟩
  simp only [List.mem_cons, List.not_mem_nil, or_false] at hfield
  rcases hfield with rfl | rfl
  · exact hname
  · exact colon_not_mem_decimal _

/-- What ends within the calendar does not last too long. -/
theorem le_longestLifetime {d : Duration} (hclock : issued.OnClock)
    (hc : (issued.add d).onCalendar = true) : d ≤ longestLifetime := by
  have hstart := hclock.since1970
  rw [Instant.add_of_nanos_lt hclock.regular] at hc
  simp only [Instant.onCalendar, Bool.and_eq_true, decide_eq_true_eq] at hc
  refine Nat.le_of_not_lt fun hlong => ?_
  rw [longestLifetime, Duration.millis] at hlong
  omega

/-- **A session token is accepted for its lifetime**, as that of the name it was issued to. -/
theorem verifyAt_of_issueAt (now : Instant) (hi : sessions.issueAt name issued = .ok token)
    (hclock : issued.OnClock) :
    sessions.verifyAt token now =
      if (issued.add sessions.lifetime).floorMillis ≤ now then .error .expired
      else .ok ⟨name, (issued.add sessions.lifetime).floorMillis⟩ := by
  obtain ⟨-, hdate, hencode⟩ := issueAt_eq_ok_iff.mp hi
  set expires := issued.add sessions.lifetime with hexpires
  have hexpires_clock : expires.OnClock := hclock.add _
  obtain ⟨hlow, hhigh⟩ := Instant.toMillis_bounds hexpires_clock hdate
  have hdecode : sessions.codec.decode token 2 = .ok [name, Text.decimal expires.toMillis] := by
    obtain ⟨-, hplain, htoken⟩ := (TokenCodec.encode_eq_ok_iff _).mp hencode
    exact (TokenCodec.decode_eq_ok_iff _).mpr ⟨rfl, hplain, htoken⟩
  have hparse : parseExpiry (Text.decimal expires.toMillis) = .ok expires.toMillis := by
    rw [parseExpiry, Text.int64?_decimal (by omega) hhigh]
  have hbounded : ¬ expires.toMillis = unboundedExpiry := by
    rw [unboundedExpiry]
    omega
  have hcalendar : expires.floorMillis.onCalendar = true := hdate
  simp only [verifyAt, hdecode, hparse, hbounded, Instant.ofMillis_toMillis hexpires_clock.regular,
    hcalendar, bind, Except.bind, pure, Except.pure, if_false, not_true_eq_false]
  split_ifs
  · rfl
  · rfl

end SessionTokens

end CommandLink
