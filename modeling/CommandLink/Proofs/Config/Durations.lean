import CommandLink.Channel.State
import CommandLink.Server.Startup
import Mathlib.Tactic.Common
import Mathlib.Tactic.NormNum

/-!
# Configured durations and the clock

A server that is told to stop adds the time that it may wait for its connections to the time of the
clock, and a tunneled link that is opened adds the time until its first ping. An environment may ask
for as many seconds as a 64-bit word can hold, of which the clock counts half, and neither setting is
kept within that. So exactly the settings that are too large for the time at which they are used lead
beyond the clock (`durations_fit_iff`): a server with such a timeout breaks down when it is told to
stop, and a link with such an interval is not kept alive.
-/

namespace CommandLink

namespace Environment

/-- A variable holds a number of seconds that leads beyond the clock. -/
def Overruns (env : Environment) (now : ClockTime) (name : String) : Prop :=
  ∃ n, (env.text? name).bind (Text.naturalUpTo? maxWord) = some n ∧ 2 ^ 63 ≤ now.seconds + n

/-- A setting with a default that is not too large leads beyond the clock only by what the variable
holds. -/
theorem overruns_iff (env : Environment) {now : ClockTime} (hnow : now.seconds < 2 ^ 62)
    (name : String) {default : ℕ} (hdefault : default ≤ 30) :
    now.after? (Duration.seconds (max 1 (env.number name maxWord default))) = none ↔
      env.Overruns now name := by
  rw [ClockTime.after?_eq_none_iff, ClockTime.lastSecond, Environment.number, Overruns]
  rcases (env.text? name).bind (Text.naturalUpTo? maxWord) with _ | n
  · simp only [Option.getD_none, reduceCtorEq, false_and, exists_false, iff_false]
    omega
  · simp only [Option.getD_some, Option.some.injEq, exists_eq_left']
    omega

end Environment

/-- There are no pings if the first would be due beyond the clock. -/
theorem pingPeriod_eq_zero_iff (now : ClockTime) {n : ℕ} (hn : 1 ≤ n) :
    pingPeriod now (Duration.seconds n) = 0 ↔ now.after? (Duration.seconds n) = none := by
  rw [pingPeriod]
  rcases now.after? (Duration.seconds n) with _ | due
  · simp
  · simp only [reduceCtorEq, iff_false, Duration.seconds]
    omega

/-- A tunneled link without pings has no heartbeat from the start. -/
theorem Channel.heartbeat_start_eq_stopped_iff {ω ρ : Type} (setup : ChannelSetup ω ρ) (world : ω)
    (guarded : Bool) (hkind : setup.kind = .tunneled) :
    (Channel.start setup world guarded).heartbeat = .stopped ↔ setup.heartbeat = 0 := by
  simp only [Channel.start, hkind]
  split_ifs with h
  · simp [h]
  · simp [h]

theorem Duration.millis_thousand (n : ℕ) : Duration.millis (n * 1000) = Duration.seconds n :=
  Nat.mul_assoc n 1000 1000000

namespace Server

theorem stop_eq_brokenDown_iff (config : ServerConfig) (now : ClockTime) (slots : Connections)
    (releases : List Connections.Release) : stop config now slots releases = .brokenDown ↔
      now.after? (Duration.seconds config.shutdownSeconds) = none := by
  rw [← Duration.millis_thousand, ← slots.drain_eq_none_iff now _ releases, stop]
  rcases slots.drain now (config.shutdownSeconds * 1000) releases with _ | ending
  · simp
  · simp

theorem status_eq_zero_iff_ne_brokenDown (ending : Ending) :
    ending.status = 0 ↔ ending ≠ .brokenDown := by
  cases ending
  · simp [Ending.status]
  · simp [Ending.status]

/-- **Which durations the clock can be added to**: all but those of settings that are too large for the
time at which they are used. A server with such a timeout fails when it is told to stop, and a tunneled
link with such an interval has no heartbeat. -/
theorem durations_fit_iff (env : Environment) (now : ClockTime) (hnow : now.seconds < 2 ^ 62) :
    let config := ServerConfig.load env
    let client := ClientConfig.load env
    -- waiting for connections
    (now.after? (Duration.seconds config.shutdownSeconds) = none ↔
      env.Overruns now "RELAY_SHUTDOWN_TIMEOUT") ∧
    (∀ slots releases, (stop config now slots releases).status ≠ 0 ↔
      env.Overruns now "RELAY_SHUTDOWN_TIMEOUT") ∧
    -- heartbeats of servers and of clients
    (now.after? (Duration.seconds config.channel.heartbeatSeconds) = none ↔
      env.Overruns now "RELAY_HEARTBEAT_INTERVAL") ∧
    (now.after? (Duration.seconds client.channel.heartbeatSeconds) = none ↔
      env.Overruns now "RELAY_HEARTBEAT_INTERVAL") ∧
    ∀ (channel : ChannelConfig), channel = config.channel ∨ channel = client.channel →
      ∀ (ω ρ : Type) (setup : ChannelSetup ω ρ) (world : ω) (guarded : Bool),
        setup.kind = .tunneled →
        setup.heartbeat = pingPeriod now (Duration.seconds channel.heartbeatSeconds) →
        ((Channel.start setup world guarded).heartbeat = .stopped ↔
          env.Overruns now "RELAY_HEARTBEAT_INTERVAL") := by
  intro config client
  have hwait : now.after? (Duration.seconds config.shutdownSeconds) = none ↔
      env.Overruns now "RELAY_SHUTDOWN_TIMEOUT" := env.overruns_iff hnow _ (by decide)
  have hbeat : now.after? (Duration.seconds (ChannelConfig.load env).heartbeatSeconds) = none ↔
      env.Overruns now "RELAY_HEARTBEAT_INTERVAL" := env.overruns_iff hnow _ (by decide)
  refine ⟨hwait, fun slots releases => ?_, hbeat, hbeat,
    fun channel hchannel ω ρ setup world guarded hkind hperiod => ?_⟩
  · rw [ne_eq, status_eq_zero_iff_ne_brokenDown, not_ne_iff, stop_eq_brokenDown_iff, hwait]
  · have hload : channel = ChannelConfig.load env := hchannel.elim id id
    have hpositive : 1 ≤ (ChannelConfig.load env).heartbeatSeconds := Nat.le_max_left _ _
    rw [Channel.heartbeat_start_eq_stopped_iff _ _ _ hkind, hperiod, hload,
      pingPeriod_eq_zero_iff now hpositive, hbeat]

/-- The environment of a server that may wait for its connections without end. -/
def endlessly : Environment :=
  .ofList [("RELAY_SHUTDOWN_TIMEOUT", Text.Utf8.ofString "18446744073709551615"),
    ("RELAY_HEARTBEAT_INTERVAL", Text.Utf8.ofString "18446744073709551615")]

/-- The largest numbers, on a machine that has just been started. -/
theorem durations_fit_iff_endlessly :
    let now : ClockTime := ⟨0, 0, by decide⟩
    now.seconds < 2 ^ 62 ∧ endlessly.Overruns now "RELAY_SHUTDOWN_TIMEOUT" ∧
      ∀ slots releases, (stop (.load endlessly) now slots releases).status ≠ 0 := by
  intro now
  have hnow : now.seconds < 2 ^ 62 := by decide
  have hoverruns : endlessly.Overruns now "RELAY_SHUTDOWN_TIMEOUT" :=
    ⟨18446744073709551615, by decide +kernel, by decide⟩
  exact ⟨hnow, hoverruns, fun slots releases =>
    ((durations_fit_iff endlessly now hnow).2.1 slots releases).mpr hoverruns⟩

/-- A server breaks down when it is told to stop, and neither it nor a client adds its heartbeat
interval to the clock. -/
theorem exists_duration_beyond_clock :
    ∃ (env : Environment) (now : ClockTime), 0 ≤ now.seconds ∧ now.seconds < 2 ^ 62 ∧
      now.after? (Duration.seconds (ServerConfig.load env).shutdownSeconds) = none ∧
      now.after? (Duration.seconds (ServerConfig.load env).channel.heartbeatSeconds) = none ∧
      now.after? (Duration.seconds (ClientConfig.load env).channel.heartbeatSeconds) = none ∧
      (stop (.load env) now (.empty 64) []).status = 101 :=
  ⟨endlessly, ⟨0, 0, by decide⟩, by decide +kernel⟩

end Server

end CommandLink
