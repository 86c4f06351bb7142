/-
This file holds the settings of a run. A tick must take time, and so must the
run.
-/
import LiveFleet.Random.Model
import LiveFleet.Tick.Loop

namespace LiveFleet

/-- What can be set for a run. Times are in milliseconds. -/
structure Settings where
  tickLength : Nat
  initialPace : Pace
  seed : Nat
  timeOut : Nat
  deriving DecidableEq, Repr

/-- Why settings are not accepted, read or written. -/
inductive SettingsError where
  | zeroTickLength
  | zeroTimeOut
  | unreadable
  | malformed
  | unwritable
  deriving DecidableEq, Repr

/-- The text of a settings error. -/
def SettingsError.message : SettingsError → String
  | zeroTickLength => "configuration error: tick_length_ms must be at least 1"
  | zeroTimeOut => "configuration error: time_out_ms must be at least 1"
  | unreadable => "could not read configuration"
  | malformed => "invalid configuration"
  | unwritable => "could not serialize configuration"

namespace Settings

/-- Ticks of a second at simulated pace, the usual seed, and eight hours. -/
def standard : Settings :=
  { tickLength := 1000
    initialPace := .simulated
    seed := RandomModel.defaultSeed
    timeOut := 8 * 60 * 60 * 1000 }

instance : Inhabited Settings := ⟨standard⟩

/-- Refuse settings under which a tick, or the run, takes no time. The tick is checked first. -/
def validate (settings : Settings) : Except SettingsError Unit :=
  if settings.tickLength = 0 then .error .zeroTickLength
  else if settings.timeOut = 0 then .error .zeroTimeOut
  else .ok ()

/-- How a run with these settings is divided into ticks. Their number is not bounded. -/
def ticks (settings : Settings) : TickSettings :=
  { tickLength := settings.tickLength
    initialPace := settings.initialPace
    maxTicks := none }

theorem validate_eq_ok_iff {settings : Settings} :
    settings.validate = .ok () ↔ settings.tickLength ≠ 0 ∧ settings.timeOut ≠ 0 := by
  unfold validate
  split
  · simp_all
  · split <;> simp_all

end Settings

end LiveFleet
