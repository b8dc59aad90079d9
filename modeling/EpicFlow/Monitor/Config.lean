import EpicFlow.Settings

/-!
# Polling intervals

The monitor polls a running stage every base interval; once the share of
checked requirements passes the shrink threshold, it polls the base interval
divided by the shrink factor, but never below the minimum interval and never
above the base. Durations are counted in nanoseconds; division truncates.

Main statement:

* `intervalFor_le_base`: an interval never exceeds the base interval.
-/

set_option autoImplicit false

namespace EpicFlow

/-- The polling parameters of the monitor. -/
structure MonitorConfig where
  baseInterval : Nat
  maxWait : Nat
  minInterval : Nat
  shrinkThreshold : Float
  shrinkFactor : Nat
  maxUnreachablePolls : Nat

namespace MonitorConfig

/-- Nanoseconds in a second. -/
def nanosPerSec : Nat := 1000000000

/-- The parameters of settings; factor and polls are at least one. -/
def ofSettings (m : MonitorSettings) : MonitorConfig :=
  { baseInterval := m.baseIntervalSecs * nanosPerSec, maxWait := m.maxWaitSecs * nanosPerSec
    minInterval := m.minIntervalSecs * nanosPerSec, shrinkThreshold := m.shrinkThreshold
    shrinkFactor := max m.shrinkFactor 1, maxUnreachablePolls := max m.maxUnreachablePolls 1 }

/-- The interval after seeing a share `ratio` of requirements checked. -/
def intervalFor (c : MonitorConfig) (ratio : Float) : Nat :=
  if ratio > c.shrinkThreshold then min (max (c.baseInterval / c.shrinkFactor) c.minInterval) c.baseInterval
  else c.baseInterval

theorem intervalFor_le_base (c : MonitorConfig) (r : Float) : c.intervalFor r ≤ c.baseInterval := by
  unfold intervalFor
  split
  · exact Nat.min_le_right _ _
  · exact Nat.le_refl _

end MonitorConfig

end EpicFlow
