namespace RunLog

/-- A point in UTC time; the nanosecond part reaches past a second only inside a leap second. -/
structure Instant where
  /-- Whole seconds since 1970-01-01T00:00:00Z, negative before it. -/
  seconds : Int
  /-- Nanoseconds after the whole second. -/
  nanos : Nat
  seconds_ge : -8334601228800 ≤ seconds := by omega
  seconds_le : seconds ≤ 8210266876799 := by omega
  nanos_lt : nanos < 2000000000 := by omega
  leap_only : 1000000000 ≤ nanos → seconds % 60 = 59 := by omega
deriving DecidableEq

namespace Instant

def nanosPerSecond : Nat := 1000000000

def secondsPerDay : Int := 86400

/-- The instant with the given parts, when the calendar has one. -/
def ofParts? (seconds : Int) (nanos : Nat) : Option Instant :=
  if h : (-8334601228800 ≤ seconds ∧ seconds ≤ 8210266876799) ∧ nanos < 2000000000 ∧
      (1000000000 ≤ nanos → seconds % 60 = 59) then
    some ⟨seconds, nanos, h.1.1, h.1.2, h.2.1, h.2.2⟩
  else
    none

/-- Nanoseconds since 1970, clamped to what 64 bits hold. -/
def epochNanos (t : Instant) : Nat :=
  if t.seconds < 0 then 0 else min (t.seconds.toNat * nanosPerSecond + t.nanos) 18446744073709551615

theorem epochNanos_lt (t : Instant) : t.epochNanos < 18446744073709551616 := by
  unfold epochNanos
  split <;> omega

/-- The instant that lies the given number of nanoseconds after 1970 began. -/
def ofEpochNanos (n : Nat) (h : n < 18446744073709551616) : Instant where
  seconds := (n / 1000000000 : Nat)
  nanos := n % 1000000000

/-- Milliseconds since 1970; a leap second counts past its own second. -/
def epochMillis (t : Instant) : Int := t.seconds * 1000 + (t.nanos / 1000000 : Nat)

/-- One day later: a leap second yields to the second it extends. -/
def nextDay? (t : Instant) : Option Instant :=
  ofParts? (t.seconds + secondsPerDay) (t.nanos % nanosPerSecond)

/-- One day earlier: a leap second yields to the second that follows it. -/
def previousDay? (t : Instant) : Option Instant :=
  ofParts? (t.seconds + (t.nanos / nanosPerSecond : Nat) - secondsPerDay) (t.nanos % nanosPerSecond)

end Instant

end RunLog
