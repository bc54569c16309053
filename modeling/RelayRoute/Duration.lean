import RelayRoute.Number.Digits

/-!
# Durations

A span of time in whole nanoseconds, of any length.  It is made of seconds and nanoseconds, or of
milliseconds, and taken apart in the same ways: `Duration.seconds` and `Duration.subseconds` belong
together, and `Duration.milliseconds` cuts off the fraction of the last one.

Limits of dials and the time to linger are such spans; a configuration has both of them in
milliseconds.
-/

namespace RelayRoute

/-- A span of time in whole nanoseconds.  There is no longest one; only where a span is written down
is it cut to a number of bits. -/
structure Duration where
  nanoseconds : Nat
  deriving DecidableEq

namespace Duration

/-- The span of some seconds and nanoseconds, of which there may be more than a second has. -/
def ofParts (seconds nanoseconds : Nat) : Duration :=
  ⟨seconds * 1000000000 + nanoseconds⟩

/-- The span of some milliseconds. -/
def ofMilliseconds (n : Nat) : Duration :=
  ⟨n * 1000000⟩

/-- The whole seconds of the span. -/
def seconds (d : Duration) : Nat :=
  d.nanoseconds / 1000000000

/-- The nanoseconds beyond the whole seconds. -/
def subseconds (d : Duration) : Nat :=
  d.nanoseconds % 1000000000

/-- The whole milliseconds of the span; a fraction of one is cut off. -/
def milliseconds (d : Duration) : Nat :=
  d.nanoseconds / 1000000

/-- Milliseconds are counted again as they were given. -/
theorem milliseconds_ofMilliseconds (n : Nat) : (ofMilliseconds n).milliseconds = n := by
  simp [ofMilliseconds, milliseconds]

end Duration

end RelayRoute
