/-!
# Time

Spans and points of time, counted in nanoseconds.
-/

namespace CodeJudge

/-- A span of time, or a point of it counted from a fixed start, in nanoseconds. -/
abbrev Nanos := Nat

namespace Nanos

/-- A number of milliseconds. -/
def ofMilliseconds (n : Nat) : Nanos := n * 1000000

/-- A number of seconds. -/
def ofSeconds (n : Nat) : Nanos := n * 1000000000

/-- A span in whole milliseconds, rounded down. -/
def milliseconds (span : Nanos) : Nat := span / 1000000

/-- A span in whole seconds, rounded down. -/
def seconds (span : Nanos) : Nat := span / 1000000000

end Nanos

end CodeJudge
