import CardLink.Number.Power

/-!
# Durations

A duration is a whole number of nanoseconds. Its text uses the greatest unit that is not more than
the duration and as many decimal places as it needs.
-/

namespace CardLink

/-- A span of time. -/
structure Duration where
  nanos : Nat
deriving DecidableEq, Repr

namespace Duration

def ofMillis (ms : Nat) : Duration := ⟨ms * 1000000⟩

/-- Seconds and nanoseconds together. -/
def ofParts (secs nanos : Nat) : Duration := ⟨secs * 1000000000 + nanos⟩

/-- Whole milliseconds, the rest dropped. -/
def millis (d : Duration) : Nat := d.nanos / 1000000

/-- The digits after the point of a fraction of `10 ^ places`, without zeros at the end. -/
def fractionDigits (places fraction : Nat) : List Char :=
  let ds := Nat.toDigits 10 fraction
  let padded := List.replicate (places - ds.length) '0' ++ ds
  (padded.reverse.dropWhile (· == '0')).reverse

/-- A count of units of `10 ^ places` nanoseconds. -/
def inUnit (nanos places : Nat) (unit : String) : String :=
  let whole := toString (nanos / Number.tenTo places)
  match fractionDigits places (nanos % Number.tenTo places) with
  | [] => whole ++ unit
  | ds => whole ++ "." ++ String.ofList ds ++ unit

/-- The text of a duration. -/
def describe (d : Duration) : String :=
  if Number.tenTo 9 ≤ d.nanos then inUnit d.nanos 9 "s"
  else if Number.tenTo 6 ≤ d.nanos then inUnit d.nanos 6 "ms"
  else if Number.tenTo 3 ≤ d.nanos then inUnit d.nanos 3 "µs"
  else inUnit d.nanos 0 "ns"

example : (ofMillis 1500).describe = "1.5s" := by decide
example : (Duration.mk 1050).describe = "1.05µs" := by decide
example : (Duration.mk 0).describe = "0ns" := by decide

end Duration

end CardLink
