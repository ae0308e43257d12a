import EventMixing.Double.Layout
import EventMixing.Double.Nearest

/-!
# Run times

A run time is a number of nanoseconds and is shown in seconds with two places.
-/

namespace EventMixing

structure Duration where
  nanoseconds : Nat
deriving DecidableEq, Repr

namespace Duration

def ofMilliseconds (ms : Nat) : Duration := ⟨ms * 1000000⟩

/-- The seconds as a double: the whole ones plus the rounded fraction, rounded. -/
def seconds (d : Duration) : Double :=
  (Double.ofNat (d.nanoseconds / 1000000000)).add
    ((Double.ofNat (d.nanoseconds % 1000000000)).div (Double.ofNat 1000000000))

/-- Seconds with two places and their unit. -/
def text (d : Duration) : String := d.seconds.fixed 2 ++ "s"

end Duration

end EventMixing
