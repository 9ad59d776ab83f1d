import TagControl.Time
/-!
A clock that counts from its creation. It is read off a counter of microseconds that never runs
backwards; the millisecond count has 32 bits and starts again from zero after them.
-/

set_option autoImplicit false

namespace TagControl

structure Uptime where
  /-- What the counter showed at creation. -/
  created : Nat
deriving DecidableEq

namespace Uptime

/-- The instant at which the counter shows `counter`. -/
def now (clock : Uptime) (counter : Nat) : Instant :=
  counter - clock.created

def millis (clock : Uptime) (counter : Nat) : UInt32 :=
  .ofNat (clock.now counter / 1000)

end Uptime

end TagControl
