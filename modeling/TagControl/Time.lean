/-!
Instants and durations, counted in microseconds. An instant fits in 64 bits, so adding a duration
to one may fail; `Instant.after_eq_ok` says exactly when it succeeds and that the sum is exact, and
`Instant.after_eq_error` when it fails.
-/

set_option autoImplicit false

namespace TagControl

abbrev Instant : Type := Nat

abbrev Duration : Type := Nat

/-- The only way arithmetic on instants fails: the sum lies past the last instant. -/
inductive ClockOverflow where
  | pastLastInstant
deriving DecidableEq

def ClockOverflow.message (_ : ClockOverflow) : String :=
  "overflow when adding duration to instant"

namespace Instant

/-- One more than the last instant: 2^64. -/
def limit : Nat :=
  0x10000000000000000

def after (start : Instant) (wait : Duration) : Except ClockOverflow Instant :=
  if start + wait < limit then .ok (start + wait) else .error .pastLastInstant

theorem after_eq_ok {start : Instant} {wait : Duration} {sum : Instant} :
    after start wait = .ok sum ↔ sum = start + wait ∧ start + wait < limit := by
  unfold after
  split <;> simp_all [eq_comm]

theorem after_eq_error {start : Instant} {wait : Duration} :
    after start wait = .error .pastLastInstant ↔ limit ≤ start + wait := by
  unfold after
  split
  · next hroom => simp [hroom]
  · next hlate => simp [Nat.le_of_not_lt hlate]

end Instant

namespace Duration

def ofSeconds (seconds : Nat) : Duration :=
  seconds * 1000000

def ofMinutes (minutes : Nat) : Duration :=
  ofSeconds (minutes * 60)

/-- Whole seconds, rounded down. -/
def seconds (length : Duration) : Nat :=
  length / 1000000

/-- Whole milliseconds, rounded down. -/
def millis (length : Duration) : Nat :=
  length / 1000

end Duration

end TagControl
