import GraphQLClient.Binary64.Arithmetic
import GraphQLClient.Retry.Policy

/-!
Backoff: failures that pass a test are met with ever longer pauses up to a limit, and with a limited
number of further attempts. A pause is computed in double precision seconds and then rounded to
nanoseconds; with jitter it is shortened by a factor from one half to one.
-/

namespace GraphQLClient

/-- A span of time in nanoseconds. -/
structure Duration where
  nanos : Nat
  deriving DecidableEq

namespace Duration

def ofMillis (ms : Nat) : Duration := ⟨ms * 1000000⟩

/-- Whole milliseconds, what is left over being dropped. -/
def millis (d : Duration) : Nat := d.nanos / 1000000

/-- Whole milliseconds that are no shorter. -/
def millisUp (d : Duration) : Nat := (d.nanos + 999999) / 1000000

/-- Seconds in double precision: whole seconds and nanoseconds are rounded before they are added. -/
def seconds (d : Duration) : Binary64 :=
  .addMagnitudes (.ofNat (d.nanos / 1000000000))
    ((Binary64.ofNat (d.nanos % 1000000000)).div (.ofNat 1000000000))

/-- The nearest number of nanoseconds; what is negative is nothing. -/
def ofSeconds (x : Binary64) : Duration :=
  if x.isNegative then ⟨0⟩ else ⟨Binary64.nearest (x.scaled * 1000000000) Binary64.one⟩

end Duration

structure Backoff where
  /-- How many attempts may follow the first. -/
  maxRetries : UInt32 := 3
  initialDelay : Duration := .ofMillis 200
  maxDelay : Duration := .ofMillis 10000
  multiplier : Binary64 := .ofNat 2
  jitter : Bool := true
  /-- The failures that are worth another attempt. -/
  test : Failure → Bool := Failure.isRetryable

namespace Backoff

/-- The largest exponent that the multiplier is raised to. -/
def exponentLimit : Nat := 0x7FFFFFFF

/-- The pause after an attempt, before jitter. -/
def delayFor (b : Backoff) (attempt : UInt32) : Duration :=
  let secs := b.initialDelay.seconds.mul (b.multiplier.pow (min (attempt.toNat - 1) exponentLimit))
  if secs.isFinite && secs.less b.maxDelay.seconds then .ofSeconds secs else b.maxDelay

/-- A pause shortened by a factor. -/
def jittered (b : Backoff) (factor : Binary64) (d : Duration) : Duration :=
  if !b.jitter || d.nanos = 0 then d else .ofSeconds (factor.mul d.seconds)

def accepts (b : Backoff) (attempt : UInt32) (failure : Failure) : Bool :=
  attempt ≤ b.maxRetries && b.test failure

/-- Pauses before each further attempt; `factor` is what jitter draws. -/
def policy {κ σ : Type} (b : Backoff) (factor : Binary64) : RetryPolicy κ σ :=
  fun info attempt failure =>
    if b.accepts attempt failure then
      let delay := b.jittered factor (b.delayFor attempt)
      .report (.backingOff info.request.operation.name attempt delay.millis failure)
        ((Future.sleep delay.millisUp).bind fun _ => .done true)
    else .done false

end Backoff

end GraphQLClient
