set_option autoImplicit false

/-! # Waiting before another attempt

The wait before an attempt is repeated doubles from attempt to attempt up to a limit, and is
spread around that base by at most a tenth of it. Times are in nanoseconds.
-/

namespace LogEgress.Backoff

/-- The attempt from which on the wait does not grow. -/
def maxExponent : Nat := 22

/-- One millisecond. -/
def millisecond : Nat := 1000000

/-- The wait after an attempt, counted from 0, without its spread. -/
def base (attempt : Nat) : Nat :=
  if attempt = 0 then millisecond else millisecond <<< (min attempt maxExponent - 1)

/-- How far the wait may be off its base. -/
def spread (attempt : Nat) : Nat := if attempt = 0 then 0 else base attempt / 10

/-- The wait with a chosen deviation. -/
def jittered (attempt : Nat) (deviation : Int) : Int := base attempt + deviation

/-- The same wait after every attempt. -/
def constant (wait : Nat) (_attempt : Nat) : Nat := wait

/-! ## In machine words

A wait is worked out in words of fixed width. A step whose result does not fit its word gives
nothing, and then there is no wait.
-/

/-- A number as an unsigned word of so many bits. -/
def unsigned? (bits : Nat) (n : Int) : Option (BitVec bits) :=
  if 0 ≤ n ∧ n < (1 <<< bits : Nat) then some (.ofNat bits n.toNat) else none

/-- A number as a signed word of 64 bits. -/
def signed64? (n : Int) : Option Int64 :=
  if Int64.minValue.toInt ≤ n ∧ n ≤ Int64.maxValue.toInt then some (.ofInt n) else none

/-- A length of time: whole seconds, and the nanoseconds below a second. -/
structure Duration where
  seconds : UInt64
  nanos : UInt32
  deriving DecidableEq, Repr

namespace Duration

/-- All nanoseconds of a length of time. -/
def toNanos (d : Duration) : Nat := d.seconds.toNat * 1000000000 + d.nanos.toNat

/-- A number of milliseconds. -/
def ofMillis (n : UInt64) : Duration := ⟨n / 1000, (n % 1000).toUInt32 * 1000000⟩

/-- A number of nanoseconds. -/
def ofNanos (n : UInt64) : Duration := ⟨n / 1000000000, (n % 1000000000).toUInt32⟩

end Duration

/-- The wait after an attempt without its deviation. -/
def baseDelay? (attempt : UInt32) : Option Duration :=
  if attempt = 0 then some (.ofMillis 1)
  else do
    let exponent ← unsigned? 32 ((min attempt (.ofNat maxExponent)).toNat - 1)
    let millis ← unsigned? 64 (1 <<< exponent.toNat : Nat)
    return .ofMillis (.ofBitVec millis)

/-- The deviation that is drawn where it may be off by some spread. -/
def deviation? (spread draw : Int64) : Option Int64 :=
  if 0 < spread then do
    let low ← signed64? (-spread.toInt)
    -- Nothing else can be drawn.
    if low ≤ draw ∧ draw ≤ spread then some draw else none
  else some 0

/-- The wait after an attempt, where a deviation is drawn for it. -/
def delay? (attempt : UInt32) (draw : Int64) : Option Duration :=
  if attempt = 0 then some (.ofMillis 1)
  else do
    let base ← baseDelay? attempt
    let baseNanos ← signed64? base.toNanos
    let deviation ← deviation? (baseNanos / 10) draw
    let nanos ← signed64? (baseNanos.toInt + deviation.toInt)
    let word ← unsigned? 64 nanos.toInt
    return .ofNanos (.ofBitVec word)

end LogEgress.Backoff
