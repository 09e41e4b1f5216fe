import OledPanel.Decimal.Binary

/-!
# Durations

A duration is whole seconds and nanoseconds below one second. `Duration.ofSecs?` converts a
single-precision number of seconds: negative values and values of `2 ^ 64` seconds or more
(infinities and not-a-number among them) have no duration; every other value is rounded to the
nearest nanosecond, ties to even, where values below one nanosecond's worth of precision
become zero.
-/

namespace OledPanel

/-- a span of time: seconds and nanoseconds, `nanos < 10 ^ 9` -/
structure Duration where
  secs : Nat
  nanos : Nat
  deriving DecidableEq, Repr, Inhabited

namespace Duration

def zero : Duration := ⟨0, 0⟩

def nanosPerSec : Nat := 1000000000

def toNanos (d : Duration) : Nat := d.secs * nanosPerSec + d.nanos

def ofNanos (n : Nat) : Duration := ⟨n / nanosPerSec, n % nanosPerSec⟩

def ofMillis (n : Nat) : Duration := ofNanos (n * 1000000)

/-- why seconds have no duration -/
inductive SecsError where
  | negative
  | overflowOrNaN
  deriving DecidableEq, Repr

def SecsError.message : SecsError → String
  | .negative => "cannot convert float seconds to Duration: value is negative"
  | .overflowOrNaN => "cannot convert float seconds to Duration: value is either too big or NaN"

def shiftRound (n s : Nat) : Nat := Decimal.Format.roundHalfEven n (Nat.pow 2 s)

/-- Convert single-precision seconds to a duration. -/
def ofSecs? (x : Float32) : Except SecsError Duration :=
  if x < 0 then .error .negative else
  let bits := x.toBits.toNat
  let frac := bits % Nat.pow 2 23
  let mant := frac + Nat.pow 2 23
  let exp : Int := (bits / Nat.pow 2 23 % 256 : Nat) - 127
  if exp < -31 then .ok zero
  else if exp < 0 then
    -- the value is `mant · 2 ^ (exp - 23)`, below one second
    .ok ⟨0, shiftRound (nanosPerSec * mant) (23 - exp).toNat⟩
  else if exp < 23 then
    let secs := mant / Nat.pow 2 (23 - exp).toNat
    let fracPart := mant % Nat.pow 2 (23 - exp).toNat
    .ok ⟨secs, shiftRound (nanosPerSec * fracPart) (23 - exp).toNat⟩
  else if exp < 64 then .ok ⟨mant * Nat.pow 2 (exp - 23).toNat, 0⟩
  else .error .overflowOrNaN

def ofSecsOrZero (x : Float32) : Duration :=
  match ofSecs? x with
  | .ok d => d
  | .error _ => zero

end Duration

end OledPanel
