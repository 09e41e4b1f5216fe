/-!
# Binary floating-point formats

A binary interchange format stores a sign, a biased exponent and a fraction. `Format.classify`
reads a bit pattern as a finite value `± sig · 2 ^ exp`, an infinity, or not-a-number, and
`Format.round` goes the other way: it rounds a non-negative rational to the nearest value of the
format, ties to the even significand, overflowing to infinity.

Both directions work on exact natural-number arithmetic, so reading a decimal literal and
narrowing a double to a single are correctly rounded by construction.
-/

namespace OledPanel

namespace Decimal

/-- a binary interchange format by its fraction and exponent widths -/
structure Format where
  fracBits : Nat
  expBits : Nat

/-- a finite float: `(-1) ^ neg · sig · 2 ^ exp` -/
structure Finite where
  neg : Bool
  sig : Nat
  exp : Int

/-- what a bit pattern stands for -/
inductive Kind where
  | finite (f : Finite)
  | infinite (neg : Bool)
  | notANumber

namespace Format

/-- The 32-bit single precision format -/
def single : Format := ⟨23, 8⟩

/-- The 64-bit double precision format -/
def double : Format := ⟨52, 11⟩

def bias (f : Format) : Nat := Nat.pow 2 (f.expBits - 1) - 1

def minExp (f : Format) : Int := 1 - (f.bias : Int) - f.fracBits

def topExp (f : Format) : Nat := Nat.pow 2 f.expBits - 1

def classify (f : Format) (bits : Nat) : Kind :=
  let frac := bits % Nat.pow 2 f.fracBits
  let biased := bits / Nat.pow 2 f.fracBits % Nat.pow 2 f.expBits
  let neg := bits / Nat.pow 2 (f.fracBits + f.expBits) % 2 = 1
  if biased = f.topExp then (if frac = 0 then .infinite neg else .notANumber)
  else if biased = 0 then .finite ⟨neg, frac, f.minExp⟩
  else .finite ⟨neg, frac + Nat.pow 2 f.fracBits, (biased : Int) - f.bias - f.fracBits⟩

/-- Whether the gap below a finite value is half the gap above it: true at the smallest
significand of every binade but the lowest. -/
def narrowBelow (f : Format) (v : Finite) : Bool :=
  v.sig = Nat.pow 2 f.fracBits ∧ v.exp > f.minExp

def log2Ratio (num den : Nat) : Int :=
  let l : Int := (Nat.log2 num : Int) - Nat.log2 den
  -- the estimate is exact or one too large
  let below := if l ≥ 0 then num < den * Nat.pow 2 l.toNat else num * Nat.pow 2 (-l).toNat < den
  if below then l - 1 else l

def roundHalfEven (num den : Nat) : Nat :=
  let q := num / den
  let r := num % den
  if 2 * r > den ∨ (2 * r = den ∧ q % 2 = 1) then q + 1 else q

/-- The bits of the value of the format nearest to `num / den` with the given sign. -/
def round (f : Format) (neg : Bool) (num den : Nat) : Nat :=
  let sign := if neg then Nat.pow 2 (f.fracBits + f.expBits) else 0
  if num = 0 ∨ den = 0 then sign else
  let q : Int := max (log2Ratio num den - f.fracBits) f.minExp
  let sig := if q ≥ 0 then roundHalfEven num (den * Nat.pow 2 q.toNat)
    else roundHalfEven (num * Nat.pow 2 (-q).toNat) den
  -- rounding up may carry into the next binade
  let (sig, q) := if sig ≥ Nat.pow 2 (f.fracBits + 1) then (sig / 2, q + 1) else (sig, q)
  if sig < Nat.pow 2 f.fracBits then sign + sig
  else
    let biased := q + f.bias + f.fracBits
    if biased ≥ f.topExp then sign + f.topExp * Nat.pow 2 f.fracBits
    else sign + biased.toNat * Nat.pow 2 f.fracBits + (sig - Nat.pow 2 f.fracBits)

def ofDecimal (f : Format) (neg : Bool) (digits : Nat) (exp10 : Int) : Nat :=
  if exp10 ≥ 0 then f.round neg (digits * Nat.pow 10 exp10.toNat) 1
  else f.round neg digits (Nat.pow 10 (-exp10).toNat)

end Format

/-- The double nearest to `digits · 10 ^ exp10`, with the given sign. -/
def double (neg : Bool) (digits : Nat) (exp10 : Int) : Float :=
  Float.ofBits (Format.double.ofDecimal neg digits exp10).toUInt64

/-- The single nearest to `digits · 10 ^ exp10`, with the given sign. -/
def single (neg : Bool) (digits : Nat) (exp10 : Int) : Float32 :=
  Float32.ofBits (Format.single.ofDecimal neg digits exp10).toUInt32

theorem roundHalfEven_exact (k den : Nat) (h : 0 < den) : Format.roundHalfEven (k * den) den = k := by
  unfold Format.roundHalfEven
  rw [Nat.mul_div_cancel _ h, Nat.mul_mod_left, if_neg (by omega)]

end Decimal

end OledPanel
