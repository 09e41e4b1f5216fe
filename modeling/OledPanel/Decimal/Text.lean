import OledPanel.Decimal.Binary

/-!
# Decimal text of binary floats

Two renderings of a finite float:

* `exact` writes every digit of the value. A binary float is a dyadic rational, so its decimal
  expansion ends; the text always has a point and at least one digit after it.
* `shortest` writes the fewest significant digits that read back to the same float: among the
  decimals inside the float's rounding interval it takes one with the fewest digits, the nearer
  of two, and the even one of two equally near. The interval includes its ends exactly when the
  significand is even, as round-to-nearest-even reads them back.

`shortest` is positional, never scientific: large values are padded with zeros and small ones
get leading zeros after `0.`.
-/

namespace OledPanel

namespace Decimal

def compareScaled (a : Nat) (k : Int) (b : Nat) (t : Int) : Ordering :=
  let lhs := a * Nat.pow 10 k.toNat * Nat.pow 2 (-t).toNat
  let rhs := b * Nat.pow 2 t.toNat * Nat.pow 10 (-k).toNat
  compare lhs rhs

def divScaled (a : Nat) (t k : Int) : Nat :=
  (a * Nat.pow 2 t.toNat * Nat.pow 10 (-k).toNat) / (Nat.pow 2 (-t).toNat * Nat.pow 10 k.toNat)

/-- The decimal exponent `⌊log₁₀ (m · 2 ^ e)⌋` of a positive value, found from the binary
estimate and corrected by comparison. -/
def decimalExponent (m : Nat) (e : Int) : Int :=
  let bits : Int := (Nat.log2 m : Int) + e
  let guess : Int := (bits * 30103).fdiv 100000
  let rec fix (fuel : Nat) (k : Int) : Int :=
    match fuel with
    | 0 => k
    | fuel + 1 =>
      if compareScaled 1 k m e == .gt then fix fuel (k - 1)
      else if compareScaled 1 (k + 1) m e != .gt then fix fuel (k + 1)
      else k
  fix 8 guess

/-- The shortest decimal `(digits, exp10)` in the rounding interval of a positive finite value
of the format. -/
def shortestDigits (f : Format) (v : Finite) : Nat × Int :=
  let m := v.sig
  let t := v.exp - 2
  -- in units of a quarter of the gap above: the value is `4m`, the ends `4m + 2` and below
  let lo := if f.narrowBelow v then 4 * m - 1 else 4 * m - 2
  let hi := 4 * m + 2
  let closed := m % 2 = 0
  let inside (d : Nat) (k : Int) : Bool :=
    let c1 := compareScaled d k lo t
    let c2 := compareScaled d k hi t
    (c1 == .gt || (closed && c1 == .eq)) && (c2 == .lt || (closed && c2 == .eq))
  let top := decimalExponent m v.exp
  let rec search (fuel n : Nat) : Nat × Int :=
    match fuel with
    | 0 => (m, v.exp)
    | fuel + 1 =>
      let k := top - n + 1
      let d := divScaled (4 * m) t k
      let okLo := inside d k
      let okHi := inside (d + 1) k
      if okLo && okHi then
        -- the nearer of the two, the even one on a tie
        match compareScaled (2 * d + 1) k (8 * m) t with
        | .lt => (d + 1, k)
        | .gt => (d, k)
        | .eq => if d % 2 = 0 then (d, k) else (d + 1, k)
      else if okLo then (d, k)
      else if okHi then (d + 1, k)
      else search fuel (n + 1)
  search 40 1

def normalise (d : Nat) (k : Int) : Nat × Int :=
  let rec go (fuel d : Nat) (k : Int) : Nat × Int :=
    match fuel with
    | 0 => (d, k)
    | fuel + 1 => if d ≠ 0 ∧ d % 10 = 0 then go fuel (d / 10) (k + 1) else (d, k)
  go 400 d k

/-- The number `digits · 10 ^ k` written out positionally. -/
def positional (d : Nat) (k : Int) : String :=
  let s := toString d
  if k ≥ 0 then s ++ String.ofList (List.replicate k.toNat '0')
  else
    let point : Int := s.length + k
    if point > 0 then
      String.ofList (s.toList.take point.toNat) ++ "." ++ String.ofList (s.toList.drop point.toNat)
    else "0." ++ String.ofList (List.replicate (-point).toNat '0') ++ s

/-- The shortest positional text of a float's bits: `NaN`, `inf`, `-inf`, or the fewest digits
that read back, with a minus sign for negative values and negative zero. -/
def shortest (f : Format) (bits : Nat) : String :=
  match f.classify bits with
  | .notANumber => "NaN"
  | .infinite neg => if neg then "-inf" else "inf"
  | .finite v =>
    let sign := if v.neg then "-" else ""
    if v.sig = 0 then sign ++ "0" else
    let (d, k) := shortestDigits f v
    let (d, k) := normalise d k
    sign ++ positional d k

/-- Every digit of a finite value: `±digits.digits`, with at least one digit after the point.
Not-a-number and infinities have no digits and give `none`. -/
def exact (f : Format) (bits : Nat) : Option String :=
  match f.classify bits with
  | .finite v =>
    let sign := if v.neg then "-" else ""
    if v.exp ≥ 0 then some (sign ++ toString (v.sig * Nat.pow 2 v.exp.toNat) ++ ".0")
    else
      let places := (-v.exp).toNat
      let scaled := v.sig * Nat.pow 5 places
      let whole := scaled / Nat.pow 10 places
      let frac := toString (scaled % Nat.pow 10 places)
      let frac := String.ofList (List.replicate (places - frac.length) '0') ++ frac
      let trimmed := (frac.toList.reverse.dropWhile (· = '0')).reverse
      some (sign ++ toString whole ++ "." ++ (if trimmed.isEmpty then "0" else String.ofList trimmed))
  | _ => none

end Decimal

/-- The shortest decimal text of a single, positional. -/
def Float32.text (x : Float32) : String := Decimal.shortest .single x.toBits.toNat

/-- The shortest decimal text of a double, positional. -/
def Float.text (x : Float) : String := Decimal.shortest .double x.toBits.toNat

end OledPanel
