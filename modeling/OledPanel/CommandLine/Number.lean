import OledPanel.Decimal.Binary

/-!
# Numbers on the command line

Integers are read as fixed-width integers are read from text: an optional sign, then digits
of the radix, nothing else. Reading goes from the left and the first fault met is the one
reported: an empty text, a sign alone, a character that is not a digit, or a value that has
gone past the bounds of the width. A minus sign is a sign only where negative values exist;
elsewhere it is a character that is not a digit.

Single-precision numbers are read as decimal text: an optional sign, then `inf`, `infinity` or
`nan` in any case, or digits with an optional fraction and an optional exponent, with at least
one digit before the exponent. The value is the single nearest to the decimal, ties to even;
values too large for a single are infinite.
-/

namespace OledPanel

namespace CommandLine

/-- why a text is not an integer of the width -/
inductive IntError where
  | empty
  | invalidDigit
  | tooLarge
  | tooSmall
  deriving DecidableEq, Repr

def IntError.message : IntError → String
  | .empty => "cannot parse integer from empty string"
  | .invalidDigit => "invalid digit found in string"
  | .tooLarge => "number too large to fit in target type"
  | .tooSmall => "number too small to fit in target type"

def digitValue (radix : Nat) (c : Char) : Option Nat :=
  let v := if '0' ≤ c ∧ c ≤ '9' then c.toNat - '0'.toNat
    else if 'a' ≤ c ∧ c ≤ 'z' then c.toNat - 'a'.toNat + 10
    else if 'A' ≤ c ∧ c ≤ 'Z' then c.toNat - 'A'.toNat + 10
    else radix
  if v < radix then some v else none

/-- Read digits from the left onto `acc`, moving away from zero in the direction of the sign
and stopping at the first digit that takes the value past `lo` or `hi`. -/
def readDigits (radix : Nat) (negative : Bool) (lo hi : Int) : List Char → Int → Except IntError Int
  | [], acc => .ok acc
  | c :: cs, acc =>
    match digitValue radix c with
    | none => .error .invalidDigit
    | some d =>
      if negative then
        let acc := acc * radix - d
        if acc < lo then .error .tooSmall else readDigits radix negative lo hi cs acc
      else
        let acc := acc * radix + d
        if acc > hi then .error .tooLarge else readDigits radix negative lo hi cs acc

/-- Read an integer of the radix within `[lo, hi]`; a minus sign is read only if `lo < 0`. -/
def readInt (text : String) (radix : Nat) (lo hi : Int) : Except IntError Int :=
  match text.toList with
  | [] => .error .empty
  | ['+'] | ['-'] => .error .invalidDigit
  | '+' :: cs => readDigits radix false lo hi cs 0
  | '-' :: cs => if lo < 0 then readDigits radix true lo hi cs 0 else .error .invalidDigit
  | cs => readDigits radix false lo hi cs 0

/-- why a text is not a single-precision number -/
inductive FloatError where
  | empty
  | invalid
  deriving DecidableEq, Repr

def FloatError.message : FloatError → String
  | .empty => "cannot parse float from empty string"
  | .invalid => "invalid float literal"

def decimalValue (cs : List Char) : Option Nat :=
  cs.foldl (fun acc c => acc.bind fun a => (digitValue 10 c).map (a * 10 + ·)) (some 0)

def digitCount (n : Nat) : Nat := (Nat.toDigits 10 n).length

/-- The single nearest to `±digits · 10 ^ exp`; values far outside the range of singles are
settled without computing them. -/
def nearestSingle (neg : Bool) (digits : Nat) (exp : Int) : Float32 :=
  if digits = 0 then Decimal.single neg 0 0
  else
    let magnitude := exp + digitCount digits
    if magnitude > 40 then Decimal.single neg 1 60
    else if magnitude < -50 then Decimal.single neg 0 0
    else Decimal.single neg digits exp

def decimalOf (cs : List Char) : Option (Nat × Int) := do
  let mant := cs.takeWhile (fun c => c ≠ 'e' ∧ c ≠ 'E')
  let rest := cs.dropWhile (fun c => c ≠ 'e' ∧ c ≠ 'E')
  let whole := mant.takeWhile (· ≠ '.')
  let frac := (mant.dropWhile (· ≠ '.')).drop 1
  if (mant.filter (· = '.')).length > 1 then none
  if whole.isEmpty ∧ frac.isEmpty then none
  let digits ← decimalValue (whole ++ frac)
  let exp : Int ← match rest with
    | [] => pure 0
    | _ :: e =>
      let (neg, ds) := match e with
        | '+' :: ds => (false, ds)
        | '-' :: ds => (true, ds)
        | ds => (false, ds)
      if ds.isEmpty then none
      let v ← decimalValue ds
      pure (if neg then -(v : Int) else v)
  pure (digits, exp - frac.length)

def readSingle (text : String) : Except FloatError Float32 :=
  let cs := text.toList
  if cs.isEmpty then .error .empty else
  let (neg, body) := match cs with
    | '+' :: r => (false, r)
    | '-' :: r => (true, r)
    | r => (false, r)
  let word := String.ofList (body.map Char.toLower)
  let signed (x : Float32) : Float32 := if neg then -x else x
  if word = "inf" ∨ word = "infinity" then .ok (signed (Decimal.single false 1 60))
  else if word = "nan" then .ok (signed (0.0 / 0.0 : Float32))
  else
    match decimalOf body with
    | some (digits, exp) => .ok (nearestSingle neg digits exp)
    | none => .error .invalid

theorem readInt_empty (radix : Nat) (lo hi : Int) : readInt "" radix lo hi = .error .empty := rfl

end CommandLine

end OledPanel
