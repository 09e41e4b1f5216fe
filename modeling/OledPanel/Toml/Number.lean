import OledPanel.Toml.Text
import OledPanel.Decimal.Binary

/-!
# Numbers, booleans and dates

Integers are decimal with an optional sign and no leading zero, or unsigned hexadecimal, octal
or binary after `0x`, `0o`, `0b`; single underscores may stand between digits. Every integer
fits in 64 signed bits, and one that does not fails at its first byte with the standard
overflow text.

A float is a decimal integer part with a fraction, an exponent or both, read to the nearest
double; a value that rounds to positive infinity is refused, while `inf` and `nan` with an
optional sign are written out. Dates and times follow the internet date format: a full date,
optionally a time after `T`, `t` or a space, optionally an offset; or a time alone. Fields are
range-checked, days against their month and leap years.
-/

namespace OledPanel

namespace Toml

open Reader Text

namespace Number

def isOctDigit (b : UInt8) : Bool := 0x30 ≤ b && b ≤ 0x37

def isBinDigit (b : UInt8) : Bool := b == 0x30 || b == 0x31

/-- a digit and then digits, each run of them after an underscore; the underscore must be
followed by a digit -/
def digitsAfter (isD : UInt8 → Bool) : Reader Unit := do
  let _ ← many (alt (do let _ ← takeWhile isD 1; pure ())
    (do byte (ascii '_'); expect (.description "digit") (cut (do let _ ← satisfy isD; pure ()))))
  pure ()

def zeroPrefixable : Reader Unit := do
  let _ ← satisfy isDigit
  digitsAfter isDigit

def isSign (b : UInt8) : Bool := b == ascii '+' || b == ascii '-'

def decimalInt : Reader (Nat × Nat) :=
  label "integer" <| recognize do
    let _ ← opt (satisfy isSign)
    alt (do let _ ← satisfy (fun b => 0x31 ≤ b && b ≤ 0x39); digitsAfter isDigit)
      (do let _ ← satisfy isDigit; pure ())

def digitsOf (bs : ByteArray) : List Nat :=
  bs.toList.filterMap fun b =>
    if isDigit b then some (b.toNat - 0x30)
    else if 0x41 ≤ b && b ≤ 0x46 then some (b.toNat - 0x37)
    else if 0x61 ≤ b && b ≤ 0x66 then some (b.toNat - 0x57)
    else none

def valueIn (base : Nat) (ds : List Nat) : Nat := ds.foldl (fun n d => base * n + d) 0

def maxInt : Int := Int.pow 2 63 - 1

def minInt : Int := -(Int.pow 2 63)

/-- An integer if it fits in 64 signed bits, else the overflow explanation. -/
def fit (i : Int) : Except String Int :=
  if i > maxInt then .error "number too large to fit in target type"
  else if i < minInt then .error "number too small to fit in target type"
  else .ok i

def prefixed (pre : Char) (isD : UInt8 → Bool) (base : Nat) (what : String) : Reader Int :=
  cut <| tryMap (label what do
      byte (ascii '0')
      byte (ascii pre)
      let (a, b) ← cut (recognize (do let _ ← satisfy isD; digitsAfter isD))
      bytesBetween a b)
    fun bs => fit (valueIn base (digitsOf bs))

/-- An integer in any base. A decimal one that does not fit fails at its first byte. -/
def integer : Reader Int := do
  let b0 ← peek
  let b1 ← peekSecond
  if b0 = some (ascii '0') ∧ b1 = some (ascii 'x') then prefixed 'x' isHexDigit 16 "hexadecimal integer"
  else if b0 = some (ascii '0') ∧ b1 = some (ascii 'o') then prefixed 'o' isOctDigit 8 "octal integer"
  else if b0 = some (ascii '0') ∧ b1 = some (ascii 'b') then prefixed 'b' isBinDigit 2 "binary integer"
  else do
    let (a, b) ← decimalInt
    let bs ← bytesBetween a b
    let neg := bs[0]? = some (ascii '-')
    let n : Int := valueIn 10 (digitsOf bs)
    match fit (if neg then -n else n) with
    | .ok i => pure i
    | .error msg => failAt a (some msg) true

def exponentPart : Reader Unit := do
  let _ ← satisfy (fun b => b == ascii 'e' || b == ascii 'E')
  let _ ← opt (satisfy isSign)
  cut zeroPrefixable

def fractionPart : Reader Unit := do
  byte (ascii '.')
  expect (.description "digit") (cut zeroPrefixable)

/-- the text of a decimal float: an integer part with an exponent, or a fraction and maybe one -/
def floatText : Reader (Nat × Nat) :=
  recognize do
    let _ ← decimalInt
    alt exponentPart (do fractionPart; let _ ← opt exponentPart; pure ())

def decimalOf (bs : ByteArray) : Bool × Nat × Int :=
  let cs := bs.toList.filter (· != ascii '_')
  let neg := cs.head? = some (ascii '-')
  let body := cs.dropWhile isSign
  let mant := body.takeWhile (fun b => b != ascii 'e' && b != ascii 'E')
  let expText := (body.dropWhile (fun b => b != ascii 'e' && b != ascii 'E')).drop 1
  let whole := mant.takeWhile (· != ascii '.')
  let frac := (mant.dropWhile (· != ascii '.')).drop 1
  let expNeg := expText.head? = some (ascii '-')
  let expDigits := valueIn 10 (digitsOf (ByteArray.mk (expText.dropWhile isSign).toArray))
  let exp : Int := if expNeg then -(expDigits : Int) else expDigits
  let digits := valueIn 10 (digitsOf (ByteArray.mk (whole ++ frac).toArray))
  (neg, digits, exp - frac.length)

def digitCount (n : Nat) : Nat := (Nat.toDigits 10 n).length

/-- The double nearest to `±digits · 10 ^ exp`. Values far beyond the double range are
settled without computing them: above `10 ^ 310` is infinite and below `10 ^ -330` is zero. -/
def nearestDouble (neg : Bool) (digits : Nat) (exp : Int) : Float :=
  if digits = 0 then Decimal.double neg 0 0
  else
    let magnitude := exp + digitCount digits
    if magnitude > 310 then Decimal.double neg 1 400
    else if magnitude < -330 then Decimal.double neg 0 0
    else Decimal.double neg digits exp

/-- positive infinity -/
def infinity : Float := Decimal.double false 1 400

def specialFloat : Reader Float := do
  let sign ← opt (satisfy isSign)
  let f ← alt (do literal ("inf".toUTF8.toList); pure infinity)
    (do literal ("nan".toUTF8.toList); pure (0.0 / 0.0 : Float))
  pure (if sign = some (ascii '-') then -f else f)

/-- A float. A decimal one that rounds to positive infinity fails at its first byte. -/
def float : Reader Float :=
  label "floating-point number" <| alt
    (do
      let (a, b) ← floatText
      let bs ← bytesBetween a b
      let (neg, digits, exp) := decimalOf bs
      let f := nearestDouble neg digits exp
      if f == infinity then failAt a none true else pure f)
    specialFloat

def trueWord : Reader Bool := do
  let _ ← lookahead (byte (ascii 't'))
  cut (literal "true".toUTF8.toList)
  pure true

def falseWord : Reader Bool := do
  let _ ← lookahead (byte (ascii 'f'))
  cut (literal "false".toUTF8.toList)
  pure false

/-- Exactly `n` digits, with a range check on their value. -/
def field (n lo hi : Nat) : Reader Nat :=
  tryMap (do
      let a ← takeBetween isDigit n n
      let b ← position
      bytesBetween a b)
    fun bs =>
      let v := valueIn 10 (digitsOf bs)
      if lo ≤ v ∧ v ≤ hi then .ok v else .error "value is out of range"

def isLeapYear (y : Nat) : Bool := y % 4 == 0 && (y % 100 != 0 || y % 400 == 0)

def daysIn (year month : Nat) : Nat :=
  if month = 2 then (if isLeapYear year then 29 else 28)
  else if month = 4 ∨ month = 6 ∨ month = 9 ∨ month = 11 then 30
  else 31

/-- The number `n` written with at least `width` digits -/
def padded (width n : Nat) : String :=
  let ds := toString n
  String.ofList (List.replicate (width - ds.length) '0') ++ ds

/-- A date `yyyy-mm-dd`, the day checked against its month; yields its canonical text -/
def fullDate : Reader String := do
  let year ← field 4 0 9999
  byte (ascii '-')
  let month ← cut (field 2 1 12)
  cut (byte (ascii '-'))
  let dayStart ← position
  let day ← cut (field 2 1 31)
  if daysIn year month < day then failAt dayStart (some "value is out of range") true
  else pure (padded 4 year ++ "-" ++ padded 2 month ++ "-" ++ padded 2 day)

/-- A fraction of a second: `.` and at least one digit, as nanoseconds; digits past the ninth are dropped -/
def secondFraction : Reader Nat := do
  byte (ascii '.')
  let a ← takeWhile isDigit 1
  let b ← position
  let bs ← bytesBetween a (min b (a + 9))
  let ds := digitsOf bs
  pure (valueIn 10 ds * Nat.pow 10 (9 - ds.length))

def nanosText (n : Nat) : String :=
  if n = 0 then ""
  else "." ++ String.ofList ((padded 9 n).toList.reverse.dropWhile (· = '0')).reverse

/-- A time `hh:mm:ss` and a fraction of a second; yields its canonical text -/
def partialTime : Reader String := do
  let hour ← field 2 0 23
  byte (ascii ':')
  cut do
    let minute ← field 2 0 59
    byte (ascii ':')
    let second ← field 2 0 60
    let nanos ← opt secondFraction
    pure (padded 2 hour ++ ":" ++ padded 2 minute ++ ":" ++ padded 2 second ++
      nanosText (nanos.getD 0))

def timeOffset : Reader String :=
  label "time offset" <| alt
    (do let _ ← satisfy (fun b => b == ascii 'Z' || b == ascii 'z'); pure "Z")
    (do
      let sign ← satisfy isSign
      cut do
        let hours ← field 2 0 23
        byte (ascii ':')
        let minutes ← field 2 0 59
        let total := hours * 60 + minutes
        let neg := sign == ascii '-' && total ≠ 0
        pure ((if neg then "-" else "+") ++ padded 2 (total / 60) ++ ":" ++ padded 2 (total % 60)))

/-- A date with an optional time and offset, or a time alone; yields its canonical text, with
`T` between date and time and `Z` for a zero offset written so. -/
def dateTime : Reader String :=
  alt
    (label "date-time" do
      let date ← fullDate
      let rest ← opt (do
        let _ ← satisfy (fun b => b == ascii 'T' || b == ascii 't' || b == ascii ' ')
        let time ← partialTime
        let offset ← opt timeOffset
        pure ("T" ++ time ++ offset.getD ""))
      pure (date ++ rest.getD ""))
    (label "time" partialTime)

end Number

end Toml

end OledPanel
