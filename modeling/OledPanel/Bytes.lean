/-!
# Reading words out of byte strings

Binary formats read fixed-width words at byte offsets. Each reader here returns `none` when the
word does not lie wholly inside the bytes, so a truncated file shows up as a failed read rather
than as zeros. Big-endian readers serve font tables and PNG chunks, little-endian ones GIF blocks.
-/

namespace OledPanel

namespace Bytes

def u8? (b : ByteArray) (i : Nat) : Option Nat := b[i]?.map (·.toNat)

def u16? (b : ByteArray) (i : Nat) : Option Nat := do
  let hi ← u8? b i
  let lo ← u8? b (i + 1)
  pure (hi * 256 + lo)

def u32? (b : ByteArray) (i : Nat) : Option Nat := do
  let hi ← u16? b i
  let lo ← u16? b (i + 2)
  pure (hi * 65536 + lo)

/-- A 16-bit word read as two's complement. -/
def signed16 (v : Nat) : Int := if v < 32768 then v else (v : Int) - 65536

def i16? (b : ByteArray) (i : Nat) : Option Int := (u16? b i).map signed16

def le16? (b : ByteArray) (i : Nat) : Option Nat := do
  let lo ← u8? b i
  let hi ← u8? b (i + 1)
  pure (hi * 256 + lo)

def tag? (b : ByteArray) (i : Nat) : Option (List Nat) :=
  [0, 1, 2, 3].mapM fun k => u8? b (i + k)

def slice? (b : ByteArray) (start len : Nat) : Option ByteArray :=
  if start + len ≤ b.size then some (b.extract start (start + len)) else none

def tail? (b : ByteArray) (start : Nat) : Option ByteArray :=
  if start ≤ b.size then some (b.extract start b.size) else none

def tagOf (s : String) : List Nat := s.toList.map Char.toNat

/-- The search that sorted records of binary tables are read with: halve the range, keeping the
upper half whenever its first key is not past the target, and end at the last index kept. On
keys out of order it still ends, at some index. -/
def lastNotAbove (keys : Array Nat) (target : Nat) : Nat :=
  let rec go (fuel base size : Nat) : Nat :=
    match fuel with
    | 0 => base
    | fuel + 1 =>
      if size ≤ 1 then base else
      let half := size / 2
      let mid := base + half
      let base := if (keys[mid]?.getD 0) > target then base else mid
      go fuel base (size - half)
  go keys.size 0 keys.size

end Bytes

end OledPanel
