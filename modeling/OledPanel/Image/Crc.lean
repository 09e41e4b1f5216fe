/-!
# Cyclic redundancy checks

The 32-bit check that guards every chunk of a PNG stream: the remainder of the data, read
least significant bit first, divided by the reflected polynomial `0xEDB88320`, with the register
started and finished inverted.

`Crc.update` takes the register through one byte by eight shifts; `Crc.ofBytes` folds it over a
range of bytes.
-/

namespace OledPanel

namespace Crc

def polynomial : UInt32 := 0xEDB88320

/-- One shift of the register: out goes the low bit, and the polynomial is added when it was
set. -/
def shift (c : UInt32) : UInt32 :=
  if c &&& 1 == 1 then (c >>> 1) ^^^ polynomial else c >>> 1

def shifts : Nat → UInt32 → UInt32
  | 0, c => c
  | n + 1, c => shifts n (shift c)

/-- The register after one more byte. -/
def update (c : UInt32) (b : UInt8) : UInt32 := shifts 8 (c ^^^ b.toUInt32)

/-- The check of the bytes from `start` to `stop` of an array. -/
def ofBytes (data : ByteArray) (start stop : Nat) : UInt32 :=
  ((List.range (stop - start)).foldl (fun c i => update c (data[start + i]?.getD 0))
    0xFFFFFFFF) ^^^ 0xFFFFFFFF

theorem shifts_add (m n : Nat) (c : UInt32) : shifts (m + n) c = shifts n (shifts m c) := by
  induction m generalizing c with
  | zero => simp [shifts]
  | succ m ih => rw [Nat.add_right_comm, shifts, ih, shifts]

end Crc

end OledPanel
