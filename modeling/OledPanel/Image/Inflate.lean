/-!
# Inflating compressed data

Image data is stored compressed: a two-byte header, then blocks of the DEFLATE format. A block
is stored as it is, or coded with Huffman codes, fixed or sent before the block, where a symbol
is a literal byte, the end of the block, or a length to copy from a distance back in the output.

`Inflate.run` decodes a stream into the output, stopping early once `limit` bytes are out, and
says why it stopped before the end of the last block if it did: the input ran out, or the data
breaks the format. What was decoded before the stop is kept. Bits are read least significant
first; Huffman codes are read most significant bit first, as the format has them. Every loop is
bounded by the bits of the input, so decoding always ends.
-/

namespace OledPanel

namespace Inflate

/-- a position in the input, counted in bits -/
structure BitReader where
  bytes : ByteArray
  bitPos : Nat

/-- why a stream could not be decoded to its end -/
inductive InflateError where
  /-- the input ended inside the stream -/
  | truncated
  /-- the two-byte header names no known method, a window over 32 KiB, or fails its check -/
  | badHeader
  | badBlockType
  /-- a stored block's length and its complement disagree -/
  | badStoredLength
  /-- a dynamic block declares more literal and length codes than the format has -/
  | tooManyCodes
  /-- a dynamic block declares more distance codes than the format has -/
  | tooManyDistances
  /-- a code length code, or a literal and length code, that is not a complete prefix code -/
  | badLengthTree
  /-- a literal and length code without the end of block symbol -/
  | noEndOfBlock
  /-- a distance code that is neither empty, a single one-bit code, nor complete -/
  | badDistanceTree
  /-- a run of code lengths has nothing to repeat or runs past the end -/
  | badLengthRepeat
  /-- the bits match no code, or a code that stands for nothing -/
  | badLiteralCode
  | badDistanceCode
  /-- a copy reaches back before the start of the output -/
  | distanceTooFar
  deriving DecidableEq, Repr

namespace InflateError

def name : InflateError → String
  | truncated => "InsufficientInput"
  | badHeader => "BadZlibHeader"
  | badBlockType => "InvalidBlockType"
  | badStoredLength => "InvalidUncompressedBlockLength"
  | tooManyCodes => "InvalidHlit"
  | tooManyDistances => "InvalidHdist"
  | badLengthTree => "BadCodeLengthHuffmanTree"
  | noEndOfBlock => "BadLiteralLengthHuffmanTree"
  | badDistanceTree => "BadDistanceHuffmanTree"
  | badLengthRepeat => "InvalidCodeLengthRepeat"
  | badLiteralCode => "InvalidLiteralLengthCode"
  | badDistanceCode => "InvalidDistanceCode"
  | distanceTooFar => "DistanceTooFarBack"

end InflateError

namespace BitReader

def bit (r : BitReader) : Except InflateError (Nat × BitReader) :=
  match r.bytes[r.bitPos / 8]? with
  | some b => .ok ((b.toNat >>> (r.bitPos % 8)) % 2, { r with bitPos := r.bitPos + 1 })
  | none => .error .truncated

/-- Read `n` bits as a number, the first bit lowest. -/
def bits (r : BitReader) : Nat → Except InflateError (Nat × BitReader)
  | 0 => .ok (0, r)
  | n + 1 => do
    let (b, r) ← r.bit
    let (rest, r) ← r.bits n
    pure (b + 2 * rest, r)

def align (r : BitReader) : BitReader := { r with bitPos := (r.bitPos + 7) / 8 * 8 }

end BitReader

/-- a canonical Huffman code: how many codes have each length, and the symbols in code order -/
structure Code where
  counts : Array Nat
  symbols : Array Nat

/-- The canonical code of the given code lengths; length zero means the symbol is unused. -/
def Code.ofLengths (lengths : Array Nat) : Code :=
  let counts := lengths.foldl (fun cs l => if l = 0 then cs else cs.modify l (· + 1))
    (Array.replicate 16 0)
  let symbols := ((List.range 16).drop 1).foldl (fun acc len =>
    acc ++ ((List.range lengths.size).filter fun s => lengths[s]? = some len).toArray) #[]
  ⟨counts, symbols⟩

/-- The Kraft sum of code lengths scaled by `2 ^ m`: a code of length `l` takes `2 ^ (m - l)`
of the `2 ^ m` codes of length `m`, and length zero takes none. -/
def kraftSum (m : Nat) (lengths : Array Nat) : Nat :=
  lengths.foldl (fun acc l => if l = 0 then acc else acc + Nat.pow 2 (m - l)) 0

/-- Whether code lengths make a complete prefix code: with `m` the longest length (at least one),
they take all `2 ^ m` codes of length `m`. No lengths at all take nothing, so they are not
complete. -/
def complete (lengths : Array Nat) : Bool :=
  let longest := lengths.foldl max 1
  kraftSum longest lengths = Nat.pow 2 longest

/-- Whether code lengths make an acceptable distance code: none at all, a single code of one
bit, or a complete prefix code. -/
def distancesUsable (lengths : Array Nat) : Bool :=
  lengths.all (· = 0) || (lengths.foldl max 0 = 1 && lengths.count 1 = 1) || complete lengths

/-- Read one symbol: extend the code a bit at a time until it falls in a length's range; bits
that match no code are the error `miss`. -/
def Code.decode (c : Code) (miss : InflateError) (r : BitReader) :
    Except InflateError (Nat × BitReader) :=
  go r 1 0 0 0
where
  /-- at code length `len`: the code so far, the first code of this length, and its index -/
  go (r : BitReader) : Nat → Nat → Nat → Nat → Except InflateError (Nat × BitReader)
    | len, code, first, index =>
      if len < 16 then do
        let (b, r) ← r.bit
        let code := code + b
        let count := c.counts[len]?.getD 0
        if code < first + count then
          match c.symbols[index + (code - first)]? with
          | some s => pure (s, r)
          | none => .error miss
        else go r (len + 1) (code * 2) ((first + count) * 2) (index + count)
      else .error miss
  termination_by len => 16 - len

def fixedLiterals : Code :=
  Code.ofLengths ((List.range 288).map fun s =>
    if s < 144 then 8 else if s < 256 then 9 else if s < 280 then 7 else 8).toArray

def fixedDistances : Code := Code.ofLengths (Array.replicate 30 5)

def lengthBase : Array Nat :=
  #[3, 4, 5, 6, 7, 8, 9, 10, 11, 13, 15, 17, 19, 23, 27, 31, 35, 43, 51, 59, 67, 83, 99, 115,
    131, 163, 195, 227, 258]

def lengthExtra : Array Nat :=
  #[0, 0, 0, 0, 0, 0, 0, 0, 1, 1, 1, 1, 2, 2, 2, 2, 3, 3, 3, 3, 4, 4, 4, 4, 5, 5, 5, 5, 0]

def distBase : Array Nat :=
  #[1, 2, 3, 4, 5, 7, 9, 13, 17, 25, 33, 49, 65, 97, 129, 193, 257, 385, 513, 769, 1025, 1537,
    2049, 3073, 4097, 6145, 8193, 12289, 16385, 24577]

def distExtra : Array Nat :=
  #[0, 0, 0, 0, 1, 1, 2, 2, 3, 3, 4, 4, 5, 5, 6, 6, 7, 7, 8, 8, 9, 9, 10, 10, 11, 11, 12, 12,
    13, 13]

/-- Copy `len` bytes from `dist` back, one at a time, so that a copy may overlap itself. -/
def copyBack (out : ByteArray) (dist : Nat) : Nat → ByteArray
  | 0 => out
  | n + 1 => copyBack (out.push (out[out.size - dist]?.getD 0)) dist n

/-- a decoder's state when it stops early: why, and the output so far -/
abbrev Stop := InflateError × ByteArray

/-- A step that cannot see the output, failing with the output so far. -/
def keeping (out : ByteArray) (x : Except InflateError α) : Except Stop α :=
  x.mapError fun e => (e, out)

/-- Decode the symbols of one coded block into the output, until its end symbol, running out
of fuel, or `limit` bytes of output; says whether the limit was reached. -/
def codedBlock (lit dist : Code) (limit : Nat) :
    Nat → BitReader → ByteArray → Except Stop (BitReader × ByteArray × Bool)
  | 0, r, out => .ok (r, out, false)
  | fuel + 1, r, out => do
    if out.size ≥ limit then return (r, out, true)
    let (sym, r) ← keeping out (lit.decode .badLiteralCode r)
    if sym < 256 then codedBlock lit dist limit fuel r (out.push sym.toUInt8)
    else if sym = 256 then pure (r, out, false)
    else
      let i := sym - 257
      match lengthBase[i]?, lengthExtra[i]? with
      | some base, some extra => do
        let (e, r) ← keeping out (r.bits extra)
        let len := base + e
        let (dsym, r) ← keeping out (dist.decode .badDistanceCode r)
        match distBase[dsym]?, distExtra[dsym]? with
        | some dbase, some dextra => do
          let (de, r) ← keeping out (r.bits dextra)
          let d := dbase + de
          if d > out.size then .error (.distanceTooFar, out)
          else codedBlock lit dist limit fuel r (copyBack out d len)
        | _, _ => .error (.badDistanceCode, out)
      | _, _ => .error (.badLiteralCode, out)

def lengthOrder : List Nat := [16, 17, 18, 0, 8, 7, 9, 6, 10, 5, 11, 4, 12, 3, 13, 2, 14, 1, 15]

/-- Read `n` code lengths with the code length code; 16 repeats the last length, 17 and 18
repeat zero, and no run may pass the end. -/
def readLengths (c : Code) (n : Nat) : Nat → BitReader → Array Nat →
    Except InflateError (Array Nat × BitReader)
  | 0, r, acc => if acc.size = n then .ok (acc, r) else .error .badLengthRepeat
  | fuel + 1, r, acc =>
    if acc.size > n then .error .badLengthRepeat
    else if acc.size = n then .ok (acc, r)
    else do
      let (sym, r) ← c.decode .badLengthRepeat r
      if sym < 16 then readLengths c n fuel r (acc.push sym)
      else if sym = 16 then
        match acc.back? with
        | none => .error .badLengthRepeat
        | some prev => do
          let (e, r) ← r.bits 2
          readLengths c n fuel r (acc ++ Array.replicate (3 + e) prev)
      else if sym = 17 then do
        let (e, r) ← r.bits 3
        readLengths c n fuel r (acc ++ Array.replicate (3 + e) 0)
      else do
        let (e, r) ← r.bits 7
        readLengths c n fuel r (acc ++ Array.replicate (11 + e) 0)

def dynamicCodes (r : BitReader) : Except InflateError (Code × Code × BitReader) := do
  let (hlit, r) ← r.bits 5
  let (hdist, r) ← r.bits 5
  let (hclen, r) ← r.bits 4
  if hlit + 257 > 286 then .error .tooManyCodes
  if hdist + 1 > 30 then .error .tooManyDistances
  let (pairs, r) ← (lengthOrder.take (hclen + 4)).foldlM (fun (acc, r) sym => do
      let (l, r) ← r.bits 3
      pure (acc ++ [(sym, l)], r)) ([], r)
  let clens := pairs.foldl (fun a (sym, l) => a.set! sym l) (Array.replicate 19 0)
  if !complete clens then .error .badLengthTree
  let lenCode := Code.ofLengths clens
  let total := hlit + 257 + hdist + 1
  let (lengths, r) ← readLengths lenCode total (total + 1) r #[]
  let lits := lengths.extract 0 (hlit + 257)
  let dists := lengths.extract (hlit + 257) total
  if lits[256]? = some 0 then .error .noEndOfBlock
  if !complete lits then .error .badLengthTree
  if !distancesUsable dists then .error .badDistanceTree
  pure (Code.ofLengths lits, Code.ofLengths dists, r)

/-- Decode blocks until the last one, `limit` bytes of output, or the fuel runs out. -/
def blocks (limit : Nat) : Nat → BitReader → ByteArray → Except Stop ByteArray
  | 0, _, out => .ok out
  | fuel + 1, r, out => do
    if out.size ≥ limit then return out
    let (final, r) ← keeping out r.bit
    let (kind, r) ← keeping out (r.bits 2)
    let symbolFuel := r.bytes.size * 8 + 1
    let (r, out, full) ← match kind with
      | 0 =>
        let r := r.align
        let p := r.bitPos / 8
        match r.bytes[p]?, r.bytes[p + 1]?, r.bytes[p + 2]?, r.bytes[p + 3]? with
        | some a, some b, some c, some d =>
          let len := a.toNat + 256 * b.toNat
          let nlen := c.toNat + 256 * d.toNat
          if len + nlen ≠ 65535 then .error (.badStoredLength, out)
          else
            let avail := min len (r.bytes.size - (p + 4))
            let take := min avail (limit - out.size)
            let out := out ++ r.bytes.extract (p + 4) (p + 4 + take)
            if take < len ∧ out.size < limit then .error (.truncated, out)
            else .ok ({ r with bitPos := (p + 4 + len) * 8 }, out, decide (out.size ≥ limit))
        | _, _, _, _ => .error (.truncated, out)
      | 1 => codedBlock fixedLiterals fixedDistances limit symbolFuel r out
      | 2 => do
        let (lit, dist, r) ← keeping out (dynamicCodes r)
        codedBlock lit dist limit symbolFuel r out
      | _ => .error (.badBlockType, out)
    if full || final = 1 then pure out else blocks limit fuel r out

/-- Inflate a compressed stream with its two-byte header, producing at most `limit` bytes: the
output, and why decoding stopped before the end of the stream and the limit, if it did. -/
def run (data : ByteArray) (limit : Nat) : ByteArray × Option InflateError :=
  match data[0]?, data[1]? with
  | some cmf, some flg =>
    if cmf.toNat % 16 ≠ 8 ∨ cmf.toNat / 16 > 7 ∨ (cmf.toNat * 256 + flg.toNat) % 31 ≠ 0 ∨ flg.toNat &&& 0x20 ≠ 0 then
      (ByteArray.empty, some .badHeader)
    else
      match blocks limit (data.size + 1) ⟨data, 16⟩ ByteArray.empty with
      | .ok out => (out, none)
      | .error (e, out) => (out, some e)
  | _, _ => (ByteArray.empty, some .truncated)

end Inflate

end OledPanel
