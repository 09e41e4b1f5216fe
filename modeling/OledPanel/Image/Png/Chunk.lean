import OledPanel.Image.Crc
import OledPanel.Image.Inflate
import OledPanel.Error

/-!
# PNG chunks

A PNG stream is an eight-byte signature and a run of chunks. A chunk is a big-endian length, a
four-letter type, that many bytes of body and a checksum of type and body. The first chunk is
the header: size, bit depth, colour type and interlacing. Animated streams add an animation
control chunk and, before the data of each frame, a frame control chunk; frame control and
frame data chunks carry sequence numbers that count up from zero without a gap.

`Png.readChunk` reads one chunk and says how far the stream went if it ends inside it;
`Header.parse` and `FrameControl.parse` check their bodies in the order the format lists the
fields, so the first bad field is the one reported.
-/

namespace OledPanel

namespace Png

/-- why a PNG stream could not be decoded -/
inductive PngError where
  /-- the stream ends before the decoder is done with it -/
  | endOfFile
  | badSignature
  /-- a chunk's stored checksum is not the checksum of its type and body -/
  | checksum (kind : String) (stored computed : UInt32)
  | chunkBeforeHeader (kind : String)
  /-- a chunk's body is not of a length its kind allows -/
  | chunkLength (kind : String)
  /-- a chunk that readers must understand is of a kind this decoder does not know -/
  | unknownCritical (kind : String)
  /-- a chunk that may appear once appears again -/
  | duplicate (kind : String)
  /-- a run of data chunks starts where none may start -/
  | restart (kind : String)
  /-- a frame data chunk too short for its sequence number -/
  | frameDataShort
  | badDimensions
  | badDepth (n : Nat)
  | badColourType (n : Nat)
  | badCombination (colour depth : String)
  | badCompression (n : Nat)
  | badFilterMethod (n : Nat)
  | badInterlace (n : Nat)
  | missingPalette
  /-- a sequence number is not the one after the last -/
  | outOfOrder (expected present : Nat)
  | badDispose (n : Nat)
  | badBlend (n : Nat)
  | frameOutside
  /-- the compressed data ends before the image does -/
  | shortData
  /-- the stream ends where a frame's data should start -/
  | missingData
  | corrupt (e : Inflate.InflateError)
  /-- a row starts with a filter type the format does not have -/
  | unknownFilter (n : Nat)
  /-- animations are composed at eight bits, so deeper samples are refused -/
  | wideAnimation (colour : String)
  deriving DecidableEq, Repr

def caseBit (b : UInt8) : Bool := b &&& 0x20 != 0

def describeKind (kind : String) : String :=
  let bs := kind.toList.map fun c => c.toNat.toUInt8
  let flag (i : Nat) := caseBit (bs[i]?.getD 0)
  let showBool (b : Bool) := if b then "true" else "false"
  let letter (c : Char) := if c = '\'' then "\\'" else quotedChar c
  "ChunkType \x7b type: " ++ String.join (kind.toList.map letter) ++ ", critical: " ++
    showBool (!flag 0) ++ ", private: " ++ showBool (flag 1) ++ ", reserved: " ++
    showBool (flag 2) ++ ", safecopy: " ++ showBool (flag 3) ++ " \x7d"

namespace PngError

def detail : PngError → String
  | endOfFile => "unexpected end of file"
  | badSignature => "Invalid PNG signature."
  | checksum k stored computed =>
    "CRC error: expected 0x" ++ hexDigits stored.toNat ++ " have 0x" ++ hexDigits computed.toNat ++
      " while decoding " ++ describeKind k ++ " chunk."
  | chunkBeforeHeader k => describeKind k ++ " chunk appeared before IHDR chunk"
  | chunkLength k => "Chunk length wrong: " ++ describeKind k
  | unknownCritical k => "Unrecognized critical chunk: " ++ describeKind k
  | duplicate k => "Chunk " ++ describeKind k ++ " must appear at most once."
  | restart k => "Unexpected restart of " ++ describeKind k ++ " chunk sequence"
  | frameDataShort => "fdAT chunk shorter than 4 bytes"
  | badDimensions => "Invalid image dimensions"
  | badDepth n => "Invalid bit depth " ++ toString n ++ "."
  | badColourType n => "Invalid color type " ++ toString n ++ "."
  | badCombination c d => "Invalid color/depth combination in header: " ++ c ++ "/" ++ d
  | badCompression n => "Unknown compression method " ++ toString n ++ "."
  | badFilterMethod n => "Unknown filter method " ++ toString n ++ "."
  | badInterlace n => "Unknown interlace method " ++ toString n ++ "."
  | missingPalette => "Missing palette of indexed image."
  | outOfOrder e p =>
    "Sequence is not in order, expected #" ++ toString e ++ " got #" ++ toString p ++ "."
  | badDispose n => "Invalid dispose operation " ++ toString n ++ "."
  | badBlend n => "Invalid blend operation " ++ toString n ++ "."
  | frameOutside => "Sub frame is out-of-bounds."
  | shortData => "IDAT or fDAT chunk does not have enough data for image."
  | missingData => "IDAT or fdAT chunk is missing."
  | corrupt e => "Corrupt deflate stream. " ++ e.name
  | unknownFilter n => "Unknown filter method " ++ toString n ++ "."
  | wideAnimation c => c

/-- The error as an image error: the stream's end is an input failure, an unsupported depth a
refusal, and the rest are format errors. -/
def toImageError : PngError → ImageError
  | endOfFile => .truncated
  | wideAnimation c => .unsupportedColour "Png" c
  | e => .decoding "Png" e.detail

end PngError

/-- the bytes every PNG stream starts with -/
def signature : List UInt8 := [137, 80, 78, 71, 13, 10, 26, 10]

def bigEndian (s : ByteArray) (p n : Nat) : Option Nat :=
  (List.range n).foldlM (fun acc i => (s[p + i]?).map fun b => acc * 256 + b.toNat) 0

/-- what the stream holds at a chunk boundary -/
inductive ChunkRead where
  /-- a whole chunk: its type, body, stored and computed checksums, and where the next starts -/
  | chunk (kind : String) (body : ByteArray) (stored computed : UInt32) (next : Nat)
  /-- the stream ends inside a chunk's length or type -/
  | endsInHeader
  /-- the stream ends inside a chunk's body or checksum, after these body bytes -/
  | endsInBody (kind : String) (body : ByteArray)

def kindAt (s : ByteArray) (p : Nat) : Option String :=
  if p + 8 ≤ s.size then
    some (String.ofList ((List.range 4).map fun i => Char.ofNat (s[p + 4 + i]?.getD 0).toNat))
  else none

/-- Read the chunk at `p`. -/
def readChunk (s : ByteArray) (p : Nat) : ChunkRead :=
  match bigEndian s p 4, kindAt s p with
  | some len, some kind =>
    let start := p + 8
    if start + len + 4 ≤ s.size then
      let stored := (bigEndian s (start + len) 4).getD 0
      .chunk kind (s.extract start (start + len)) stored.toUInt32 (Crc.ofBytes s (p + 4) (start + len))
        (start + len + 4)
    else .endsInBody kind (s.extract start (min (start + len) s.size))
  | _, _ => .endsInHeader

/-- how the samples of a PNG image are laid out -/
inductive ColourType where
  | grey
  | rgb
  | indexed
  | greyAlpha
  | rgba
  deriving DecidableEq, Repr

namespace ColourType

def ofCode? : Nat → Option ColourType
  | 0 => some grey
  | 2 => some rgb
  | 3 => some indexed
  | 4 => some greyAlpha
  | 6 => some rgba
  | _ => none

/-- samples per pixel as stored -/
def samples : ColourType → Nat
  | grey => 1
  | rgb => 3
  | indexed => 1
  | greyAlpha => 2
  | rgba => 4

def name : ColourType → String
  | grey => "Grayscale"
  | rgb => "Rgb"
  | indexed => "Indexed"
  | greyAlpha => "GrayscaleAlpha"
  | rgba => "Rgba"

def depths : ColourType → List Nat
  | grey => [1, 2, 4, 8, 16]
  | indexed => [1, 2, 4, 8]
  | _ => [8, 16]

end ColourType

def depthName : Nat → String
  | 1 => "One"
  | 2 => "Two"
  | 4 => "Four"
  | 8 => "Eight"
  | _ => "Sixteen"

structure Header where
  width : Nat
  height : Nat
  depth : Nat
  colour : ColourType
  interlaced : Bool

/-- Read the header's body, checking field by field; a body that ends before a field is of
the wrong length. -/
def Header.parse (b : ByteArray) : Except PngError Header := do
  let field (p n : Nat) : Except PngError Nat :=
    match bigEndian b p n with
    | some v => .ok v
    | none => .error (.chunkLength "IHDR")
  let w ← field 0 4
  let h ← field 4 4
  if w = 0 ∨ h = 0 then throw .badDimensions
  let depth ← field 8 1
  if depth ∉ [1, 2, 4, 8, 16] then throw (.badDepth depth)
  let code ← field 9 1
  let colour ← match ColourType.ofCode? code with
    | some c => pure c
    | none => throw (.badColourType code)
  if depth ∉ colour.depths then throw (.badCombination colour.name (depthName depth))
  let compression ← field 10 1
  if compression ≠ 0 then throw (.badCompression compression)
  let filter ← field 11 1
  if filter ≠ 0 then throw (.badFilterMethod filter)
  let interlace ← field 12 1
  if interlace > 1 then throw (.badInterlace interlace)
  pure ⟨w, h, depth, colour, interlace = 1⟩

/-- what happens to a frame's area before the next frame is drawn -/
inductive Dispose where
  /-- it stays -/
  | keep
  /-- it is cleared to transparent black -/
  | clear
  /-- it goes back to what it was before the frame -/
  | restore
  deriving DecidableEq, Repr

structure FrameControl where
  sequence : Nat
  width : Nat
  height : Nat
  x : Nat
  y : Nat
  delayNum : Nat
  delayDen : Nat
  dispose : Dispose
  /-- whether the frame is laid over the canvas rather than replacing its area -/
  blendOver : Bool

/-- Read a frame control body for an image of the header's size, field by field. Its sequence
number must be `expected`, and is checked before any other field. The frame must have an area
and lie inside the image; one that comes before the image data is the image itself, so it must
cover the image exactly. -/
def FrameControl.parse (hd : Header) (expected : Nat) (beforeData : Bool) (b : ByteArray) :
    Except PngError FrameControl := do
  let field (p n : Nat) : Except PngError Nat :=
    match bigEndian b p n with
    | some v => .ok v
    | none => .error (.chunkLength "fcTL")
  let seq ← field 0 4
  if seq ≠ expected then throw (.outOfOrder expected seq)
  let w ← field 4 4
  let h ← field 8 4
  let x ← field 12 4
  let y ← field 16 4
  let num ← field 20 2
  let den ← field 22 2
  let d ← field 24 1
  let dispose ← match d with
    | 0 => pure Dispose.keep
    | 1 => pure .clear
    | 2 => pure .restore
    | n => throw (.badDispose n)
  let bl ← field 25 1
  if bl > 1 then throw (.badBlend bl)
  if w = 0 ∨ h = 0 then throw .badDimensions
  if x + w > hd.width ∨ y + h > hd.height then throw .frameOutside
  if beforeData ∧ (x ≠ 0 ∨ y ≠ 0 ∨ w ≠ hd.width ∨ h ≠ hd.height) then throw .frameOutside
  pure ⟨seq, w, h, x, y, num, den, dispose, bl = 1⟩

def isCritical (kind : String) : Bool :=
  match kind.toList with
  | c :: _ => !caseBit c.toNat.toUInt8
  | [] => true

theorem bigEndian_zero (s : ByteArray) (p : Nat) : bigEndian s p 0 = some 0 := rfl

end Png

end OledPanel
