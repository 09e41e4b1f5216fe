import OledPanel.Image.Crc
import OledPanel.Image.Png.Chunk
import OledPanel.Picture

/-!
# Writing PNG streams

A picture is written as the PNG signature and three chunks: `IHDR` with its size, depth and
colour type, one `IDAT` with the image data, and `IEND`. Every row is stored unfiltered (filter
type 0), and 16-bit samples are written most significant byte first, as the format wants.

The image data is a zlib stream of stored deflate blocks, each at most 65535 bytes and the last
one marked final, closed by the Adler-32 check of the data. Stored blocks trade size for
simplicity: any reader of the format takes them, and the pixels read back are those written.
-/

namespace OledPanel

namespace Png

/-- The four bytes of a number below `2 ^ 32`, most significant first. -/
def word (n : Nat) : List UInt8 :=
  [(n >>> 24).toUInt8, (n >>> 16).toUInt8, (n >>> 8).toUInt8, n.toUInt8]

def bytesOf (l : List UInt8) : ByteArray := ⟨l.toArray⟩

/-- A chunk: the length of its body, its kind, the body, and the check of kind and body. -/
def chunk (kind : String) (body : ByteArray) : ByteArray :=
  let kindBody := bytesOf (kind.toList.map (·.toNat.toUInt8)) ++ body
  bytesOf (word body.size) ++ kindBody ++ bytesOf (word (Crc.ofBytes kindBody 0 kindBody.size).toNat)

def adlerBase : Nat := 65521

/-- The Adler-32 check: the sum of the bytes plus one, and the sum of those running sums, both
modulo 65521, the second in the high half. -/
def adler32 (data : ByteArray) : Nat :=
  let sums := data.foldl (fun (p : Nat × Nat) x =>
    let a := (p.1 + x.toNat) % adlerBase
    (a, (p.2 + a) % adlerBase)) (1, 0)
  sums.2 * 65536 + sums.1

def storedMax : Nat := 65535

/-- Stored deflate blocks holding `data`: a header byte whose low bit marks the last block, the
length and its complement in two bytes each, least significant first, then the bytes. Empty
data is one empty final block. -/
def storedBlocks (data : ByteArray) : ByteArray :=
  let count := max 1 ((data.size + storedMax - 1) / storedMax)
  (List.range count).foldl (fun out i =>
    let start := i * storedMax
    let len := min storedMax (data.size - start)
    let final : UInt8 := if i + 1 = count then 1 else 0
    let rest := storedMax - len
    out ++ bytesOf [final, len.toUInt8, (len >>> 8).toUInt8, rest.toUInt8, (rest >>> 8).toUInt8] ++
      data.extract start (start + len)) ByteArray.empty

/-- A zlib stream holding `data` uncompressed: the header of a 32 KiB window with no preset
dictionary, the blocks, and the Adler-32 check. -/
def zlibStored (data : ByteArray) : ByteArray :=
  bytesOf [0x78, 0x01] ++ storedBlocks data ++ bytesOf (word (adler32 data))

def colourCode : Channels → UInt8
  | .grey => 0
  | .rgb => 2
  | .greyAlpha => 4
  | .rgba => 6

def rawRows (p : Picture) : ByteArray :=
  let perRow := p.width * p.channels.count
  (List.range p.height).foldl (fun out y =>
    (List.range perRow).foldl (fun out i =>
      let v := p.samples[y * perRow + i]?.getD 0
      if p.wide then (out.push (v >>> 8).toUInt8).push v.toUInt8 else out.push v.toUInt8)
      (out.push 0)) ByteArray.empty

/-- The PNG stream of a picture. -/
def encode (p : Picture) : ByteArray :=
  let header := bytesOf (word p.width ++ word p.height ++
    [if p.wide then 16 else 8, colourCode p.channels, 0, 0, 0])
  bytesOf signature ++ chunk "IHDR" header ++ chunk "IDAT" (zlibStored (rawRows p)) ++
    chunk "IEND" ByteArray.empty

/-- The colour type written for a layout is one the reader knows, with one sample per
channel. -/
theorem samples_colourCode (ch : Channels) :
    (ColourType.ofCode? (colourCode ch).toNat).map ColourType.samples = some ch.count := by
  cases ch <;> rfl

end Png

end OledPanel
