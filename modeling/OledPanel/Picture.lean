import OledPanel.Raster

/-!
# Decoded pictures

A picture is what an image file decodes to: a grid of samples with one to four channels (grey,
grey with alpha, RGB, RGB with alpha) at 8 or 16 bits. Samples are kept row-major with the
channels interleaved.

Narrowing a 16-bit sample to 8 bits rounds to the nearest multiple of 257, so `0xFFFF` becomes
`0xFF` and `0x8080` becomes `0x80`. Grey becomes RGB by repeating the level; a missing alpha
channel is opaque. `Picture.flatten` composites a picture with alpha over black.
-/

namespace OledPanel

/-- the channel layout of a picture -/
inductive Channels where
  | grey
  | greyAlpha
  | rgb
  | rgba
  deriving DecidableEq, Repr, Inhabited

namespace Channels

/-- samples per pixel -/
def count : Channels → Nat
  | grey => 1
  | greyAlpha => 2
  | rgb => 3
  | rgba => 4

def hasAlpha : Channels → Bool
  | grey | rgb => false
  | greyAlpha | rgba => true

end Channels

/-- a decoded picture: `samples` holds `width * height * channels.count` values, each below
`2 ^ 16` when `wide` and below `2 ^ 8` otherwise -/
structure Picture where
  width : Nat
  height : Nat
  channels : Channels
  wide : Bool
  samples : Array UInt16

namespace Picture

def colourName (p : Picture) : String :=
  (match p.channels with
    | .grey => "L"
    | .greyAlpha => "La"
    | .rgb => "Rgb"
    | .rgba => "Rgba") ++ (if p.wide then "16" else "8")

/-- sample `c` of pixel `(x, y)`, zero outside -/
def sample (p : Picture) (x y c : Nat) : UInt16 :=
  p.samples[(y * p.width + x) * p.channels.count + c]?.getD 0

/-- A 16-bit sample narrowed to 8 bits, to the nearest step of 257. -/
def narrow (v : UInt16) : UInt8 := ((v.toNat + 128) / 257).toUInt8

/-- sample `c` of pixel `(x, y)` at 8 bits -/
def sample8 (p : Picture) (x y c : Nat) : UInt8 :=
  let v := p.sample x y c
  if p.wide then narrow v else v.toUInt8

/-- pixel `(x, y)` as RGBA at 8 bits -/
def rgba8 (p : Picture) (x y : Nat) : Rgb × UInt8 :=
  match p.channels with
  | .grey => let l := p.sample8 x y 0; (⟨l, l, l⟩, 255)
  | .greyAlpha => let l := p.sample8 x y 0; (⟨l, l, l⟩, p.sample8 x y 1)
  | .rgb => (⟨p.sample8 x y 0, p.sample8 x y 1, p.sample8 x y 2⟩, 255)
  | .rgba => (⟨p.sample8 x y 0, p.sample8 x y 1, p.sample8 x y 2⟩, p.sample8 x y 3)

/-- Build a raster pixel by pixel in row-major order. -/
def tabulate (w h : Nat) (f : Nat → Nat → Rgb) : Raster :=
  let row (acc : ByteArray) (y : Nat) : ByteArray :=
    (List.range w).foldl (fun acc x => let c := f x y; ((acc.push c.r).push c.g).push c.b) acc
  ⟨w, h, (List.range h).foldl row (ByteArray.emptyWithCapacity (w * h * 3))⟩

/-- The RGB view of a picture: grey is repeated, alpha is dropped. -/
def toRaster (p : Picture) : Raster :=
  tabulate p.width p.height fun x y => (p.rgba8 x y).1

/-- A channel scaled by its coverage, rounded down. -/
def cover (c a : UInt8) : UInt8 := (c.toNat * a.toNat / 255).toUInt8

/-- Composite over black: without alpha this is the RGB view, with alpha each channel is scaled
by the coverage. -/
def flatten (p : Picture) : Raster :=
  if p.channels.hasAlpha then
    tabulate p.width p.height fun x y =>
      let (c, a) := p.rgba8 x y
      ⟨cover c.r a, cover c.g a, cover c.b a⟩
  else p.toRaster

/-- an 8-bit picture with the samples of `bytes` -/
def ofBytes (w h : Nat) (ch : Channels) (bytes : ByteArray) : Picture :=
  ⟨w, h, ch, false, bytes.data.map (·.toUInt16)⟩

/-- the RGB picture holding a raster -/
def ofRaster (r : Raster) : Picture := ofBytes r.width r.height .rgb r.bytes

/-- Coverage never brightens a channel. -/
theorem cover_le (c a : UInt8) : (cover c a).toNat ≤ c.toNat := by
  have ha := a.toNat_lt
  have hc := c.toNat_lt
  have h1 : c.toNat * a.toNat ≤ 255 * c.toNat := by
    rw [Nat.mul_comm 255]
    exact Nat.mul_le_mul_left _ (by omega)
  have h2 := Nat.div_le_of_le_mul h1
  simp only [cover, Nat.toUInt8_eq, UInt8.toNat_ofNat']
  omega

end Picture

end OledPanel
