import OledPanel.Picture

/-!
# Layers

A layer is a grid of RGBA pixels at eight bits, the canvas that animation frames are composed
on. Pixels off the grid read as transparent black and writes there are dropped.

`Layer.blendOver` lays one pixel over another with the usual source-over rule in single
precision, truncating the results back to bytes; a fully transparent pixel changes nothing and an
opaque one replaces what is below.
-/

namespace OledPanel

/-- an RGBA pixel at eight bits -/
structure Rgba where
  r : UInt8
  g : UInt8
  b : UInt8
  a : UInt8
  deriving DecidableEq, Repr, Inhabited

/-- transparent black -/
def Rgba.clear : Rgba := ⟨0, 0, 0, 0⟩

/-- a grid of RGBA pixels, four bytes each, row by row -/
structure Layer where
  width : Nat
  height : Nat
  bytes : ByteArray

namespace Layer

/-- a transparent layer -/
def clear (w h : Nat) : Layer := ⟨w, h, ⟨Array.replicate (w * h * 4) 0⟩⟩

/-- the pixel at `(x, y)`, transparent off the grid -/
def get (l : Layer) (x y : Nat) : Rgba :=
  if x < l.width ∧ y < l.height then
    let i := (y * l.width + x) * 4
    ⟨l.bytes[i]?.getD 0, l.bytes[i + 1]?.getD 0, l.bytes[i + 2]?.getD 0, l.bytes[i + 3]?.getD 0⟩
  else Rgba.clear

/-- the layer with `(x, y)` set, unchanged off the grid -/
def set (l : Layer) (x y : Nat) (p : Rgba) : Layer :=
  if x < l.width ∧ y < l.height then
    let i := (y * l.width + x) * 4
    { l with bytes := (((l.bytes.set! i p.r).set! (i + 1) p.g).set! (i + 2) p.b).set! (i + 3) p.a }
  else l

/-- the layer of a function of the position -/
def ofFn (w h : Nat) (f : Nat → Nat → Rgba) : Layer :=
  let row (acc : ByteArray) (y : Nat) : ByteArray :=
    (List.range w).foldl (fun acc x =>
      let p := f x y
      (((acc.push p.r).push p.g).push p.b).push p.a) acc
  ⟨w, h, (List.range h).foldl row (ByteArray.emptyWithCapacity (w * h * 4))⟩

/-- the RGBA picture of a layer -/
def toPicture (l : Layer) : Picture := Picture.ofBytes l.width l.height .rgba l.bytes

/-- The layer composed over black, as a raster. -/
def flatten (l : Layer) : Raster := l.toPicture.flatten

/-- A byte as a fraction of 255, in single precision. -/
def unit (b : UInt8) : Float32 := b.toNat.toFloat32 / 255

def toByte (x : Float32) : UInt8 := x.toUInt8

/-- Lay pixel `fg` over `bg`: source-over in single precision, results truncated. -/
def blendOver (bg fg : Rgba) : Rgba :=
  if fg.a = 0 then bg
  else if fg.a = 255 then fg
  else
    let (bgR, bgG, bgB, bgA) := (unit bg.r, unit bg.g, unit bg.b, unit bg.a)
    let (fgR, fgG, fgB, fgA) := (unit fg.r, unit fg.g, unit fg.b, unit fg.a)
    let alpha := bgA + fgA - bgA * fgA
    if alpha == 0 then bg
    else
      let mix (f b : Float32) : Float32 := (f * fgA + b * bgA * (1 - fgA)) / alpha
      ⟨toByte (255 * mix fgR bgR), toByte (255 * mix fgG bgG), toByte (255 * mix fgB bgB),
        toByte (255 * alpha)⟩

def replaceAt (l src : Layer) (x y : Nat) : Layer :=
  (List.range src.height).foldl (fun l j =>
    (List.range src.width).foldl (fun l i => l.set (x + i) (y + j) (src.get i j)) l) l

def blendAt (l src : Layer) (x y : Nat) : Layer :=
  (List.range src.height).foldl (fun l j =>
    (List.range src.width).foldl (fun l i =>
      l.set (x + i) (y + j) (blendOver (l.get (x + i) (y + j)) (src.get i j))) l) l

def clearRect (l : Layer) (x y w h : Nat) : Layer :=
  (List.range h).foldl (fun l j =>
    (List.range w).foldl (fun l i => l.set (x + i) (y + j) Rgba.clear) l) l

def copyRect (l src : Layer) (x y w h : Nat) : Layer :=
  (List.range h).foldl (fun l j =>
    (List.range w).foldl (fun l i => l.set (x + i) (y + j) (src.get (x + i) (y + j))) l) l

end Layer

/-- The RGBA layer of a picture at eight bits: grey is repeated, missing alpha is opaque. -/
def Picture.toLayer (p : Picture) : Layer :=
  Layer.ofFn p.width p.height fun x y =>
    let (c, a) := p.rgba8 x y
    ⟨c.r, c.g, c.b, a⟩

theorem Layer.blendOver_clear (bg fg : Rgba) (h : fg.a = 0) : Layer.blendOver bg fg = bg := by
  simp [Layer.blendOver, h]

end OledPanel
