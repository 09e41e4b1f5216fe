/-!
# RGB rasters

A raster is a row-major grid of 8-bit RGB pixels, three bytes a pixel. Reads outside the grid
give black and writes outside it are dropped, so every drawing operation clips at every edge.

* `Raster.paste` copies the part of one raster that overlaps another at an integer offset.
* `Raster.fit` keeps a raster of the right size and otherwise places it at the origin of a black
  canvas of that size.
* `Raster.plot` and `Raster.fillRect` are the two drawing primitives: single pixels and
  axis-aligned filled rectangles.
-/

namespace OledPanel

/-- an 8-bit RGB colour -/
structure Rgb where
  r : UInt8
  g : UInt8
  b : UInt8
  deriving DecidableEq, Repr, Inhabited

namespace Rgb

def black : Rgb := ⟨0, 0, 0⟩

def white : Rgb := ⟨255, 255, 255⟩

/-- Luma with the ITU-R 601 weights, `(299 r + 587 g + 114 b) / 1000` rounded down. -/
def luma (c : Rgb) : UInt8 :=
  ((c.r.toNat * 299 + c.g.toNat * 587 + c.b.toNat * 114) / 1000).toUInt8

theorem luma_grey (v : UInt8) : luma ⟨v, v, v⟩ = v := by
  unfold luma
  have h : v.toNat * 299 + v.toNat * 587 + v.toNat * 114 = v.toNat * 1000 := by omega
  rw [h, Nat.mul_div_cancel _ (by decide)]
  exact UInt8.ofNat_toNat

end Rgb

/-- a row-major RGB raster; `bytes` holds three bytes per pixel -/
structure Raster where
  width : Nat
  height : Nat
  bytes : ByteArray

namespace Raster

def filled (w h : Nat) (c : Rgb) : Raster :=
  ⟨w, h, ⟨(List.replicate (w * h) [c.r, c.g, c.b]).flatten.toArray⟩⟩

def blank (w h : Nat) : Raster :=
  ⟨w, h, ⟨Array.replicate (w * h * 3) 0⟩⟩

/-- whether `(x, y)` lies on the grid -/
def contains (r : Raster) (x y : Nat) : Prop := x < r.width ∧ y < r.height

instance (r : Raster) (x y : Nat) : Decidable (r.contains x y) := by
  unfold contains; infer_instance

/-- position of the first byte of pixel `(x, y)` -/
def offset (r : Raster) (x y : Nat) : Nat := (y * r.width + x) * 3

/-- byte `i` of the raster, zero past the end -/
def byte (r : Raster) (i : Nat) : UInt8 := r.bytes[i]?.getD 0

/-- the pixel at `(x, y)`, black off the grid -/
def pixel (r : Raster) (x y : Nat) : Rgb :=
  if r.contains x y then
    let i := r.offset x y
    ⟨r.byte i, r.byte (i + 1), r.byte (i + 2)⟩
  else Rgb.black

/-- Paint `(x, y)`; a point off the grid leaves the raster unchanged. -/
def setPixel (r : Raster) (x y : Nat) (c : Rgb) : Raster :=
  if r.contains x y then
    let i := r.offset x y
    { r with bytes := ((r.bytes.set! i c.r).set! (i + 1) c.g).set! (i + 2) c.b }
  else r

/-- Paint a point given in signed coordinates; negative or far points are skipped. -/
def plot (r : Raster) (x y : Int) (c : Rgb) : Raster :=
  if 0 ≤ x ∧ 0 ≤ y then r.setPixel x.toNat y.toNat c else r

/-- the pixels in row-major order -/
def pixels (r : Raster) : List Rgb :=
  (List.range r.height).flatMap fun y => (List.range r.width).map fun x => r.pixel x y

/-- Apply `f` to every pixel, keeping the size. -/
def map (r : Raster) (f : Rgb → Rgb) : Raster :=
  let step (acc : ByteArray) (k : Nat) : ByteArray :=
    let c := f ⟨r.byte (3 * k), r.byte (3 * k + 1), r.byte (3 * k + 2)⟩
    ((acc.push c.r).push c.g).push c.b
  ⟨r.width, r.height,
    (List.range (r.width * r.height)).foldl step (ByteArray.emptyWithCapacity (r.width * r.height * 3))⟩

/-- The clipped span `[max 0 start, min limit (start + len))` of a copy placed at `start`. -/
def span (start : Int) (len limit : Nat) : List Nat :=
  let lo : Int := max start 0
  let hi : Int := min (start + len) limit
  (List.range (hi - lo).toNat).map fun (k : Nat) => (lo + k).toNat

/-- Copy `top` onto `r` with its origin at `(x, y)`; only the overlap is written. -/
def paste (r top : Raster) (x y : Int) : Raster :=
  (span y top.height r.height).foldl (fun acc py =>
    (span x top.width r.width).foldl (fun acc px =>
      acc.setPixel px py (top.pixel (px - x).toNat (py - y).toNat)) acc) r

/-- Keep a raster of the requested size; otherwise paste it at the origin of a black canvas. -/
def fit (r : Raster) (w h : Nat) : Raster :=
  if r.width = w ∧ r.height = h then r else (blank w h).paste r 0 0

/-- Fill the rectangle with top-left `(x, y)` and size `w × h`, clipped to the grid. -/
def fillRect (r : Raster) (x y : Int) (w h : Nat) (c : Rgb) : Raster :=
  (span y h r.height).foldl (fun acc py =>
    (span x w r.width).foldl (fun acc px => acc.setPixel px py c) acc) r

end Raster

end OledPanel
