import OledPanel.Raster

/-!
# Lanczos resampling

`Raster.resample r w h` scales a raster to `w × h` with the Lanczos window of radius 3, in
single-precision arithmetic: first every column is resampled to the new height into unrounded
channel values, then every row of that intermediate grid to the new width, and only then are the
values clamped to `[0, 255]` and rounded half away from zero.

For each output position the taps are the source samples within `3 · max 1 (in / out)` of the
position's centre, and their weights are the window's values divided by their sum, so a constant
raster stays constant up to rounding. A raster that already has the size is returned as it is,
and an empty raster scales to black.
-/

namespace OledPanel

namespace Lanczos

def pi : Float32 := Float32.ofBits 0x40490fdb

def sinc (t : Float32) : Float32 :=
  if t == 0 then 1 else
    let a := t * pi
    a.sin / a

/-- the window of radius 3: `sinc x · sinc (x / 3)` inside, 0 outside -/
def kernel (x : Float32) : Float32 :=
  if x.abs < 3 then sinc x * sinc (x / 3) else 0

/-- The taps of one output position: the first source index and the normalised weights. -/
structure Taps where
  left : Nat
  weights : Array Float32

/-- A float of integral value as an integer, saturating like a cast to a 64-bit word. -/
def toInt (v : Float32) : Int := v.toInt64.toInt

/-- The taps for output position `o` when `src` samples become `dst`; requires `src > 0`. -/
def taps (src dst o : Nat) : Taps :=
  let ratio : Float32 := src.toFloat32 / dst.toFloat32
  let sratio : Float32 := if ratio < 1 then 1 else ratio
  let support : Float32 := 3 * sratio
  let centre : Float32 := (o.toFloat32 + 0.5) * ratio
  let left : Int := max 0 (min (toInt (centre - support).floor) (src - 1 : Int))
  let right : Int := max (left + 1) (min (toInt (centre + support).ceil) src)
  let centre := centre - 0.5
  let ws := (List.range (right - left).toNat).map fun k =>
    kernel (((left.toNat + k).toFloat32 - centre) / sratio)
  let sum := ws.foldl (· + ·) 0
  ⟨left.toNat, (ws.map (· / sum)).toArray⟩

/-- The weighted sum `Σ value (left + i) · weights[i]`, accumulated in tap order. -/
def apply (t : Taps) (value : Nat → Float32) : Float32 :=
  t.weights.foldl (fun (acc : Float32 × Nat) w => (acc.1 + value (t.left + acc.2) * w, acc.2 + 1))
    (0, 0) |>.1

/-- A resampled value as a byte: clamped to `[0, 255]`, then rounded half away from zero. -/
def toByte (v : Float32) : UInt8 :=
  let c := if v < 0 then 0 else if v > 255 then 255 else v
  c.round.toUInt8

end Lanczos

namespace Raster

/-- Scale a raster to `w × h` with the Lanczos window of radius 3. -/
def resample (r : Raster) (w h : Nat) : Raster :=
  if r.width = 0 ∨ r.height = 0 then blank w h
  else if r.width = w ∧ r.height = h then r
  else
    let sw := r.width
    let rowTaps := (Array.range h).map (Lanczos.taps r.height h)
    -- columns first: `tall` holds the unrounded channels of a `sw × h` grid
    let tall : Array Float32 := (Array.range (h * sw * 3)).map fun k =>
      let c := k % 3
      let x := k / 3 % sw
      let oy := k / 3 / sw
      Lanczos.apply (rowTaps[oy]?.getD ⟨0, #[]⟩) fun y => (r.byte ((y * sw + x) * 3 + c)).toFloat32
    let colTaps := (Array.range w).map (Lanczos.taps sw w)
    let bytes : Array UInt8 := (Array.range (h * w * 3)).map fun k =>
      let c := k % 3
      let ox := k / 3 % w
      let y := k / 3 / w
      Lanczos.toByte <| Lanczos.apply (colTaps[ox]?.getD ⟨0, #[]⟩) fun x =>
        tall[(y * sw + x) * 3 + c]?.getD 0
    ⟨w, h, ⟨bytes⟩⟩

end Raster

end OledPanel
