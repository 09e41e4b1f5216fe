import OledPanel.Image.Png.Chunk
import OledPanel.Picture

/-!
# PNG scanlines

Decompressed PNG data is a run of rows, each a filter type byte and the row's bytes, filtered
against the byte one pixel to the left and the row above. An interlaced image sends seven
passes, each a smaller image of every eighth, fourth or second pixel.

`Png.unfilterRows` undoes the filters of as many whole rows as the data holds, failing at the
first unknown filter type; `Png.toPicture` then widens the samples: depths below eight are
scaled to eight bits, a palette is looked up, and a transparency chunk becomes an alpha channel.
Sixteen-bit samples stay sixteen bits. A grey or RGB pixel is transparent when its samples are
the kept transparency byte for byte, so a sixteen-bit transparency of the wrong length matches
nothing; a palette entry past the palette is opaque black.
-/

namespace OledPanel

namespace Png

/-- the colour information that travels with the header -/
structure Palette where
  /-- the palette chunk's body: red, green and blue of each entry -/
  colours : Option ByteArray
  /-- the transparency as kept: for grey and RGB below sixteen bits the low byte of each
  field, at sixteen bits the chunk's whole body, and for a palette one alpha per entry -/
  transparency : Option ByteArray

def rowBytes (hd : Header) (w : Nat) : Nat := (w * hd.colour.samples * hd.depth + 7) / 8

def stride (hd : Header) : Nat := max 1 (hd.colour.samples * hd.depth / 8)

/-- the passes of an interlaced image: first column and row, and the steps between them -/
def passes : List (Nat × Nat × Nat × Nat) :=
  [(0, 0, 8, 8), (4, 0, 8, 8), (0, 4, 4, 8), (2, 0, 4, 4), (0, 2, 2, 4), (1, 0, 2, 2), (0, 1, 1, 2)]

def passCount (n a d : Nat) : Nat := (n + d - 1 - a) / d

/-- the sizes of the sub-images that are sent, in order: the image itself, or its passes -/
def subImages (hd : Header) : List (Nat × Nat) :=
  if hd.interlaced then
    (passes.map fun (x0, y0, dx, dy) => (passCount hd.width x0 dx, passCount hd.height y0 dy)).filter
      fun (w, h) => w > 0 ∧ h > 0
  else [(hd.width, hd.height)]

def dataSize (hd : Header) : Nat :=
  (subImages hd).foldl (fun acc (w, h) => acc + h * (1 + rowBytes hd w)) 0

/-- The predictor that is closest to the sum of the left and upper bytes less the corner. -/
def paeth (a b c : UInt8) : UInt8 :=
  let p : Int := a.toNat + b.toNat - c.toNat
  let pa := (p - a.toNat).natAbs
  let pb := (p - b.toNat).natAbs
  let pc := (p - c.toNat).natAbs
  if pa ≤ pb ∧ pa ≤ pc then a else if pb ≤ pc then b else c

/-- Undo a row's filter against the row above. -/
def unfilter (kind : Nat) (bpp : Nat) (above row : ByteArray) : Except PngError ByteArray :=
  let up (i : Nat) : UInt8 := above[i]?.getD 0
  let step (f : ByteArray → Nat → UInt8) : ByteArray :=
    (List.range row.size).foldl (fun out i => out.push (row[i]?.getD 0 + f out i))
      (ByteArray.emptyWithCapacity row.size)
  let left (out : ByteArray) (i : Nat) : UInt8 := if i ≥ bpp then out[i - bpp]?.getD 0 else 0
  match kind with
  | 0 => .ok row
  | 1 => .ok (step left)
  | 2 => .ok (step fun _ i => up i)
  | 3 => .ok (step fun out i => ((left out i).toNat + (up i).toNat) / 2 |>.toUInt8)
  | 4 => .ok (step fun out i => paeth (left out i) (up i) (if i ≥ bpp then up (i - bpp) else 0))
  | n => .error (.unknownFilter n)

/-- Undo the filters of the rows of a `w`-pixel sub-image from `pos`, at most `h` rows and only
whole ones: the rows and the position after them. -/
def unfilterImage (hd : Header) (data : ByteArray) (w : Nat) :
    Nat → Nat → ByteArray → Array ByteArray → Except PngError (Array ByteArray × Nat)
  | 0, pos, _, acc => .ok (acc, pos)
  | h + 1, pos, above, acc =>
    let n := rowBytes hd w
    if pos + 1 + n ≤ data.size then do
      let row ← unfilter (data[pos]?.getD 0).toNat (stride hd) above (data.extract (pos + 1) (pos + 1 + n))
      unfilterImage hd data w h (pos + 1 + n) row (acc.push row)
    else .ok (acc, pos)

/-- Undo the filters of every whole row the data holds, sub-image by sub-image. -/
def unfilterRows (hd : Header) (data : ByteArray) : Except PngError (List (Array ByteArray)) := do
  let (images, _) ← (subImages hd).foldlM (fun (acc, pos) (w, h) => do
      let (rows, pos) ← unfilterImage hd data w h pos ByteArray.empty #[]
      pure (acc ++ [rows], pos)) (([] : List (Array ByteArray)), 0)
  pure images

def sampleOf (hd : Header) (row : ByteArray) (i : Nat) : Nat :=
  if hd.depth = 16 then (row[2 * i]?.getD 0).toNat * 256 + (row[2 * i + 1]?.getD 0).toNat
  else if hd.depth = 8 then (row[i]?.getD 0).toNat
  else
    let bit := i * hd.depth
    let byte := (row[bit / 8]?.getD 0).toNat
    (byte >>> (8 - hd.depth - bit % 8)) % Nat.pow 2 hd.depth

def locate (hd : Header) (x y : Nat) : Nat × Nat × Nat :=
  if hd.interlaced then
    let sent := (passes.filter fun (x0, y0, dx, dy) =>
      passCount hd.width x0 dx > 0 ∧ passCount hd.height y0 dy > 0)
    let hit := sent.findIdx? fun (x0, y0, dx, dy) =>
      x ≥ x0 ∧ (x - x0) % dx = 0 ∧ y ≥ y0 ∧ (y - y0) % dy = 0
    match hit with
    | some k =>
      let (x0, y0, dx, dy) := sent[k]?.getD (0, 0, 1, 1)
      (k, (x - x0) / dx, (y - y0) / dy)
    | none => (0, x, y)
  else (0, x, y)

/-- The picture of unfiltered rows: samples widened to at least eight bits, palettes looked up,
transparency turned into alpha. -/
def toPicture (hd : Header) (pal : Palette) (images : List (Array ByteArray)) : Picture :=
  let wide := hd.depth = 16
  let top : Nat := if wide then 65535 else 255
  let scale : Nat := if hd.depth < 8 then 255 / (Nat.pow 2 hd.depth - 1) else 1
  let raw (x y : Nat) : List Nat :=
    let (k, px, py) := locate hd x y
    let row := ((images[k]?.getD #[])[py]?).getD ByteArray.empty
    (List.range hd.colour.samples).map fun c => sampleOf hd row (px * hd.colour.samples + c)
  let keyed := pal.transparency.isSome
  let key := (pal.transparency.map fun t => t.toList.map UInt8.toNat).getD []
  -- a pixel is transparent when its samples, as bytes, are the kept transparency exactly
  let bytesOf (vs : List Nat) : List Nat := if wide then vs.flatMap fun v => [v / 256, v % 256] else vs
  let opacity (vs : List Nat) : Nat := if bytesOf vs = key then 0 else top
  let (channels, pixel) : Channels × (Nat → Nat → List Nat) := match hd.colour with
    | .grey =>
      if keyed then (.greyAlpha, fun x y => let v := raw x y; [v.headD 0 * scale, opacity (v.take 1)])
      else (.grey, fun x y => [(raw x y).headD 0 * scale])
    | .rgb => if keyed then (.rgba, fun x y => let v := raw x y; v ++ [opacity v]) else (.rgb, raw)
    | .indexed =>
      let colours := pal.colours.getD ByteArray.empty
      -- more alphas than entries make the whole transparency void
      let alphas := (pal.transparency.filter (·.size ≤ colours.size / 3)).getD ByteArray.empty
      let entry (i : Nat) : List Nat :=
        if 3 * i + 2 < colours.size then
          [(colours[3 * i]?.getD 0).toNat, (colours[3 * i + 1]?.getD 0).toNat,
            (colours[3 * i + 2]?.getD 0).toNat]
        else [0, 0, 0]
      if keyed then
        (.rgba, fun x y => let i := (raw x y).headD 0; entry i ++ [(alphas[i]?.getD 255).toNat])
      else (.rgb, fun x y => entry ((raw x y).headD 0))
    | .greyAlpha => (.greyAlpha, raw)
    | .rgba => (.rgba, raw)
  let samples := (List.range hd.height).foldl (fun acc y =>
    (List.range hd.width).foldl (fun acc x =>
      (pixel x y).foldl (fun acc v => acc.push v.toUInt16) acc) acc)
    (Array.mkEmpty (hd.width * hd.height * channels.count))
  ⟨hd.width, hd.height, channels, wide, samples⟩

theorem passCount_one (n : Nat) : passCount n 0 1 = n := by
  simp [passCount]

end Png

end OledPanel
