import OledPanel.Font.Coverage
import OledPanel.Raster

/-!
# Setting text in an outline face

`Raster.drawOutlineText` lays a line of text out on a baseline and paints each glyph's coverage
over the raster.

* The em square is `size` pixels: the face is scaled by `size · (ascender − descender) / em`
  pixels per ascender-to-descender height, or by `size` itself when either measure is not
  positive.
* The baseline lies one scaled ascender below the requested top edge.
* Control characters are skipped. Before each glyph the pen moves by the pair kerning with the
  glyph before it, and after it by the glyph's advance width.
* Each glyph is rasterised in the smallest pixel box that holds its scaled bounding box, and a
  pixel with coverage `c` becomes `round (bg · (1 − c) + ink · c)` per channel.
-/

namespace OledPanel

/-- Pixels per font unit, horizontally and vertically alike, for an em of `size` pixels. -/
def Face.unitScale (f : Face) (size : Float32) : Float32 :=
  let height := Float32.ofInt f.ascender - Float32.ofInt f.descender
  let em := Float32.ofNat f.unitsPerEm
  let px := if em > 0 ∧ height > 0 then size * height / em else size
  px / height

/-- a glyph placed for painting: its outline, the pen position and the scale -/
structure PlacedGlyph where
  outline : Outline
  x : Float32
  y : Float32
  scale : Float32

/-- Whether a character is a control character (the C0 and C1 ranges and delete). -/
def isControl (c : Char) : Bool := c.toNat < 0x20 ∨ (0x7F ≤ c.toNat ∧ c.toNat < 0xA0)

/-- Lay out a line: the glyphs with outlines, each at its pen position on the baseline. -/
def Face.layout (f : Face) (size : Float32) (text : String) (x y : Int) : List PlacedGlyph :=
  let k := f.unitScale size
  let baseline := Float32.ofInt y + k * Float32.ofInt f.ascender
  let step (acc : Float32 × Option Nat × List PlacedGlyph) (c : Char) :
      Float32 × Option Nat × List PlacedGlyph :=
    let (caret, prev, out) := acc
    if isControl c then acc else
    let g := f.glyphOf c
    let caret := match prev with
      | some p => caret + k * Float32.ofInt (f.kern p g)
      | none => caret
    let out := match Outline.ofGlyph f g with
      | some o => ⟨o, caret, baseline, k⟩ :: out
      | none => out
    (caret + k * Float32.ofNat (f.advance g), some g, out)
  (text.toList.foldl step (Float32.ofInt x, none, [])).2.2.reverse

def blendChannel (bg ink : UInt8) (c : Float32) : UInt8 :=
  (bg.toFloat32 * (1 - c) + ink.toFloat32 * c).round.toUInt8

namespace Raster

def paintGlyph (r : Raster) (g : PlacedGlyph) (ink : Rgb) : Raster :=
  let h := g.scale
  let v := -g.scale
  let o := g.outline
  let minX := (Float32.ofInt o.xMin * h + g.x).floor
  let minY := (Float32.ofInt o.yMax * v + g.y).floor
  let maxX := (Float32.ofInt o.xMax * h + g.x).ceil
  let maxY := (Float32.ofInt o.yMin * v + g.y).ceil
  let w := Float32.index (maxX - minX)
  let ht := Float32.index (maxY - minY)
  let dx := g.x - minX
  let dy := g.y - minY
  let place (p : Vec2) : Vec2 := ⟨p.x * h + dx, p.y * v + dy⟩
  let cov := o.curves.foldl (fun c curve =>
    match curve with
    | .line p0 p1 => c.line (place p0) (place p1)
    | .quad p0 p1 p2 => c.quad (place p0) (place p1) (place p2)) (Coverage.empty w ht)
  let ox := Float32.whole minX
  let oy := Float32.whole minY
  let paint (acc : Raster × Nat) (c : Float32) : Raster × Nat :=
    let (r, i) := acc
    let px := ox + (i % w : Nat)
    let py := oy + (i / w : Nat)
    let r :=
      if c == 0 ∨ px < 0 ∨ py < 0 then r else
      let bg := r.pixel px.toNat py.toNat
      r.setPixel px.toNat py.toNat
        ⟨blendChannel bg.r ink.r c, blendChannel bg.g ink.g c, blendChannel bg.b ink.b c⟩
    (r, i + 1)
  (cov.levels.foldl paint (r, 0)).1

/-- Paint a line of text in an outline face with its top-left corner at `(x, y)`. -/
def drawOutlineText (r : Raster) (f : Face) (size : Float32) (text : String) (x y : Int)
    (ink : Rgb) : Raster :=
  (f.layout size text x y).foldl (fun r g => r.paintGlyph g ink) r

end Raster

end OledPanel
