import OledPanel.Raster

/-!
# The fixed 6 × 10 bitmap face

The built-in face draws printable ASCII in cells six pixels wide and ten tall, one row a byte
with the leftmost column in the top bit. Every other character, control characters included,
draws as the question mark; a line feed starts a new line ten pixels further down, back at the
starting column. Only the set pixels of a glyph are painted, so text is drawn over whatever the
raster holds, and pixels off the raster are dropped.
-/

namespace OledPanel

namespace Fixed

def cellWidth : Nat := 6

def cellHeight : Nat := 10

/-- the glyph rows of the characters from space to tilde, in code order -/
def glyphs : Array (Array UInt8) := #[
  #[0x00, 0x00, 0x00, 0x00, 0x00, 0x00, 0x00, 0x00, 0x00, 0x00],
  #[0x00, 0x20, 0x20, 0x20, 0x20, 0x20, 0x00, 0x20, 0x00, 0x00],
  #[0x00, 0x50, 0x50, 0x50, 0x00, 0x00, 0x00, 0x00, 0x00, 0x00],
  #[0x00, 0x50, 0x50, 0xf8, 0x50, 0xf8, 0x50, 0x50, 0x00, 0x00],
  #[0x00, 0x20, 0x70, 0xa0, 0x70, 0x28, 0x70, 0x20, 0x00, 0x00],
  #[0x00, 0x48, 0xa8, 0x50, 0x20, 0x50, 0xa8, 0x90, 0x00, 0x00],
  #[0x00, 0x40, 0xa0, 0xa0, 0x40, 0xa8, 0x90, 0x68, 0x00, 0x00],
  #[0x00, 0x20, 0x20, 0x20, 0x00, 0x00, 0x00, 0x00, 0x00, 0x00],
  #[0x00, 0x10, 0x20, 0x40, 0x40, 0x40, 0x20, 0x10, 0x00, 0x00],
  #[0x00, 0x40, 0x20, 0x10, 0x10, 0x10, 0x20, 0x40, 0x00, 0x00],
  #[0x00, 0x00, 0x88, 0x50, 0xf8, 0x50, 0x88, 0x00, 0x00, 0x00],
  #[0x00, 0x00, 0x20, 0x20, 0xf8, 0x20, 0x20, 0x00, 0x00, 0x00],
  #[0x00, 0x00, 0x00, 0x00, 0x00, 0x00, 0x30, 0x20, 0x40, 0x00],
  #[0x00, 0x00, 0x00, 0x00, 0xf8, 0x00, 0x00, 0x00, 0x00, 0x00],
  #[0x00, 0x00, 0x00, 0x00, 0x00, 0x00, 0x20, 0x70, 0x20, 0x00],
  #[0x00, 0x08, 0x08, 0x10, 0x20, 0x40, 0x80, 0x80, 0x00, 0x00],
  #[0x00, 0x20, 0x50, 0x88, 0x88, 0x88, 0x50, 0x20, 0x00, 0x00],
  #[0x00, 0x20, 0x60, 0xa0, 0x20, 0x20, 0x20, 0xf8, 0x00, 0x00],
  #[0x00, 0x70, 0x88, 0x08, 0x30, 0x40, 0x80, 0xf8, 0x00, 0x00],
  #[0x00, 0xf8, 0x08, 0x10, 0x30, 0x08, 0x88, 0x70, 0x00, 0x00],
  #[0x00, 0x10, 0x30, 0x50, 0x90, 0xf8, 0x10, 0x10, 0x00, 0x00],
  #[0x00, 0xf8, 0x80, 0xb0, 0xc8, 0x08, 0x88, 0x70, 0x00, 0x00],
  #[0x00, 0x30, 0x40, 0x80, 0xb0, 0xc8, 0x88, 0x70, 0x00, 0x00],
  #[0x00, 0xf8, 0x08, 0x10, 0x10, 0x20, 0x40, 0x40, 0x00, 0x00],
  #[0x00, 0x70, 0x88, 0x88, 0x70, 0x88, 0x88, 0x70, 0x00, 0x00],
  #[0x00, 0x70, 0x88, 0x98, 0x68, 0x08, 0x10, 0x60, 0x00, 0x00],
  #[0x00, 0x00, 0x20, 0x70, 0x20, 0x00, 0x20, 0x70, 0x20, 0x00],
  #[0x00, 0x00, 0x20, 0x70, 0x20, 0x00, 0x30, 0x20, 0x40, 0x00],
  #[0x00, 0x10, 0x20, 0x40, 0x80, 0x40, 0x20, 0x10, 0x00, 0x00],
  #[0x00, 0x00, 0x00, 0xf8, 0x00, 0xf8, 0x00, 0x00, 0x00, 0x00],
  #[0x00, 0x40, 0x20, 0x10, 0x08, 0x10, 0x20, 0x40, 0x00, 0x00],
  #[0x00, 0x70, 0x88, 0x10, 0x20, 0x20, 0x00, 0x20, 0x00, 0x00],
  #[0x00, 0x70, 0x88, 0x98, 0xa8, 0xb0, 0x80, 0x70, 0x00, 0x00],
  #[0x00, 0x20, 0x50, 0x88, 0x88, 0xf8, 0x88, 0x88, 0x00, 0x00],
  #[0x00, 0xf0, 0x48, 0x48, 0x70, 0x48, 0x48, 0xf0, 0x00, 0x00],
  #[0x00, 0x70, 0x88, 0x80, 0x80, 0x80, 0x88, 0x70, 0x00, 0x00],
  #[0x00, 0xf0, 0x48, 0x48, 0x48, 0x48, 0x48, 0xf0, 0x00, 0x00],
  #[0x00, 0xf8, 0x80, 0x80, 0xf0, 0x80, 0x80, 0xf8, 0x00, 0x00],
  #[0x00, 0xf8, 0x80, 0x80, 0xf0, 0x80, 0x80, 0x80, 0x00, 0x00],
  #[0x00, 0x70, 0x88, 0x80, 0x80, 0x98, 0x88, 0x70, 0x00, 0x00],
  #[0x00, 0x88, 0x88, 0x88, 0xf8, 0x88, 0x88, 0x88, 0x00, 0x00],
  #[0x00, 0x70, 0x20, 0x20, 0x20, 0x20, 0x20, 0x70, 0x00, 0x00],
  #[0x00, 0x38, 0x10, 0x10, 0x10, 0x10, 0x90, 0x60, 0x00, 0x00],
  #[0x00, 0x88, 0x90, 0xa0, 0xc0, 0xa0, 0x90, 0x88, 0x00, 0x00],
  #[0x00, 0x80, 0x80, 0x80, 0x80, 0x80, 0x80, 0xf8, 0x00, 0x00],
  #[0x00, 0x88, 0xd8, 0xa8, 0xa8, 0x88, 0x88, 0x88, 0x00, 0x00],
  #[0x00, 0x88, 0x88, 0xc8, 0xa8, 0x98, 0x88, 0x88, 0x00, 0x00],
  #[0x00, 0x70, 0x88, 0x88, 0x88, 0x88, 0x88, 0x70, 0x00, 0x00],
  #[0x00, 0xf0, 0x88, 0x88, 0xf0, 0x80, 0x80, 0x80, 0x00, 0x00],
  #[0x00, 0x70, 0x88, 0x88, 0x88, 0x88, 0xa8, 0x70, 0x08, 0x00],
  #[0x00, 0xf0, 0x88, 0x88, 0xf0, 0xa0, 0x90, 0x88, 0x00, 0x00],
  #[0x00, 0x70, 0x88, 0x80, 0x70, 0x08, 0x88, 0x70, 0x00, 0x00],
  #[0x00, 0xf8, 0x20, 0x20, 0x20, 0x20, 0x20, 0x20, 0x00, 0x00],
  #[0x00, 0x88, 0x88, 0x88, 0x88, 0x88, 0x88, 0x70, 0x00, 0x00],
  #[0x00, 0x88, 0x88, 0x88, 0x50, 0x50, 0x50, 0x20, 0x00, 0x00],
  #[0x00, 0x88, 0x88, 0x88, 0xa8, 0xa8, 0xd8, 0x88, 0x00, 0x00],
  #[0x00, 0x88, 0x88, 0x50, 0x20, 0x50, 0x88, 0x88, 0x00, 0x00],
  #[0x00, 0x88, 0x88, 0x50, 0x20, 0x20, 0x20, 0x20, 0x00, 0x00],
  #[0x00, 0xf8, 0x08, 0x10, 0x20, 0x40, 0x80, 0xf8, 0x00, 0x00],
  #[0x00, 0x70, 0x40, 0x40, 0x40, 0x40, 0x40, 0x70, 0x00, 0x00],
  #[0x00, 0x80, 0x80, 0x40, 0x20, 0x10, 0x08, 0x08, 0x00, 0x00],
  #[0x00, 0x70, 0x10, 0x10, 0x10, 0x10, 0x10, 0x70, 0x00, 0x00],
  #[0x00, 0x20, 0x50, 0x88, 0x00, 0x00, 0x00, 0x00, 0x00, 0x00],
  #[0x00, 0x00, 0x00, 0x00, 0x00, 0x00, 0x00, 0x00, 0xf8, 0x00],
  #[0x20, 0x10, 0x00, 0x00, 0x00, 0x00, 0x00, 0x00, 0x00, 0x00],
  #[0x00, 0x00, 0x00, 0x70, 0x08, 0x78, 0x88, 0x78, 0x00, 0x00],
  #[0x00, 0x80, 0x80, 0xb0, 0xc8, 0x88, 0xc8, 0xb0, 0x00, 0x00],
  #[0x00, 0x00, 0x00, 0x70, 0x88, 0x80, 0x88, 0x70, 0x00, 0x00],
  #[0x00, 0x08, 0x08, 0x68, 0x98, 0x88, 0x98, 0x68, 0x00, 0x00],
  #[0x00, 0x00, 0x00, 0x70, 0x88, 0xf8, 0x80, 0x70, 0x00, 0x00],
  #[0x00, 0x30, 0x48, 0x40, 0xf0, 0x40, 0x40, 0x40, 0x00, 0x00],
  #[0x00, 0x00, 0x00, 0x78, 0x88, 0x88, 0x78, 0x08, 0x88, 0x70],
  #[0x00, 0x80, 0x80, 0xb0, 0xc8, 0x88, 0x88, 0x88, 0x00, 0x00],
  #[0x00, 0x20, 0x00, 0x60, 0x20, 0x20, 0x20, 0x70, 0x00, 0x00],
  #[0x00, 0x08, 0x00, 0x18, 0x08, 0x08, 0x08, 0x88, 0x88, 0x70],
  #[0x00, 0x80, 0x80, 0x88, 0x90, 0xe0, 0x90, 0x88, 0x00, 0x00],
  #[0x00, 0x60, 0x20, 0x20, 0x20, 0x20, 0x20, 0x70, 0x00, 0x00],
  #[0x00, 0x00, 0x00, 0xd0, 0xa8, 0xa8, 0xa8, 0x88, 0x00, 0x00],
  #[0x00, 0x00, 0x00, 0xb0, 0xc8, 0x88, 0x88, 0x88, 0x00, 0x00],
  #[0x00, 0x00, 0x00, 0x70, 0x88, 0x88, 0x88, 0x70, 0x00, 0x00],
  #[0x00, 0x00, 0x00, 0xb0, 0xc8, 0x88, 0xc8, 0xb0, 0x80, 0x80],
  #[0x00, 0x00, 0x00, 0x68, 0x98, 0x88, 0x98, 0x68, 0x08, 0x08],
  #[0x00, 0x00, 0x00, 0xb0, 0xc8, 0x80, 0x80, 0x80, 0x00, 0x00],
  #[0x00, 0x00, 0x00, 0x70, 0x80, 0x70, 0x08, 0xf0, 0x00, 0x00],
  #[0x00, 0x40, 0x40, 0xf0, 0x40, 0x40, 0x48, 0x30, 0x00, 0x00],
  #[0x00, 0x00, 0x00, 0x88, 0x88, 0x88, 0x98, 0x68, 0x00, 0x00],
  #[0x00, 0x00, 0x00, 0x88, 0x88, 0x88, 0x50, 0x20, 0x00, 0x00],
  #[0x00, 0x00, 0x00, 0x88, 0x88, 0xa8, 0xa8, 0x50, 0x00, 0x00],
  #[0x00, 0x00, 0x00, 0x88, 0x50, 0x20, 0x50, 0x88, 0x00, 0x00],
  #[0x00, 0x00, 0x00, 0x88, 0x88, 0x98, 0x68, 0x08, 0x88, 0x70],
  #[0x00, 0x00, 0x00, 0xf8, 0x10, 0x20, 0x40, 0xf8, 0x00, 0x00],
  #[0x00, 0x18, 0x20, 0x10, 0x60, 0x10, 0x20, 0x18, 0x00, 0x00],
  #[0x00, 0x20, 0x20, 0x20, 0x20, 0x20, 0x20, 0x20, 0x00, 0x00],
  #[0x00, 0xc0, 0x20, 0x40, 0x30, 0x40, 0x20, 0xc0, 0x00, 0x00],
  #[0x00, 0x48, 0xa8, 0x90, 0x00, 0x00, 0x00, 0x00, 0x00, 0x00]
]

/-- The rows of the glyph drawn for a character: its own for printable ASCII, the question
mark's otherwise. -/
def rows (c : Char) : Array UInt8 :=
  let code := if 32 ≤ c.toNat ∧ c.toNat ≤ 126 then c.toNat else '?'.toNat
  glyphs[code - 32]?.getD #[]

def inked (c : Char) : List (Nat × Nat) :=
  (List.range cellHeight).flatMap fun y =>
    ((List.range cellWidth).filter fun x =>
      ((rows c)[y]?.getD 0).toNat.testBit (7 - x)).map fun x => (x, y)

end Fixed

namespace Raster

def drawFixedGlyph (r : Raster) (c : Char) (x y : Int) (ink : Rgb) : Raster :=
  (Fixed.inked c).foldl (fun r p => r.plot (x + p.1) (y + p.2) ink) r

def drawFixedLine (r : Raster) (line : List Char) (x y : Int) (ink : Rgb) : Raster :=
  (line.zipIdx.foldl fun r (c, k) =>
    r.drawFixedGlyph c (x + Fixed.cellWidth * k) y ink) r

/-- Paint text in the fixed face with its top-left corner at `(x, y)`; each line feed moves one
line pitch down. -/
def drawFixed (r : Raster) (text : String) (x y : Int) (ink : Rgb) : Raster :=
  ((text.toList.splitOn '\n').zipIdx.foldl fun r (line, k) =>
    r.drawFixedLine line x (y + Fixed.cellHeight * k) ink) r

end Raster

end OledPanel
