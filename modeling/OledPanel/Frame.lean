import OledPanel.Picture

/-!
# Panel frames

A frame is the buffer a panel receives: RGB at three bytes a pixel, or one byte a pixel holding
the luma (`luma` mode) or a lit/unlit level (`binary` mode, lit when the luma is at least 128).

`Frame.ofRaster` converts a raster in one of the three modes, `Frame.black` is the all-zero frame,
`Frame.brightness` reads one pixel's level back, and `Frame.toPicture` views the buffer as an RGB or
grey picture.
-/

namespace OledPanel

/-- how a frame encodes a pixel -/
inductive Mode where
  | rgb
  | luma
  | binary
  deriving DecidableEq, Repr, Inhabited

namespace Mode

/-- bytes per pixel -/
def depth : Mode → Nat
  | rgb => 3
  | luma | binary => 1

end Mode

/-- the luma level at which a binary pixel lights -/
def litThreshold : UInt8 := 128

/-- a panel buffer: the pixels row-major, `mode.depth` bytes each -/
structure Frame where
  width : Nat
  height : Nat
  mode : Mode
  bytes : ByteArray

namespace Frame

/-- the single byte that stands for a colour in a one-byte mode -/
def level (m : Mode) (c : Rgb) : UInt8 :=
  match m with
  | .binary => if c.luma ≥ litThreshold then 0xFF else 0x00
  | _ => c.luma

/-- Encode a raster in a mode. -/
def ofRaster (r : Raster) (m : Mode) : Frame :=
  match m with
  | .rgb => ⟨r.width, r.height, .rgb, r.bytes⟩
  | _ => ⟨r.width, r.height, m, ⟨(r.pixels.map (level m)).toArray⟩⟩

/-- the frame with every byte zero -/
def black (w h : Nat) (m : Mode) : Frame :=
  ⟨w, h, m, ⟨Array.replicate (w * h * m.depth) 0⟩⟩

/-- byte `i` of the buffer, zero past the end -/
def byte (f : Frame) (i : Nat) : UInt8 := f.bytes[i]?.getD 0

/-- The level of pixel `(x, y)`: its luma for RGB frames, its byte otherwise; `none` off the frame. -/
def brightness (f : Frame) (x y : Nat) : Option UInt8 :=
  if x < f.width ∧ y < f.height then
    let i := (y * f.width + x) * f.mode.depth
    match f.mode with
    | .rgb => some (Rgb.luma ⟨f.byte i, f.byte (i + 1), f.byte (i + 2)⟩)
    | _ => some (f.byte i)
  else none

def isBlack (f : Frame) : Bool := f.bytes.data.all (· == 0)

def size (f : Frame) : Nat × Nat := (f.width, f.height)

/-- The buffer as a picture: RGB for RGB frames and grey otherwise. Bytes past the pixels are
carried along unread; a buffer too short for the frame gives a black grey picture of its size. -/
def toPicture (f : Frame) : Picture :=
  let ch : Channels := if f.mode = .rgb then .rgb else .grey
  if f.width * f.height * ch.count ≤ f.bytes.size then Picture.ofBytes f.width f.height ch f.bytes
  else ⟨f.width, f.height, .grey, false, Array.replicate (f.width * f.height) 0⟩

theorem isBlack_black (w h : Nat) (m : Mode) : (black w h m).isBlack = true := by
  simp only [isBlack, black]
  rw [Array.all_eq_true]
  intro i hi
  simp

end Frame

end OledPanel
