import OledPanel.Display.Memory
import OledPanel.Picture

/-!
# Screens

A screen is a display together with its generation: the number of frames it has shown. Every
frame that the display keeps moves the generation on by one, and the operations that show
something answer the new generation. A caller that remembers the generation of what it showed
can later clear the screen only if nothing newer has been shown since: that is how a timed clear
leaves newer content alone.

Rasters are checked against the screen's size before anything is sent, so a raster of the wrong
size is never a transmission. A frame in the screen's own mode goes to the display as it is; a
frame in another mode is read back as an image and encoded again.

The operations run in `ScreenM`, where a failure keeps the state that the display reached: a
refused transmission still counts.
-/

namespace OledPanel

/-- a display and the number of frames it has shown -/
structure Screen where
  display : MemoryDisplay
  generation : Nat := 0

/-- computations on a screen that may fail, keeping the screen they reached -/
abbrev ScreenM := ExceptT PanelError (StateM Screen)

namespace Screen

def width (s : Screen) : Nat := s.display.width

def height (s : Screen) : Nat := s.display.height

def mode (s : Screen) : Mode := s.display.mode

def blank (s : Screen) : Raster := Raster.blank s.width s.height

/-- Send a frame; when the display keeps it, the generation moves on and is answered. -/
def transmit (f : Frame) : ScreenM Nat := do
  let s ← get
  match s.display.transmit f with
  | (.error e, d) =>
    set { s with display := d }
    throw e
  | (.ok (), d) =>
    let g := s.generation + 1
    set { s with display := d, generation := g }
    pure g

/-- Show a raster of the screen's size, encoded in the screen's mode. -/
def blit (r : Raster) : ScreenM Nat := do
  let s ← get
  if r.width = s.width ∧ r.height = s.height then transmit (Frame.ofRaster r s.mode)
  else throw (.frameSize r.width r.height s.width s.height)

/-- Show a frame: as it is in the screen's mode, else through its image. -/
def blitFrame (f : Frame) : ScreenM Nat := do
  let s ← get
  if f.mode = s.mode then transmit f else blit f.toPicture.toRaster

/-- Show a black frame. -/
def clear : ScreenM Nat := do
  let s ← get
  transmit (Frame.black s.width s.height s.mode)

/-- Clear the screen if its generation is still `g`; answer whether it was cleared. -/
def clearIfCurrent (g : Nat) : ScreenM Bool := do
  let s ← get
  if s.generation = g then
    let _ ← clear
    pure true
  else pure false

/-- Build a raster for the screen's size and show it. -/
def compose (build : Nat → Nat → Except PanelError Raster) : ScreenM Nat := do
  let s ← get
  match build s.width s.height with
  | .ok r => blit r
  | .error e => throw e

/-- A generation the screen has not reached clears nothing and changes nothing. -/
theorem clearIfCurrent_ahead (s : Screen) :
    (clearIfCurrent (s.generation + 1)).run.run s = (.ok false, s) := by
  -- after reading the state, the generation is behind the one asked for
  have h : ¬s.generation = s.generation + 1 := Nat.ne_of_lt (Nat.lt_succ_self _)
  show (if s.generation = s.generation + 1 then (do let _ ← clear; pure true : ScreenM Bool)
    else pure false).run.run s = _
  rw [if_neg h]
  rfl

end Screen

end OledPanel
