import OledPanel.Frame
import OledPanel.Error

/-!
# Displays held in memory

A memory display has a size and a mode and keeps every frame it accepts, oldest first. It
refuses a frame of another size. It can also be told to refuse chosen transmissions, numbered
from one over its whole life, the way a flaky link refuses them: a refused transmission is
counted but nothing is kept.

`MemoryDisplay.transmit` gives the outcome of one transmission together with the display after
it, because the count of attempts moves on whether or not the frame is kept.
-/

namespace OledPanel

/-- Check that a frame has the size `w × h` that a display expects. -/
def Frame.checkSize (f : Frame) (w h : Nat) : Except PanelError Unit :=
  if f.width = w ∧ f.height = h then .ok () else .error (.frameSize f.width f.height w h)

/-- a display in memory that keeps what it is sent -/
structure MemoryDisplay where
  width : Nat
  height : Nat
  mode : Mode
  /-- the frames accepted, oldest first -/
  shown : Array Frame := #[]
  /-- transmissions attempted so far, refused ones included -/
  attempts : Nat := 0
  /-- the numbers of the transmissions that are refused -/
  refusals : List Nat := []

namespace MemoryDisplay

/-- A display of this size and mode that has shown nothing and refuses these transmissions. -/
def new (w h : Nat) (m : Mode) (refusals : List Nat := []) : MemoryDisplay :=
  { width := w, height := h, mode := m, refusals }

def size (d : MemoryDisplay) : Nat × Nat := (d.width, d.height)

def count (d : MemoryDisplay) : Nat := d.shown.size

def last? (d : MemoryDisplay) : Option Frame := d.shown.back?

/-- Transmit a frame: count the attempt, refuse it if its number is refused, check its size,
then keep it. -/
def transmit (d : MemoryDisplay) (f : Frame) : Except PanelError Unit × MemoryDisplay :=
  let n := d.attempts + 1
  let d := { d with attempts := n }
  if n ∈ d.refusals then (.error .notInitialized, d)
  else
    match f.checkSize d.width d.height with
    | .error e => (.error e, d)
    | .ok () => (.ok (), { d with shown := d.shown.push f })

theorem attempts_transmit (d : MemoryDisplay) (f : Frame) :
    (d.transmit f).2.attempts = d.attempts + 1 := by
  simp only [transmit]
  split
  · rfl
  · split <;> rfl

end MemoryDisplay

end OledPanel
