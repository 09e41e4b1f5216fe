import OledPanel.Raster

/-!
# Marks

A mark is one thing drawn on a raster: a single pixel or a filled rectangle, each with its
colour and clipped to the raster like every drawing operation. A list of marks is drawn in
order, so a later mark covers an earlier one.
-/

namespace OledPanel

inductive Mark where
  | point (x y : Int) (c : Rgb)
  /-- the rectangle with top-left `(x, y)` and size `w × h` -/
  | box (x y : Int) (w h : Nat) (c : Rgb)
  deriving DecidableEq, Repr

namespace Raster

def drawMark (r : Raster) : Mark → Raster
  | .point x y c => r.plot x y c
  | .box x y w h c => r.fillRect x y w h c

/-- Draw marks in order. -/
def drawMarks (r : Raster) (ms : List Mark) : Raster := ms.foldl drawMark r

@[simp] theorem drawMarks_nil (r : Raster) : r.drawMarks [] = r := rfl

@[simp] theorem drawMarks_cons (r : Raster) (m : Mark) (ms : List Mark) :
    r.drawMarks (m :: ms) = (r.drawMark m).drawMarks ms := rfl

theorem drawMarks_append (r : Raster) (ms ns : List Mark) :
    r.drawMarks (ms ++ ns) = (r.drawMarks ms).drawMarks ns := by
  simp [drawMarks, List.foldl_append]

end Raster

end OledPanel
