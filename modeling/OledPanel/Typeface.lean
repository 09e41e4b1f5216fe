import OledPanel.Font.Fixed
import OledPanel.Font.Typeset
import OledPanel.Error

/-!
# Typefaces

A typeface is either the built-in fixed 6 × 10 face or an outline face bound to an em size in
pixels. `Raster.drawText` paints text with either, its top-left corner at the given point.
-/

namespace OledPanel

/-- a face ready to draw text -/
inductive Typeface where
  | fixed
  | outline (face : Face) (size : Float32)

namespace Typeface

def isFixed : Typeface → Bool
  | fixed => true
  | outline .. => false

def ofBytes? (data : ByteArray) (size : Float32) : Option Typeface :=
  (Face.parse data).map (outline · size)

/-- Load an outline face from a file at an em size: the file must be readable and a font. -/
def load (s : Store) (path : String) (size : Float32) : Except PanelError Typeface :=
  match s.read path with
  | .error e => .error (.io e)
  | .ok data =>
    match ofBytes? data size with
    | some tf => .ok tf
    | none => .error .invalidFont

end Typeface

/-- Paint text with a typeface, its top-left corner at `(x, y)`. -/
def Raster.drawText (r : Raster) (tf : Typeface) (text : String) (x y : Int) (ink : Rgb) :
    Raster :=
  match tf with
  | .fixed => r.drawFixed text x y ink
  | .outline f size => r.drawOutlineText f size text x y ink

end OledPanel
