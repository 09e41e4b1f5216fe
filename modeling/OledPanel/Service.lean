import OledPanel.Display.Screen
import OledPanel.IconSet
import OledPanel.FontSet
import OledPanel.Image.Still
import OledPanel.Resample
import OledPanel.Mark
import OledPanel.Settings

/-!
# The display service

The service is what the appliance talks to: it holds the settings, the icons and fonts loaded
for them, and the files it reads images from, and it shows things on a screen. Every operation
builds one raster of the screen's size and shows it, so each answers with one frame or fails
without sending anything, apart from the display's own refusals:

* text is drawn with a named font on a black canvas, the built-in face standing in for an
  unknown name;
* an icon is pasted on a black canvas, the fallback icon standing in for an unknown name;
* an image file is decoded, laid over black, and either scaled to the screen or placed at the
  top-left corner of a black canvas and cropped;
* a raster is scaled to the screen; marks are drawn on a black canvas.

A timed clear remembers the generation of the screen it was set for and clears only if that is
still what is shown. A failure of the clear itself only means that nothing was cleared.
-/

namespace OledPanel

/-- the settings, assets and files of a display service -/
structure Service where
  settings : Settings
  icons : IconSet
  fonts : FontSet
  files : Store

/-- a clear set to happen after a while, for the screen's generation at the time -/
structure TimedClear where
  generation : Nat
  after : Duration

namespace Service

/-- The service for these settings, with its icons and fonts loaded from the files. -/
def new (s : Store) (c : Settings) : Service :=
  ⟨c, IconSet.load s c.iconDir c.services c.iconSize, FontSet.load s c.fonts, s⟩

/-- Show text with the named font, its top-left corner at `(x, y)`. -/
def showText (sv : Service) (text : String) (x y : Int) (font : String) (ink : Rgb) :
    ScreenM Unit := do
  let tf := sv.fonts.get font
  let _ ← Screen.compose fun w h => .ok ((Raster.blank w h).drawText tf text x y ink)

/-- Show the named icon with its top-left corner at `(x, y)`. -/
def showIcon (sv : Service) (name : String) (x y : Int) : ScreenM Unit := do
  let icon := sv.icons.get name
  let _ ← Screen.compose fun w h => .ok ((Raster.blank w h).paste icon x y)

/-- An image file laid over black and brought to `w × h`: scaled, or cropped from the
top-left corner. -/
def imageRaster (sv : Service) (path : String) (scale : Bool) (w h : Nat) :
    Except PanelError Raster :=
  match Picture.ofFile sv.files path with
  | .error e => .error (.image e)
  | .ok p => .ok (if scale then p.flatten.resample w h else p.flatten.fit w h)

/-- Show an image file; with a delay, also set a clear for what was shown. -/
def showImage (sv : Service) (path : String) (scale : Bool) (clearAfter : Option Duration) :
    ScreenM (Option TimedClear) := do
  let g ← Screen.compose (sv.imageRaster path scale)
  pure (clearAfter.map (⟨g, ·⟩))

/-- Show a raster scaled to the screen. -/
def showRaster (r : Raster) : ScreenM Unit := do
  let _ ← Screen.compose fun w h => .ok (r.resample w h)

/-- Show marks drawn on a black canvas. -/
def draw (ms : List Mark) : ScreenM Unit := do
  let _ ← Screen.compose fun w h => .ok ((Raster.blank w h).drawMarks ms)

/-- Set a clear after a delay for what is on screen now. -/
def scheduleClear (after : Duration) : ScreenM TimedClear := do
  let s ← get
  pure ⟨s.generation, after⟩

end Service

namespace TimedClear

/-- Let the clear happen: it clears if nothing newer was shown, and a failure clears nothing. -/
def fire (t : TimedClear) : ScreenM Bool :=
  tryCatch (Screen.clearIfCurrent t.generation) fun _ => pure false

end TimedClear

/-- A scheduled clear records the generation on screen when it was set. -/
theorem scheduleClear_generation (after : Duration) (s : Screen) :
    (Service.scheduleClear after).run.run s = (.ok ⟨s.generation, after⟩, s) := rfl

end OledPanel
