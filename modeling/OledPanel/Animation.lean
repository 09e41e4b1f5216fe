import OledPanel.Image.Format
import OledPanel.Image.Png
import OledPanel.Image.Gif
import OledPanel.Resample
import OledPanel.Store

/-!
# Animations

An animation is a non-empty list of frames, each a raster and how long it stays on screen; an
animation of one frame is a still image. Opening a file decodes it by the format its name
gives:

* a GIF, or a PNG with an animation control, gives its composed frames, flattened over black,
  with their own delays, where a delay of zero shows for the default delay instead;
* any other PNG gives its one image, flattened over black, for the default delay;
* other names are refused: by their known format, their unknown extension, or for having none.

A GIF or PNG file that cannot be opened is an input failure of the panel; once open, every
failure, reading included, is the image's. For other names the file is opened before the name
is looked at.
-/

namespace OledPanel

/-- a frame of an animation: what is shown and for how long -/
structure AnimationFrame where
  image : Raster
  delay : Duration

/-- a non-empty list of frames -/
structure Animation where
  frames : List AnimationFrame
  nonempty : frames ≠ []

namespace Animation

/-- how long a frame shows when the file gives it no time: a tenth of a second -/
def defaultDelay : Duration := Duration.ofMillis 100

/-- A delay, with zero read as the default delay. -/
def nonZero (d : Duration) : Duration := if d = Duration.zero then defaultDelay else d

/-- An animation of these frames; there must be at least one. -/
def ofFrames (frames : List AnimationFrame) : Except PanelError Animation :=
  if h : frames = [] then .error .emptyAnimation else .ok ⟨frames, h⟩

def length (a : Animation) : Nat := a.frames.length

def isAnimated (a : Animation) : Bool := a.length > 1

/-- The sum of the delays: the length of one pass. -/
def totalDuration (a : Animation) : Duration :=
  Duration.ofNanos ((a.frames.map (·.delay.toNanos)).foldr (· + ·) 0)

/-- Every frame scaled to `w` by `h`; frames of that size already stay as they are. -/
def fitted (a : Animation) (w h : Nat) : Animation :=
  ⟨a.frames.map fun f =>
      if f.image.width = w ∧ f.image.height = h then f else { f with image := f.image.resample w h },
    by simpa using a.nonempty⟩

def framesOfLayers (ls : List (Layer × Duration)) : List AnimationFrame :=
  ls.map fun (l, d) => ⟨l.flatten, nonZero d⟩

def pngFrames (bytes : ByteArray) : Except Png.PngError (List AnimationFrame) := do
  let info ← Png.readInfo bytes
  if info.animated then
    let layers ← Png.decodeAnimation bytes info
    pure (framesOfLayers layers)
  else
    let pic ← Png.decodeStill bytes
    pure [⟨pic.flatten, defaultDelay⟩]

/-- Read a file to decode as an image: a directory is found only when it is read. -/
def readImageFile (s : Store) (path : String) : Except PanelError ByteArray :=
  match s.read path with
  | .ok b => .ok b
  | .error .isDirectory => .error (.image (.io .isDirectory))
  | .error e => .error (.io e)

/-- Open an image file as an animation. -/
def ofFile (s : Store) (path : String) : Except PanelError Animation := do
  let frames ← match ImageFormat.ofPath path with
    | .ok .gif =>
      let bytes ← readImageFile s path
      match Gif.decode bytes with
      | .ok layers => pure (framesOfLayers layers)
      | .error e => throw (.image e.toImageError)
    | .ok .png =>
      let bytes ← readImageFile s path
      match pngFrames bytes with
      | .ok frames => pure frames
      | .error e => throw (.image e.toImageError)
    | _ =>
      match s.read path with
      | .error .isDirectory | .ok _ =>
        match ImageFormat.forOpening path with
        | .ok f => throw (.image (.unsupported f.name))
        | .error e => throw (.image e)
      | .error e => throw (.image (.io e))
  ofFrames frames

theorem ofFrames_nil : ofFrames [] = .error .emptyAnimation := rfl

end Animation

end OledPanel
