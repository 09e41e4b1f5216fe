import OledPanel.Image.Format
import OledPanel.Image.Png
import OledPanel.Image.Gif
import OledPanel.Store

/-!
# Still images from files

Opening a still image opens the file, then reads its format off the name, then decodes: a PNG
gives its image data, an animation's first frame or preview included; a GIF gives its first
image on the logical screen, transparent around it. A directory opens like a file and fails
when it is read.
-/

namespace OledPanel

/-- Decode the image file at `path`. -/
def Picture.ofFile (s : Store) (path : String) : Except ImageError Picture := do
  let bytes? ← match s.read path with
    | .ok b => pure (some b)
    | .error .isDirectory => pure none
    | .error e => throw (.io e)
  let format ← ImageFormat.forOpening path
  let readBytes : Except ImageError ByteArray :=
    match bytes? with
    | some b => .ok b
    | none => .error (.io .isDirectory)
  match format with
  | .png =>
    let bytes ← readBytes
    match Png.decodeStill bytes with
    | .ok pic => pure pic
    | .error e => throw e.toImageError
  | .gif =>
    let bytes ← readBytes
    match Gif.firstImage bytes with
    | .ok (some l) => pure l.toPicture
    | .ok none => throw .noMoreData
    | .error e => throw e.toImageError
  | f => throw (.unsupported f.name)

end OledPanel
