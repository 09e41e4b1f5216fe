import OledPanel.Image.Format
import OledPanel.Image.Png.Encode
import OledPanel.Store

/-!
# Saving pictures to files

Saving reads the format off the file name first, so a name without a known extension is refused
before anything is written. Then the file is created, empty, where its directory exists; only
then is the format's encoder looked for. PNG is the one format written. GIF has an encoder that
takes 8-bit colour only, so a picture of any other colour type is refused for it; colour GIFs
and every other known format are refused outright. A refusal leaves the empty file behind.
-/

namespace OledPanel

/-- Save a picture at `path`, named in the store by `target`: the store afterwards, and the fault
if there was one. -/
def Picture.save (s : Store) (path target : String) (p : Picture) : Store × Option ImageError :=
  match ImageFormat.ofPath path with
  | .error e => (s, some e)
  | .ok format =>
    match s.write target ByteArray.empty with
    | .error e => (s, some (.io e))
    | .ok created =>
      match format with
      | .png =>
        match created.write target (Png.encode p) with
        | .ok written => (written, none)
        | .error e => (created, some (.io e))
      | .gif =>
        if (p.channels = .rgb ∨ p.channels = .rgba) ∧ !p.wide then (created, some (.noEncoder "Gif"))
        else (created, some (.encoderColour "Gif" p.colourName))
      | f => (created, some (.noEncoder f.name))

/-- A name whose format cannot be told is refused with that fault, the store untouched. -/
theorem save_format_fault (s : Store) (path target : String) (p : Picture) :
    match ImageFormat.ofPath path with
    | .error e => Picture.save s path target p = (s, some e)
    | .ok _ => True := by
  unfold Picture.save
  split <;> simp_all

end OledPanel
