import OledPanel.Error

/-!
# Image formats by file name

An image file's format is read off its name's extension, compared without regard to ASCII
case. A name's extension is what follows its last dot, unless that dot starts the name: `.png`
has none, `a.png` has `png`, and `a.` has the empty extension. The name is the last component
of the path that is not `.`; a path that ends in `..` has no name. A file is opened by the
format its extension names, and with an empty extension it has no format to go by; a file is
saved by the format its extension names, and the empty extension names none.

Only PNG and GIF files are decoded; other known formats are refused by name.
-/

namespace OledPanel

/-- the image formats recognised by extension -/
inductive ImageFormat where
  | png
  | jpeg
  | gif
  | webp
  | pnm
  | tiff
  | tga
  | dds
  | bmp
  | ico
  | hdr
  | openExr
  | farbfeld
  | avif
  | qoi
  deriving DecidableEq, Repr

namespace ImageFormat

def name : ImageFormat → String
  | png => "Png"
  | jpeg => "Jpeg"
  | gif => "Gif"
  | webp => "WebP"
  | pnm => "Pnm"
  | tiff => "Tiff"
  | tga => "Tga"
  | dds => "Dds"
  | bmp => "Bmp"
  | ico => "Ico"
  | hdr => "Hdr"
  | openExr => "OpenExr"
  | farbfeld => "Farbfeld"
  | avif => "Avif"
  | qoi => "Qoi"

/-- the ASCII lower case of a text -/
def lower (s : String) : String := s.map Char.toLower

def ofExtension? (ext : String) : Option ImageFormat :=
  match lower ext with
  | "avif" => some avif
  | "jpg" | "jpeg" | "jfif" => some jpeg
  | "png" | "apng" => some png
  | "gif" => some gif
  | "webp" => some webp
  | "tif" | "tiff" => some tiff
  | "tga" => some tga
  | "dds" => some dds
  | "bmp" => some bmp
  | "ico" => some ico
  | "hdr" => some hdr
  | "exr" => some openExr
  | "pbm" | "pam" | "ppm" | "pgm" | "pnm" => some pnm
  | "ff" => some farbfeld
  | "qoi" => some qoi
  | _ => none

end ImageFormat

def fileName? (path : String) : Option String :=
  match ((path.splitOn "/").filter fun c => c ≠ "" ∧ c ≠ ".").getLast? with
  | some ".." => none
  | some n => some n
  | none => none

def extension? (path : String) : Option String :=
  (fileName? path).bind fun n =>
    match n.splitOn "." with
    | [] | [_] => none
    | parts =>
      let before := String.intercalate "." parts.dropLast
      if before = "" then none else parts.getLast?

/-- The format of a path's extension, or why there is none. -/
def ImageFormat.ofPath (path : String) : Except ImageError ImageFormat :=
  match extension? path with
  | none => .error .unknownFormat
  | some ext =>
    match ImageFormat.ofExtension? ext with
    | some f => .ok f
    | none => .error (.unknownExtension ext)

/-- The format a file is opened by: that of its extension, where an empty extension counts as
none. -/
def ImageFormat.forOpening (path : String) : Except ImageError ImageFormat :=
  if extension? path = some "" then .error .unknownFormat else ImageFormat.ofPath path

theorem ofPath_eq_ok (path : String) (f : ImageFormat) :
    ImageFormat.ofPath path = .ok f ↔
      ∃ ext, extension? path = some ext ∧ ImageFormat.ofExtension? ext = some f := by
  unfold ImageFormat.ofPath
  cases extension? path with
  | none => simp
  | some ext =>
    cases h : ImageFormat.ofExtension? ext with
    | none => simp [h]
    | some g => simp [h]

end OledPanel
