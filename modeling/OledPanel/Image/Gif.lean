import OledPanel.Image.Layer
import OledPanel.Error
import OledPanel.Duration

/-!
# Decoding GIF streams

A GIF stream is a signature, a logical screen with an optional global palette, then blocks up
to a trailer: extensions, of which the graphic control sets the delay, the disposal and the
transparent index of the next image, and images. An image is a rectangle of the screen with an
optional palette of its own and its palette indices, LZW-compressed and sent in sub-blocks.

Decoding reads the stream in order and reports the first failure: the stream ending before the
trailer, a bad signature or block, an extension of an unknown kind, a graphic control whose
last sub-block is not four bytes, an image without any palette, a code that the LZW table does
not have yet, or compressed data that ends before the image is full. Codes after the last pixel
are never looked at. A block or extension of an unknown kind is refused only when the byte after
its introducer or label is read, so one that ends the stream is the stream ending. The signature
is judged once its six bytes are there.

Frames are composed as the animation shows them: a canvas of what persists starts transparent;
where an image's pixel is transparent, or its index falls outside the palette, the canvas shows
through. After the image, what persists takes the image's pixels, is cleared, or stays as it
was, as the disposal says.
-/

namespace OledPanel

namespace Gif

/-- why a GIF stream could not be decoded -/
inductive GifError where
  | endOfFile
  | badSignature
  | unknownBlock
  /-- an extension label other than plain text, graphic control, comment and application -/
  | unknownExtension
  /-- a graphic control whose last sub-block is not four bytes -/
  | badControlLength
  | noPalette
  | badCodeSize
  /-- a code that is neither in the table nor the next one to be added -/
  | badCode
  /-- the compressed data ends before the image is full -/
  | truncatedImage
  deriving DecidableEq, Repr

namespace GifError

def detail : GifError → String
  | endOfFile => "Unexpected End of File"
  | badSignature => "malformed GIF header"
  | unknownBlock => "unknown block type encountered"
  | unknownExtension => "unknown extension block encountered"
  | badControlLength => "control extension has wrong length"
  | noPalette => "no color table available for current frame"
  | badCodeSize => "invalid minimal code size"
  | badCode => "invalid code in LZW stream"
  | truncatedImage => "image truncated"

def toImageError (e : GifError) : ImageError := .decoding "Gif" e.detail

end GifError

/-- what happens to an image's area once it has been shown -/
inductive Disposal where
  /-- unspecified: kept -/
  | unspecified
  | keep
  /-- cleared to transparent -/
  | background
  /-- back to what it was before the image -/
  | previous
  deriving DecidableEq, Repr

/-- the disposal of a graphic control's field -/
def Disposal.ofCode : Nat → Disposal
  | 1 => .keep
  | 2 => .background
  | 3 => .previous
  | _ => .unspecified

/-- what a graphic control sets for the next image -/
structure Control where
  /-- in hundredths of a second -/
  delay : Nat := 0
  disposal : Disposal := .unspecified
  transparent : Option Nat := none

/-- one image of the stream, as stored -/
structure Subimage where
  left : Nat
  top : Nat
  width : Nat
  height : Nat
  control : Control
  palette : ByteArray
  /-- the palette index of each pixel, row by row from the top -/
  indices : ByteArray

/-- The little-endian number in two bytes at `p`. -/
def word (s : ByteArray) (p : Nat) : Option Nat :=
  match s[p]?, s[p + 1]? with
  | some a, some b => some (a.toNat + 256 * b.toNat)
  | _, _ => none

def byteAt (s : ByteArray) (p : Nat) : Except GifError Nat :=
  match s[p]? with
  | some b => .ok b.toNat
  | none => .error .endOfFile

def wordAt (s : ByteArray) (p : Nat) : Except GifError Nat :=
  match word s p with
  | some v => .ok v
  | none => .error .endOfFile

/-- Concatenate the sub-blocks from `p` up to their terminator: the data and the position
after the terminator, or the data there is when the stream ends first. -/
def subBlocks (s : ByteArray) : Nat → Nat → ByteArray → ByteArray × Option Nat
  | 0, _, acc => (acc, none)
  | fuel + 1, p, acc =>
    match s[p]? with
    | none => (acc, none)
    | some 0 => (acc, some (p + 1))
    | some n =>
      let stop := p + 1 + n.toNat
      if stop ≤ s.size then subBlocks s fuel stop (acc ++ s.extract (p + 1) stop)
      else (acc ++ s.extract (p + 1) s.size, none)

/-- The last of the sub-blocks from `p` up to their terminator, `last` when there are none, and
the position after the terminator, or none when the stream ends first. -/
def lastSubBlock (s : ByteArray) : Nat → Nat → ByteArray → ByteArray × Option Nat
  | 0, _, last => (last, none)
  | fuel + 1, p, last =>
    match s[p]? with
    | none => (last, none)
    | some 0 => (last, some (p + 1))
    | some n =>
      let stop := p + 1 + n.toNat
      if stop ≤ s.size then lastSubBlock s fuel stop (s.extract (p + 1) stop) else (last, none)

def bitsAt (data : ByteArray) (pos n : Nat) : Option Nat :=
  if pos + n ≤ data.size * 8 then
    some ((List.range n).foldr (fun i acc =>
      acc * 2 + ((data[(pos + i) / 8]?.getD 0).toNat >>> ((pos + i) % 8)) % 2) 0)
  else none

/-- the LZW table of a minimum code size, fresh after a clear code: one entry per literal, and
two empty ones for the clear and end codes -/
def freshTable (minSize : Nat) : Array ByteArray :=
  (List.range (Nat.pow 2 minSize + 2)).toArray.map fun i =>
    if i < Nat.pow 2 minSize then ByteArray.mk #[i.toUInt8] else ByteArray.empty

/-- Decode LZW codes until `need` indices are out, the end code, or the data runs out. The
table grows by one entry per code after the first, up to 4096 entries, and codes widen by a bit
whenever the table fills the current width, up to twelve bits. -/
def lzw (data : ByteArray) (minSize need : Nat) :
    Nat → Nat → Nat → Array ByteArray → Option ByteArray → ByteArray → Except GifError ByteArray
  | 0, _, _, _, _, out => .ok out
  | fuel + 1, pos, width, table, prev, out =>
    if out.size ≥ need then .ok out
    else
      match bitsAt data pos width with
      | none => .ok out
      | some code =>
        let clear := Nat.pow 2 minSize
        let pos := pos + width
        if code = clear then lzw data minSize need fuel pos (minSize + 1) (freshTable minSize) none out
        else if code = clear + 1 then .ok out
        else
          match prev with
          | none =>
            if code < clear then
              let entry := table[code]?.getD ByteArray.empty
              lzw data minSize need fuel pos width table (some entry) (out ++ entry)
            else .error .badCode
          | some p =>
            let entry? : Option ByteArray :=
              if code < table.size then table[code]?
              else if code = table.size then some (p.push (p[0]?.getD 0))
              else none
            match entry? with
            | none => .error .badCode
            | some entry =>
              let (table, width) :=
                if table.size < 4096 then
                  let table := table.push (p.push (entry[0]?.getD 0))
                  (table, if table.size = Nat.pow 2 width ∧ width < 12 then width + 1 else width)
                else (table, width)
              lzw data minSize need fuel pos width table (some entry) (out ++ entry)

/-- The rows of an interlaced image in the order they are sent: every eighth row from the
first, every eighth from the fifth, every fourth from the third, every second from the second. -/
def interlacedRows (h : Nat) : List Nat :=
  let pass (start step : Nat) := (List.range h).filter fun y => y ≥ start ∧ (y - start) % step = 0
  pass 0 8 ++ pass 4 8 ++ pass 2 4 ++ pass 1 2

def deinterlace (w h : Nat) (indices : ByteArray) : ByteArray :=
  let order := interlacedRows h
  (List.range h).foldl (fun acc y =>
    let k := order.idxOf y
    acc ++ indices.extract (k * w) (k * w + w)) ByteArray.empty

def paletteAt (s : ByteArray) (p : Nat) (flags : Nat) : Except GifError (Option ByteArray × Nat) :=
  if flags &&& 0x80 = 0 then .ok (none, p)
  else
    let n := 3 * Nat.pow 2 (flags % 8 + 1)
    if p + n ≤ s.size then .ok (some (s.extract p (p + n)), p + n) else .error .endOfFile

/-- Read an image from its descriptor at `p`: the image and where the next block starts. A
`lazy` read stops once the image is full, so the stream may end after that. -/
def readSubimage (s : ByteArray) (global : Option ByteArray) (c : Control) (p : Nat)
    (lazy : Bool) : Except GifError (Subimage × Nat) := do
  let left ← wordAt s (p + 1)
  let top ← wordAt s (p + 3)
  let w ← wordAt s (p + 5)
  let h ← wordAt s (p + 7)
  let flags ← byteAt s (p + 9)
  let (local?, q) ← paletteAt s (p + 10) flags
  let palette ← match local?, global with
    | some pal, _ => pure pal
    | none, some pal => pure pal
    | none, none => throw .noPalette
  let minSize ← byteAt s q
  if minSize = 0 ∨ minSize > 11 then throw .badCodeSize
  let (data, next?) := subBlocks s s.size (q + 1) ByteArray.empty
  let need := w * h
  let indices ← lzw data minSize need (data.size * 8 + 1) 0 (minSize + 1) (freshTable minSize) none
    ByteArray.empty
  let next ← match next? with
    | none => if lazy ∧ indices.size ≥ need then pure s.size else throw .endOfFile
    | some next => if indices.size < need then throw .truncatedImage else pure next
  let indices := indices.extract 0 need
  let indices := if flags &&& 0x40 ≠ 0 then deinterlace w h indices else indices
  pure (⟨left, top, w, h, c, palette, indices⟩, next)

def Control.ofBlock (b : ByteArray) : Control :=
  let flags := (b[0]?.getD 0).toNat
  { delay := (word b 1).getD 0
    disposal := Disposal.ofCode ((flags >>> 2) % 8)
    transparent := if flags % 2 = 1 then some (b[3]?.getD 0).toNat else none }

/-- Read extensions from `p` up to the next image or the trailer: the position of the image's
descriptor and the control for it, or none at the trailer. -/
def seekImage (s : ByteArray) : Nat → Nat → Control → Except GifError (Option (Nat × Control))
  | 0, _, _ => .error .endOfFile
  | fuel + 1, p, c => do
    match ← byteAt s p with
    | 0x3B => pure none
    | 0x2C => pure (some (p, c))
    | 0x21 =>
      let label ← byteAt s (p + 1)
      -- the label is judged once the byte after it is read
      let _ ← byteAt s (p + 2)
      if label ∉ [0x01, 0xF9, 0xFE, 0xFF] then throw .unknownExtension
      match lastSubBlock s s.size (p + 2) ByteArray.empty with
      | (_, none) => throw .endOfFile
      | (last, some next) =>
        if label = 0xF9 then
          if last.size ≠ 4 then throw .badControlLength
          seekImage s fuel next (Control.ofBlock last)
        else seekImage s fuel next c
    -- a block of another kind is refused only once the byte after its introducer is read
    | _ => if p + 1 < s.size then throw .unknownBlock else throw .endOfFile

def readBlocks (s : ByteArray) (global : Option ByteArray) :
    Nat → Nat → List Subimage → Except GifError (List Subimage)
  | 0, _, _ => .error .endOfFile
  | fuel + 1, p, acc => do
    match ← seekImage s s.size p {} with
    | none => pure acc.reverse
    | some (q, c) =>
      let (img, next) ← readSubimage s global c q false
      readBlocks s global fuel next (img :: acc)

/-- the screen of a stream and its images -/
structure Stream where
  width : Nat
  height : Nat
  images : List Subimage

/-- Read the signature and the logical screen: its size, the global palette, and where the
blocks start. -/
def readScreen (s : ByteArray) : Except GifError (Nat × Nat × Option ByteArray × Nat) := do
  if s.size < 6 then throw .endOfFile
  let magic := s.extract 0 6
  if magic.toList ≠ "GIF87a".toUTF8.toList ∧ magic.toList ≠ "GIF89a".toUTF8.toList then
    throw .badSignature
  let w ← wordAt s 6
  let h ← wordAt s 8
  let flags ← byteAt s 10
  let _ ← byteAt s 12
  let (global, p) ← paletteAt s 13 flags
  pure (w, h, global, p)

/-- Read a whole stream. -/
def read (s : ByteArray) : Except GifError Stream := do
  let (w, h, global, p) ← readScreen s
  let images ← readBlocks s global s.size p []
  pure ⟨w, h, images⟩

/-- The colour of a pixel of an image: its palette entry, transparent when it is the
transparent index or outside the palette. -/
def Subimage.pixel (img : Subimage) (x y : Nat) : Rgba :=
  let i := (img.indices[y * img.width + x]?.getD 0).toNat
  if 3 * i + 2 < img.palette.size then
    ⟨img.palette[3 * i]?.getD 0, img.palette[3 * i + 1]?.getD 0, img.palette[3 * i + 2]?.getD 0,
      if img.control.transparent = some i then 0 else 255⟩
  else Rgba.clear

/-- Show an image over what persists: the frame shown, and what persists after it. -/
def compose (persist : Layer) (img : Subimage) : Layer × Layer :=
  let inside (x y : Nat) := x ≥ img.left ∧ x - img.left < img.width ∧ y ≥ img.top ∧
    y - img.top < img.height
  let shown (x y : Nat) : Rgba :=
    if inside x y then
      let p := img.pixel (x - img.left) (y - img.top)
      if p.a = 0 then persist.get x y else p
    else persist.get x y
  let kept (x y : Nat) : Rgba :=
    if inside x y then
      match img.control.disposal with
      | .unspecified | .keep => shown x y
      | .background => Rgba.clear
      | .previous => persist.get x y
    else persist.get x y
  (Layer.ofFn persist.width persist.height shown, Layer.ofFn persist.width persist.height kept)

/-- The frames of a stream, composed, each with its delay. -/
def frames (st : Stream) : List (Layer × Duration) :=
  let step (acc : Layer × List (Layer × Duration)) (img : Subimage) :=
    let (shown, persist) := compose acc.1 img
    (persist, (shown, Duration.ofMillis (img.control.delay * 10)) :: acc.2)
  ((st.images.foldl step (Layer.clear st.width st.height, [])).2).reverse

/-- The first image of a stream on its screen, transparent around it, or none when the stream
has no image. Only what the first image needs is read. -/
def firstImage (s : ByteArray) : Except GifError (Option Layer) := do
  let (w, h, global, p) ← readScreen s
  match ← seekImage s s.size p {} with
  | none => pure none
  | some (q, c) =>
    let (img, _) ← readSubimage s global c q true
    pure (some (Layer.ofFn w h fun x y =>
      if x ≥ img.left ∧ x - img.left < img.width ∧ y ≥ img.top ∧ y - img.top < img.height then
        img.pixel (x - img.left) (y - img.top)
      else Rgba.clear))

/-- Decode a stream into its composed frames. -/
def decode (s : ByteArray) : Except GifError (List (Layer × Duration)) := do
  let st ← read s
  pure (frames st)

theorem frames_length (st : Stream) : (frames st).length = st.images.length := by
  unfold frames
  suffices h : ∀ (l : List Subimage) (acc : Layer × List (Layer × Duration)),
      (l.foldl (fun acc img =>
        ((compose acc.1 img).2, ((compose acc.1 img).1,
          Duration.ofMillis (img.control.delay * 10)) :: acc.2)) acc).2.length =
        acc.2.length + l.length by
    simpa using h st.images (Layer.clear st.width st.height, [])
  intro l
  induction l with
  | nil => simp
  | cons a l ih => intro acc; simp [ih]; omega

end Gif

end OledPanel
