import OledPanel.Image.Png.Scanline
import OledPanel.Image.Layer
import OledPanel.Duration

/-!
# Decoding PNG streams

A PNG stream is decoded in stream order, and the first failure met is the one reported:

* the chunks before the image data give the header, the palette, the transparency, and for an
  animation the frame count and perhaps the first frame's control;
* an image's data is the run of data chunks that follows, and the decoder reads one chunk past
  the run, so the stream must hold that chunk's header too;
* the data is inflated and its rows unfiltered; rows that arrive before a failure of the stream
  are unfiltered before that failure is reported, and data that ends before the image does is
  reported as such only when the stream itself did not fail.

An animation is composed on an eight-bit RGBA canvas that starts transparent. Before each frame
the area of the frame before it is disposed of as that frame said; the new frame then replaces
its area or is laid over it. When the image data carries no frame control it is a still preview
that is decoded and then passed over.
-/

namespace OledPanel

namespace Png

/-- what the chunks read so far say, and which runs of data chunks may start -/
structure Reading where
  header : Option Header := none
  palette : Palette := ⟨none, none⟩
  /-- the number of frames, for an animation -/
  frames : Option Nat := none
  /-- the latest frame control -/
  control : Option FrameControl := none
  /-- the last sequence number read -/
  sequence : Option Nat := none
  /-- whether a run of image data chunks has started -/
  sawImageData : Bool := false
  /-- whether a run of image data chunks may start: until the first run ends -/
  imageDataReady : Bool := true
  /-- whether a run of frame data chunks may start: after a frame control, until a run ends -/
  frameDataReady : Bool := false

def nextSequence (seq : Option Nat) : Nat := (seq.map (· + 1)).getD 0

namespace Reading

/-- Take in an animation control. It is passed over when it comes after the image data, is
short, counts no frames, or repeats an earlier one. -/
def withAnimation (r : Reading) (body : ByteArray) : Reading :=
  if r.sawImageData then r else
  match bigEndian body 0 4, bigEndian body 4 4 with
  | some n, some _ => if n = 0 ∨ r.frames.isSome then r else { r with frames := some n }
  | _, _ => r

/-- Take in a transparency chunk. Grey needs a two-byte field and RGB three, of which only the
low bytes are kept below sixteen bits; a palette's alphas need the palette before them and no
image data yet. Any other chunk, or a second one, is passed over. -/
def withTransparency (r : Reading) (hd : Header) (body : ByteArray) : Reading :=
  if r.palette.transparency.isSome then r else
  let keep (t : ByteArray) : Reading := { r with palette := { r.palette with transparency := some t } }
  let byte (i : Nat) : UInt8 := body[i]?.getD 0
  match hd.colour with
  | .grey =>
    if body.size < 2 then r else if hd.depth < 16 then keep (ByteArray.mk #[byte 1]) else keep body
  | .rgb =>
    if body.size < 6 then r
    else if hd.depth < 16 then keep (ByteArray.mk #[byte 1, byte 3, byte 5]) else keep body
  | .indexed => if r.palette.colours.isNone ∨ r.sawImageData then r else keep body
  | _ => r

/-- Take in a whole chunk that is not image data. The header, the palette, the end and frame
controls are checked, and their faults stop decoding; the other chunks a decoder knows are taken
in when they make sense and passed over when not; an unknown chunk stops decoding only when it
is critical. -/
def take (r : Reading) (kind : String) (body : ByteArray) : Except PngError Reading :=
  match kind, r.header with
  | "IHDR", none => do pure { r with header := some (← Header.parse body) }
  | "IHDR", some _ => .error (.duplicate "IHDR")
  | "PLTE", _ =>
    if r.palette.colours.isSome then .error (.duplicate "PLTE")
    else if body.size = 0 ∨ body.size % 3 ≠ 0 ∨ body.size > 768 then .error (.chunkLength "PLTE")
    else .ok { r with palette := { r.palette with colours := some body } }
  | "IEND", _ => if body.size = 0 then .ok r else .error (.chunkLength "IEND")
  | "fcTL", some hd => do
    let fc ← FrameControl.parse hd (nextSequence r.sequence) (!r.sawImageData) body
    pure { r with control := some fc, sequence := some fc.sequence, frameDataReady := true }
  | "acTL", _ => .ok (r.withAnimation body)
  | "tRNS", some hd => .ok (r.withTransparency hd body)
  | k, _ => if isCritical k then .error (.unknownCritical k) else .ok r

end Reading

/-- what reading the next chunk gives -/
inductive Step where
  /-- a run of data chunks of this kind starts at the position read -/
  | data (kind : String)
  /-- the end chunk, read whole -/
  | finished
  /-- another chunk, read whole, and where the next one starts -/
  | read (r : Reading) (next : Nat)

/-- Read the chunk at `p`. Its kind is checked first: nothing comes before the header, a run of
image data starts only while one may, and a frame data chunk must have room for its sequence
number. Any other chunk is read whole and taken in, and only then is its checksum compared; a
wrong checksum stops decoding for a critical chunk and is passed over for the others. -/
def Reading.step (r : Reading) (s : ByteArray) (p : Nat) : Except PngError Step := do
  let some len := bigEndian s p 4 | throw .endOfFile
  let some kind := kindAt s p | throw .endOfFile
  if r.header.isNone ∧ kind ≠ "IHDR" then throw (.chunkBeforeHeader kind)
  if kind = "fdAT" then
    if !r.frameDataReady then throw (.restart "fdAT")
    if len < 4 then throw .frameDataShort
    return .data kind
  if kind = "IDAT" then
    if !r.imageDataReady then throw (.restart "IDAT")
    return .data kind
  match readChunk s p with
  | .chunk k body stored computed next =>
    let r ← r.take k body
    if stored ≠ computed ∧ isCritical k then throw (.checksum k stored computed)
    if k = "IEND" then return .finished
    return .read r next
  | .endsInBody k body =>
    if body.size = len then
      let _ ← r.take k body
    throw .endOfFile
  | .endsInHeader => throw .endOfFile

/-- Read chunks from `p` up to the start of a run of data chunks: the reading there, where the
run starts and its kind. The end chunk first means the data is missing. -/
def seekData (s : ByteArray) : Nat → Reading → Nat → Except PngError (Reading × Nat × String)
  | 0, _, _ => .error .endOfFile
  | fuel + 1, r, p => do
    match ← r.step s p with
    | .data k => pure ((if k = "IDAT" then { r with sawImageData := true } else r), p, k)
    | .finished => throw .missingData
    | .read r next => seekData s fuel r next

/-- what the chunks before the first image data say -/
structure Info where
  header : Header
  reading : Reading
  /-- where the first data chunk starts -/
  dataStart : Nat
  /-- whether the first data is frame data rather than image data -/
  frameData : Bool

/-- Read the signature, four bytes and then four more, and the chunks before the first image
data. An indexed image must have its palette by then. -/
def readInfo (s : ByteArray) : Except PngError Info := do
  if s.size < 4 then throw .endOfFile
  if (s.extract 0 4).toList ≠ signature.take 4 then throw .badSignature
  if s.size < 8 then throw .endOfFile
  if (s.extract 4 8).toList ≠ signature.drop 4 then throw .badSignature
  let (r, p, kind) ← seekData s s.size {} 8
  let some hd := r.header | throw .endOfFile
  if hd.colour = .indexed ∧ r.palette.colours.isNone then throw .missingPalette
  pure ⟨hd, r, p, kind = "fdAT"⟩

/-- the compressed data of one image as the stream delivers it -/
structure Delivery where
  data : ByteArray
  /-- the failure that stops the stream after the data, if any -/
  failure : Option PngError
  /-- where the chunk after the data starts -/
  next : Nat
  sequence : Option Nat

/-- Gather the run of data chunks from `p`: image data chunks, or frame data chunks, whose
bodies start with a sequence number. A wrong checksum stops image data and is passed over in
frame data. -/
def gather (s : ByteArray) (frameData : Bool) :
    Nat → Nat → Option Nat → ByteArray → Delivery
  | 0, p, seq, acc => ⟨acc, some .endOfFile, p, seq⟩
  | fuel + 1, p, seq, acc =>
    let kind := if frameData then "fdAT" else "IDAT"
    match bigEndian s p 4, kindAt s p with
    | some len, some k =>
      if k ≠ kind then ⟨acc, none, p, seq⟩
      else if frameData ∧ len < 4 then ⟨acc, some .frameDataShort, p, seq⟩
      else
        let (body, whole) := match readChunk s p with
          | .chunk _ body stored computed next => (body, some (stored, computed, next))
          | .endsInBody _ body => (body, none)
          | .endsInHeader => (ByteArray.empty, none)
        let numbered : Except PngError (ByteArray × Option Nat) :=
          if frameData then
            match bigEndian body 0 4 with
            | none => .error .endOfFile
            | some n =>
              if n ≠ nextSequence seq then .error (.outOfOrder (nextSequence seq) n)
              else .ok (body.extract 4 body.size, some n)
          else .ok (body, seq)
        match numbered with
        | .error e => ⟨acc, some e, p, seq⟩
        | .ok (part, seq) =>
          let acc := acc ++ part
          match whole with
          | none => ⟨acc, some .endOfFile, p, seq⟩
          | some (stored, computed, next) =>
            if stored ≠ computed ∧ !frameData then ⟨acc, some (.checksum k stored computed), next, seq⟩
            else gather s frameData fuel next seq acc
    | _, _ => ⟨acc, some .endOfFile, p, seq⟩

/-- The reading after a run of data chunks: no run may start until a frame control allows. -/
def Reading.afterRun (r : Reading) (d : Delivery) : Reading :=
  { r with sequence := d.sequence, imageDataReady := false, frameDataReady := false }

def decodeImage (hd : Header) (pal : Palette) (d : Delivery) : Except PngError Picture := do
  let need := dataSize hd
  let (out, stop) := Inflate.run d.data need
  match stop with
  | some .truncated | none => pure ()
  | some e => throw (.corrupt e)
  let images ← unfilterRows hd out
  if out.size < need then throw (d.failure.getD .shortData)
  match d.failure with
  | some e => throw e
  | none => pure (toPicture hd pal images)

/-- Decode the image of a stream that is not an animation. -/
def decodeStill (s : ByteArray) : Except PngError Picture := do
  let info ← readInfo s
  decodeImage info.header info.reading.palette
    (gather s info.frameData s.size info.dataStart info.reading.sequence .empty)

/-- whether the stream is an animation -/
def Info.animated (info : Info) : Bool := info.reading.frames.isSome

/-- The colour layout an animation's frames decode to, as decoders name it, when it is
sixteen bits deep. -/
def wideLayout (info : Info) : Option String :=
  if info.header.depth ≠ 16 then none
  else
    let keyed := info.reading.palette.transparency.isSome
    some (match info.header.colour with
      | .grey => if keyed then "La16" else "L16"
      | .greyAlpha => "La16"
      | .rgb | .indexed => if keyed then "Rgba16" else "Rgb16"
      | .rgba => "Rgba16")

/-- How long a frame shows: `num / den` seconds, a zero denominator read as 100, in whole
milliseconds plus the nanoseconds of the remainder, rounded down. -/
def frameDelay (num den : Nat) : Duration :=
  let den := if den = 0 then 100 else den
  let ms := num * 1000
  Duration.ofNanos (ms / den * 1000000 + ms % den * 1000000 / den)

/-- the state of composing an animation -/
structure Canvas where
  current : Layer
  previous : Layer
  dispose : Dispose
  /-- the area of the last frame, none before the first -/
  region : Option (Nat × Nat × Nat × Nat)

def Canvas.disposeLast (c : Canvas) : Canvas :=
  match c.dispose, c.region with
  | .keep, _ => { c with previous := c.current }
  | .clear, some (x, y, w, h) => { c with previous := c.current, current := c.current.clearRect x y w h }
  | .clear, none =>
    { c with previous := c.current, current := Layer.clear c.current.width c.current.height }
  | .restore, some (x, y, w, h) => { c with current := c.current.copyRect c.previous x y w h }
  | .restore, none => c

/-- Draw a frame of the given control onto the canvas. -/
def Canvas.draw (c : Canvas) (fc : FrameControl) (frame : Layer) : Canvas :=
  let current := if fc.blendOver then c.current.blendAt frame fc.x fc.y
    else c.current.replaceAt frame fc.x fc.y
  { c with current, dispose := fc.dispose, region := some (fc.x, fc.y, fc.width, fc.height) }

def frameHeader (hd : Header) (fc : FrameControl) : Header :=
  { hd with width := fc.width, height := fc.height }

/-- Decode the frames after the first data run, up to `n` of them, composing each on the
canvas. -/
def laterFrames (s : ByteArray) (info : Info) :
    Nat → Nat → Reading → Canvas → List (Layer × Duration) →
      Except PngError (List (Layer × Duration))
  | 0, _, _, _, acc => .ok acc.reverse
  | n + 1, p, r, canvas, acc => do
    let canvas := canvas.disposeLast
    let (r, p, kind) ← seekData s s.size r p
    let control := r.control.getD ⟨0, info.header.width, info.header.height, 0, 0, 0, 0, .keep, false⟩
    let d := gather s (kind = "fdAT") s.size p r.sequence .empty
    let pic ← decodeImage (frameHeader info.header control) info.reading.palette d
    let canvas := canvas.draw control pic.toLayer
    laterFrames s info n d.next (r.afterRun d) canvas
      ((canvas.current, frameDelay control.delayNum control.delayDen) :: acc)

/-- Decode the frames of an animation, composed, each with its delay. Image data without a
frame control is a preview: it is decoded first and passed over, and only then are sixteen-bit
samples refused. -/
def decodeAnimation (s : ByteArray) (info : Info) : Except PngError (List (Layer × Duration)) := do
  let count := info.reading.frames.getD 0
  if count = 0 then return []
  let hd := info.header
  let blank := Layer.clear hd.width hd.height
  let canvas : Canvas := ⟨blank, blank, .clear, none⟩
  let first := gather s info.frameData s.size info.dataStart info.reading.sequence .empty
  let after := info.reading.afterRun first
  match info.reading.control with
  | none =>
    let _ ← decodeImage hd info.reading.palette first
    if let some layout := wideLayout info then throw (.wideAnimation layout)
    laterFrames s info count first.next after canvas []
  | some fc =>
    if let some layout := wideLayout info then throw (.wideAnimation layout)
    let canvas := canvas.disposeLast
    let pic ← decodeImage (frameHeader hd fc) info.reading.palette first
    let canvas := canvas.draw fc pic.toLayer
    laterFrames s info (count - 1) first.next after canvas
      [(canvas.current, frameDelay fc.delayNum fc.delayDen)]

theorem frameDelay_whole (num : Nat) : frameDelay num 1 = Duration.ofMillis (num * 1000) := by
  simp [frameDelay, Duration.ofMillis, Nat.mod_one]

end Png

end OledPanel
