import OledPanel.Proofs.Layout
import OledPanel.Proofs.Screen

/-!
# Frames in a foreign mode

A frame in the screen's own mode is sent as it is. A frame in another mode goes through its
image: its pixels expanded to RGB, a grey level repeated in every channel, then encoded again in
the screen's mode. This agrees with encoding the raster directly because a grey level is its own
luma (`Rgb.luma_grey`), and because the binary threshold reads the luma.

An RGB frame holds its raster's whole buffer, and an RGB buffer may run on past its last pixel.
Expanding such a frame keeps only its pixels, so the round trip drops the bytes past them, and a
frame in the screen's mode reaches the screen with those bytes.

- `Frame.Fits`: the frames the display makes hold at least `depth` bytes for each pixel, and in
  binary mode only bytes fully off or fully on (`fits_ofRaster`); `Frame.Valid`: exactly `depth`
  bytes, as the black frame and every frame of a one-byte mode has.
- `toPicture_toRaster`: a frame's image is its pixels expanded to RGB (`Frame.expand`).
- `expand_ofRaster_expand`, `ofRaster_expand_eq_iff`: encoding the expanded pixels in the frame's
  own mode keeps its pixels, and gives the frame back exactly when its buffer ends at its last
  pixel.
- `blitFrame_eq`: what the screen is sent for a frame of its size.
- `blitFrame_converts`: all of it.
-/

namespace OledPanel

namespace Picture

@[simp] theorem channels_ofBytes (w h : Nat) (ch : Channels) (bytes : ByteArray) :
    (ofBytes w h ch bytes).channels = ch := rfl

@[simp] theorem sample8_ofBytes (w h : Nat) (ch : Channels) (bytes : ByteArray) (x y c : Nat) :
    (ofBytes w h ch bytes).sample8 x y c = bytes[(y * w + x) * ch.count + c]?.getD 0 := by
  simp only [sample8, sample, ofBytes, Array.getElem?_map, Bool.false_eq_true, if_false]
  show _ = bytes.data[(y * w + x) * ch.count + c]?.getD 0
  cases bytes.data[(y * w + x) * ch.count + c]? <;> simp

end Picture

namespace Frame

/-- a frame as the display's own constructors leave it: at least `depth` bytes for each pixel,
since an RGB frame holds its raster's whole buffer, and in binary mode every byte fully off or
fully on -/
structure Fits (f : Frame) : Prop where
  size_le : f.width * f.height * f.mode.depth ≤ f.bytes.size
  binary : f.mode = .binary → ∀ b ∈ f.bytes.data.toList, b = 0 ∨ b = 0xFF

/-- a frame that fits with no byte past its last pixel -/
structure Valid (f : Frame) : Prop where
  size : f.bytes.size = f.width * f.height * f.mode.depth
  binary : f.mode = .binary → ∀ b ∈ f.bytes.data.toList, b = 0 ∨ b = 0xFF

theorem Valid.fits {f : Frame} (hf : f.Valid) : f.Fits := ⟨Nat.le_of_eq hf.size.symm, hf.binary⟩

/-- pixel `(x, y)` in RGB: its three bytes in RGB mode, its one byte in every channel otherwise -/
def colour (f : Frame) (x y : Nat) : Rgb :=
  let i := y * f.width + x
  match f.mode with
  | .rgb => ⟨f.byte (i * 3), f.byte (i * 3 + 1), f.byte (i * 3 + 2)⟩
  | _ => ⟨f.byte i, f.byte i, f.byte i⟩

/-- the frame's pixels expanded to an RGB raster -/
def expand (f : Frame) : Raster := Picture.tabulate f.width f.height f.colour

theorem expand_congr {f g : Frame} (hw : g.width = f.width) (hh : g.height = f.height)
    (hc : ∀ x y, x < f.width → y < f.height → g.colour x y = f.colour x y) : g.expand = f.expand := by
  unfold expand
  rw [hw, hh]
  exact Picture.tabulate_congr hc

theorem depth_of_ne_rgb {m : Mode} (hm : m ≠ .rgb) : m.depth = 1 := by
  cases m
  · exact absurd rfl hm
  · rfl
  · rfl

theorem count_channels (m : Mode) : (if m = .rgb then Channels.rgb else .grey).count = m.depth := by
  cases m <;> rfl

theorem size_of_ne_rgb {f : Frame} (hf : f.Valid) (hm : f.mode ≠ .rgb) : f.bytes.size = f.height * f.width := by
  rw [hf.size, depth_of_ne_rgb hm, Nat.mul_one, Nat.mul_comm]

theorem index_lt_of_ne_rgb {f : Frame} (hf : f.Fits) (hm : f.mode ≠ .rgb) {x y : Nat} (hx : x < f.width)
    (hy : y < f.height) : y * f.width + x < f.bytes.size := by
  have hle := hf.size_le
  rw [depth_of_ne_rgb hm, Nat.mul_one, Nat.mul_comm] at hle
  exact Nat.lt_of_lt_of_le (index_lt_mul hx hy) hle

theorem colour_of_ne_rgb {f : Frame} (hm : f.mode ≠ .rgb) (x y : Nat) :
    f.colour x y = ⟨f.byte (y * f.width + x), f.byte (y * f.width + x), f.byte (y * f.width + x)⟩ := by
  unfold colour
  split
  · rename_i h
    exact absurd h hm
  · rfl

theorem getElem?_bytes (f : Frame) {i : Nat} (hi : i < f.bytes.size) : f.bytes.data.toList[i]? = some (f.byte i) := by
  rw [Array.getElem?_toList]
  show f.bytes.data[i]? = some (f.bytes.data[i]?.getD 0)
  rw [Array.getElem?_eq_getElem hi]
  rfl

theorem ofRaster_of_ne_rgb (r : Raster) {m : Mode} (hm : m ≠ .rgb) :
    ofRaster r m = ⟨r.width, r.height, m, ⟨(r.pixels.map (level m)).toArray⟩⟩ := by
  cases m
  · exact absurd rfl hm
  · rfl
  · rfl

theorem ofRaster_congr {m : Mode} (hm : m ≠ .rgb) {g r : Raster} (hw : g.width = r.width)
    (hh : g.height = r.height) (hp : ∀ x y, x < r.width → y < r.height → level m (g.pixel x y) = level m (r.pixel x y)) :
    ofRaster g m = ofRaster r m := by
  rw [ofRaster_of_ne_rgb g hm, ofRaster_of_ne_rgb r hm, Raster.map_pixels_congr (level m) hw hh hp, hw, hh]

theorem byte_ofRaster_of_ne_rgb (r : Raster) {m : Mode} (hm : m ≠ .rgb) {x y : Nat} (hx : x < r.width)
    (hy : y < r.height) : (ofRaster r m).byte (y * r.width + x) = level m (r.pixel x y) := by
  rw [ofRaster_of_ne_rgb r hm]
  show ((r.pixels.map (level m)).toArray)[y * r.width + x]?.getD 0 = _
  rw [List.getElem?_toArray, List.getElem?_map, r.getElem?_pixels hx hy]
  rfl

/-! ## The display's frames -/

theorem size_ofRaster_of_ne_rgb (r : Raster) {m : Mode} (hm : m ≠ .rgb) :
    (ofRaster r m).bytes.size = r.width * r.height := by
  rw [ofRaster_of_ne_rgb r hm]
  show (r.pixels.map (level m)).toArray.size = _
  rw [List.size_toArray, List.length_map, Raster.length_pixels, Nat.mul_comm]

theorem size_ofRaster (r : Raster) (m : Mode) :
    (ofRaster r m).bytes.size = if m = .rgb then r.bytes.size else r.width * r.height := by
  by_cases hm : m = .rgb
  · subst hm
    rw [if_pos rfl]
    rfl
  · rw [if_neg hm, size_ofRaster_of_ne_rgb r hm]

/-- A one-byte mode holds `depth` bytes for each pixel of the raster, whatever its buffer. -/
theorem size_ofRaster_depth (r : Raster) {m : Mode} (hm : m ≠ .rgb) :
    (ofRaster r m).bytes.size = r.width * r.height * m.depth := by
  rw [size_ofRaster_of_ne_rgb r hm, depth_of_ne_rgb hm, Nat.mul_one]

theorem binary_ofRaster (r : Raster) {m : Mode} (hm : (ofRaster r m).mode = .binary) :
    ∀ b ∈ (ofRaster r m).bytes.data.toList, b = 0 ∨ b = 0xFF := by
  rw [mode_ofRaster] at hm
  subst hm
  intro b hb
  simp only [ofRaster, List.toList_toArray, List.mem_map] at hb
  obtain ⟨c, -, rfl⟩ := hb
  by_cases hc : c.luma ≥ litThreshold
  · exact .inr (if_pos hc)
  · exact .inl (if_neg hc)

theorem fits_ofRaster {r : Raster} (hr : r.Fits) (m : Mode) : (ofRaster r m).Fits := by
  refine ⟨?_, binary_ofRaster r⟩
  rw [width_ofRaster, height_ofRaster, mode_ofRaster]
  by_cases hm : m = .rgb
  · subst hm
    exact hr
  · exact Nat.le_of_eq (size_ofRaster_depth r hm).symm

theorem valid_ofRaster {r : Raster} (hr : r.Valid) (m : Mode) : (ofRaster r m).Valid := by
  refine ⟨?_, binary_ofRaster r⟩
  rw [width_ofRaster, height_ofRaster, mode_ofRaster]
  by_cases hm : m = .rgb
  · subst hm
    exact hr
  · exact size_ofRaster_depth r hm

theorem valid_black (w h : Nat) (m : Mode) : (black w h m).Valid := by
  refine ⟨Array.size_replicate .., fun _ b hb => ?_⟩
  simp only [black, Array.toList_replicate, List.mem_replicate] at hb
  exact .inl hb.2

/-! ## A frame's image -/

/-- A frame whose buffer has at least `depth` bytes for each pixel is viewed as an 8-bit picture of
that buffer: RGB in RGB mode, grey otherwise. -/
theorem toPicture_eq {f : Frame} (hf : f.width * f.height * f.mode.depth ≤ f.bytes.size) :
    f.toPicture = Picture.ofBytes f.width f.height (if f.mode = .rgb then .rgb else .grey) f.bytes := by
  have hc : f.width * f.height * (if f.mode = .rgb then Channels.rgb else .grey).count ≤ f.bytes.size := by
    rw [count_channels]
    exact hf
  unfold toPicture
  simp only
  rw [if_pos hc]

/-- **A frame's image is its pixels expanded to RGB**, once its buffer has at least `depth` bytes
for each pixel: RGB bytes as they are, a grey level repeated in every channel. -/
theorem toPicture_toRaster {f : Frame} (hf : f.width * f.height * f.mode.depth ≤ f.bytes.size) :
    f.toPicture.toRaster = f.expand := by
  rw [toPicture_eq hf]
  unfold Picture.toRaster expand
  congr 1
  funext x y
  cases hm : f.mode <;> simp [Picture.rgba8, colour, byte, hm, Channels.count]

theorem pixel_expand (f : Frame) {x y : Nat} (hx : x < f.width) (hy : y < f.height) :
    f.expand.pixel x y = f.colour x y :=
  Picture.pixel_tabulate _ _ _ hx hy

/-! ## Encoding the expanded pixels again -/

theorem bytes_expand_rgb {f : Frame} (hf : f.Valid) (hm : f.mode = .rgb) : f.expand.bytes = f.bytes := by
  let r : Raster := ⟨f.width, f.height, f.bytes⟩
  have hr : r.Valid := by
    show f.bytes.size = f.width * f.height * 3
    rw [hf.size, hm]
    rfl
  have hcol : ∀ x y, x < f.width → y < f.height → f.colour x y = r.pixel x y := by
    intro x y hx hy
    unfold colour Raster.pixel
    rw [hm, if_pos ⟨hx, hy⟩]
    rfl
  rw [expand, Picture.tabulate_congr hcol]
  exact Picture.bytes_tabulate_pixel hr

/-- In a one-byte mode a pixel's byte is the level of its expanded colour: a grey level is its own
luma, and a binary byte is fully off or fully on. -/
theorem level_colour {f : Frame} (hf : f.Fits) (hm : f.mode ≠ .rgb) {x y : Nat} (hx : x < f.width)
    (hy : y < f.height) : level f.mode (f.colour x y) = f.byte (y * f.width + x) := by
  have hi := index_lt_of_ne_rgb hf hm hx hy
  rw [colour_of_ne_rgb hm]
  cases hmode : f.mode with
  | rgb => exact absurd hmode hm
  | luma => exact Rgb.luma_grey _
  | binary =>
    -- the byte is one of the two a binary frame holds, and each is its own threshold
    have hb := hf.binary hmode _ (List.mem_of_getElem? (f.getElem?_bytes hi))
    simp only [level, Rgb.luma_grey]
    rcases hb with hb | hb <;> rw [hb] <;> decide

theorem levels_expand {f : Frame} (hf : f.Valid) (hm : f.mode ≠ .rgb) :
    f.expand.pixels.map (level f.mode) = f.bytes.data.toList := by
  have hlen : f.bytes.data.toList.length = f.height * f.width := by
    rw [Array.length_toList]
    exact size_of_ne_rgb hf hm
  have hpx : f.expand.pixels =
      (List.range f.height).flatMap fun y => (List.range f.width).map fun x => f.expand.pixel x y :=
    Raster.pixels_eq _
  rw [hpx, List.map_flatMap]
  refine flatMap_range_eq _ (fun _ => by simp) hlen fun y x hy hx => ?_
  have hi : y * f.width + x < f.bytes.size := by
    rw [size_of_ne_rgb hf hm]
    exact index_lt_mul hx hy
  rw [List.map_map, List.getElem?_map, List.getElem?_range hx, f.getElem?_bytes hi]
  simp only [Option.map_some, Function.comp_apply]
  rw [pixel_expand f hx hy, level_colour hf.fits hm hx hy]

/-- **Expanding a frame and encoding it again in its own mode gives it back**, when its buffer ends
at its last pixel. -/
theorem ofRaster_expand {f : Frame} (hf : f.Valid) : ofRaster f.expand f.mode = f := by
  obtain ⟨w, h, m, bytes⟩ := f
  cases m with
  | rgb =>
    show Frame.mk w h .rgb (expand ⟨w, h, .rgb, bytes⟩).bytes = _
    rw [bytes_expand_rgb hf rfl]
  | luma =>
    rw [ofRaster_of_ne_rgb _ (by simp), levels_expand hf (by simp), Array.toArray_toList]
    rfl
  | binary =>
    rw [ofRaster_of_ne_rgb _ (by simp), levels_expand hf (by simp), Array.toArray_toList]
    rfl

theorem colour_ofRaster_rgb (r : Raster) {x y : Nat} (hx : x < r.width) (hy : y < r.height) :
    (ofRaster r .rgb).colour x y = r.pixel x y := by
  unfold Raster.pixel
  rw [if_pos ⟨hx, hy⟩]
  rfl

theorem colour_ofRaster_of_ne_rgb (r : Raster) {m : Mode} (hm : m ≠ .rgb) {x y : Nat} (hx : x < r.width)
    (hy : y < r.height) :
    (ofRaster r m).colour x y = ⟨level m (r.pixel x y), level m (r.pixel x y), level m (r.pixel x y)⟩ := by
  rw [colour_of_ne_rgb (by rwa [mode_ofRaster]), width_ofRaster, byte_ofRaster_of_ne_rgb r hm hx hy]

/-- Expanding a frame made from a raster in RGB, or in luma for a binary encoding, and encoding it
again in a one-byte mode, encodes the raster itself. -/
theorem ofRaster_expand_ofRaster (r : Raster) {m M : Mode} (hM : M ≠ .rgb)
    (hm : m = .rgb ∨ (m = .luma ∧ M = .binary)) : ofRaster (ofRaster r m).expand M = ofRaster r M := by
  rcases hm with rfl | ⟨rfl, rfl⟩
  · refine ofRaster_congr hM rfl rfl fun x y hx hy => ?_
    rw [pixel_expand _ hx hy, colour_ofRaster_rgb r hx hy]
  · -- the binary threshold reads the luma, and a grey level is its own luma
    refine ofRaster_congr hM rfl rfl fun x y hx hy => ?_
    rw [pixel_expand _ hx hy, colour_ofRaster_of_ne_rgb r (by decide) hx hy]
    simp only [level, Rgb.luma_grey]

theorem expand_ofRaster_expand {f : Frame} (hf : f.Fits) : (ofRaster f.expand f.mode).expand = f.expand := by
  refine expand_congr (width_ofRaster _ _) (height_ofRaster _ _) fun x y hx hy => ?_
  by_cases hm : f.mode = .rgb
  · rw [hm, colour_ofRaster_rgb _ hx hy, pixel_expand f hx hy]
  · -- a one-byte pixel is a grey level, which is its own level
    rw [colour_ofRaster_of_ne_rgb _ hm hx hy, pixel_expand f hx hy, level_colour hf hm hx hy, colour_of_ne_rgb hm]

/-- Expanding a frame and encoding it again in its own mode gives it back exactly when its buffer
ends at its last pixel: the encoding of a raster built pixel by pixel has no byte past them. -/
theorem ofRaster_expand_eq_iff {f : Frame} (hf : f.Fits) :
    ofRaster f.expand f.mode = f ↔ f.bytes.size = f.width * f.height * f.mode.depth := by
  constructor
  · intro h
    have hv : (ofRaster f.expand f.mode).Valid := valid_ofRaster (Picture.valid_tabulate _ _ _) f.mode
    rw [h] at hv
    exact hv.size
  · intro h
    exact ofRaster_expand ⟨h, hf.binary⟩

end Frame

namespace Screen

open OledPanel.Frame

/-- **Showing a frame.** A frame of the screen's size is sent as it is when it is in the screen's
mode, and otherwise as its pixels expanded to RGB and encoded in the screen's mode. -/
theorem blitFrame_eq {f : Frame} (hf : f.Fits) (s : Screen) (hw : f.width = s.width) (hh : f.height = s.height) :
    (blitFrame f).run.run s = (transmit (if f.mode = s.mode then f else ofRaster f.expand s.mode)).run.run s := by
  rw [blitFrame_run]
  by_cases hm : f.mode = s.mode
  · rw [if_pos hm, if_pos hm]
  · have hsize : f.expand.width = s.width ∧ f.expand.height = s.height := ⟨hw, hh⟩
    rw [if_neg hm, if_neg hm, toPicture_toRaster hf.size_le, blit_run, if_pos hsize]

theorem shown_of_transmit_ok {F : Frame} {s s' : Screen} {g : Nat} (h : (transmit F).run.run s = (.ok g, s')) :
    s'.display.shown = s.display.shown.push F := by
  have hs := sent_transmit F s
  rw [h] at hs
  cases hs with
  | kept _ _ hk => exact hk.shown

/-- Whatever its size, a frame that is shown is kept as it is in the screen's mode, and as its
pixels expanded to RGB and encoded in the screen's mode otherwise. -/
theorem blitFrame_ok_shown {f : Frame} (hf : f.Fits) {s s' : Screen} {g : Nat}
    (h : (blitFrame f).run.run s = (.ok g, s')) :
    s'.display.shown = s.display.shown.push (if f.mode = s.mode then f else ofRaster f.expand s.mode) := by
  rw [blitFrame_run] at h
  by_cases hm : f.mode = s.mode
  · rw [if_pos hm] at h
    rw [if_pos hm]
    exact shown_of_transmit_ok h
  · rw [if_neg hm, toPicture_toRaster hf.size_le, blit_run] at h
    rw [if_neg hm]
    by_cases hsize : f.expand.width = s.width ∧ f.expand.height = s.height
    · rw [if_pos hsize] at h
      exact shown_of_transmit_ok h
    · -- a raster of another size is refused before anything is sent
      rw [if_neg hsize] at h
      cases h

/-- A frame made from a raster of the screen's size, in the screen's mode, in RGB, or in luma for
a binary screen, is shown exactly as the raster is. -/
theorem blitFrame_ofRaster {r : Raster} (hr : r.Fits) {m : Mode} (s : Screen) (hw : r.width = s.width)
    (hh : r.height = s.height) (hm : m = s.mode ∨ m = .rgb ∨ (m = .luma ∧ s.mode = .binary)) :
    (blitFrame (ofRaster r m)).run.run s = (blit r).run.run s := by
  rw [blit_run, if_pos ⟨hw, hh⟩]
  by_cases hms : m = s.mode
  · rw [blitFrame_run, mode_ofRaster, if_pos hms, hms]
  · have hconv := hm.resolve_left hms
    -- the screen's mode is a one-byte mode: RGB would be `m` itself
    have hM : s.mode ≠ .rgb := by
      rcases hconv with rfl | ⟨-, hb⟩
      · exact fun h => hms h.symm
      · rw [hb]
        decide
    rw [blitFrame_eq (fits_ofRaster hr m) s (by rw [width_ofRaster, hw]) (by rw [height_ofRaster, hh]),
      mode_ofRaster, if_neg hms, ofRaster_expand_ofRaster r hM hconv]

/-- **Frames in a foreign mode.** Take a raster and a frame whose buffers reach their last pixel.
The frames made from the raster do too, and one of the screen's size, made in the screen's mode, in
RGB, or in luma for a binary screen, is shown exactly as the raster is. The frame, if of the
screen's size, is sent as it is in the screen's mode and as its pixels expanded to RGB, grey
repeated in every channel, and encoded in the screen's mode otherwise; whatever its size, it is
kept so when it is shown. Its image is those pixels; encoding them in its own mode keeps its
pixels, and gives the frame back exactly when its buffer ends at its last pixel. -/
theorem blitFrame_converts {r : Raster} (hr : r.Fits) {f : Frame} (hf : f.Fits) :
    (∀ m, (ofRaster r m).Fits) ∧
    (∀ (s : Screen) (m : Mode), r.width = s.width → r.height = s.height →
      (m = s.mode ∨ m = .rgb ∨ (m = .luma ∧ s.mode = .binary)) →
      (blitFrame (ofRaster r m)).run.run s = (blit r).run.run s) ∧
    (∀ s : Screen, f.width = s.width → f.height = s.height →
      (blitFrame f).run.run s = (transmit (if f.mode = s.mode then f else ofRaster f.expand s.mode)).run.run s) ∧
    (∀ (s s' : Screen) (g : Nat), (blitFrame f).run.run s = (.ok g, s') →
      s'.display.shown = s.display.shown.push (if f.mode = s.mode then f else ofRaster f.expand s.mode)) ∧
    f.toPicture.toRaster = f.expand ∧ (ofRaster f.toPicture.toRaster f.mode).expand = f.expand ∧
      (ofRaster f.toPicture.toRaster f.mode = f ↔ f.bytes.size = f.width * f.height * f.mode.depth) := by
  have himage := toPicture_toRaster hf.size_le
  refine ⟨fits_ofRaster hr, fun s m hw hh hm => blitFrame_ofRaster hr s hw hh hm, fun s hw hh => blitFrame_eq hf s hw hh,
    fun s s' g h => blitFrame_ok_shown hf h, himage, ?_, ?_⟩
  · rw [himage]
    exact expand_ofRaster_expand hf
  · rw [himage]
    exact ofRaster_expand_eq_iff hf

/-- A one-pixel raster whose buffer runs a byte past its pixel, and its RGB frame: encoding the
frame's image again keeps the pixel and drops the byte, so it does not give the frame back. -/
theorem blitFrame_converts_padded :
    (⟨1, 1, ⟨#[255, 255, 255, 7]⟩⟩ : Raster).Fits ∧ (ofRaster ⟨1, 1, ⟨#[255, 255, 255, 7]⟩⟩ .rgb).Fits ∧
      (ofRaster (ofRaster ⟨1, 1, ⟨#[255, 255, 255, 7]⟩⟩ .rgb).toPicture.toRaster .rgb).expand =
        (ofRaster ⟨1, 1, ⟨#[255, 255, 255, 7]⟩⟩ .rgb).expand ∧
      ofRaster (ofRaster ⟨1, 1, ⟨#[255, 255, 255, 7]⟩⟩ .rgb).toPicture.toRaster .rgb ≠
        ofRaster ⟨1, 1, ⟨#[255, 255, 255, 7]⟩⟩ .rgb := by
  have hr : (⟨1, 1, ⟨#[255, 255, 255, 7]⟩⟩ : Raster).Fits := by
    unfold Raster.Fits
    decide
  obtain ⟨hfits, -, -, -, -, hpixels, hiff⟩ := blitFrame_converts hr (fits_ofRaster hr .rgb)
  exact ⟨hr, hfits .rgb, hpixels, fun h => absurd (hiff.1 h) (by decide)⟩

end Screen

end OledPanel
