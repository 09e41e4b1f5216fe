import OledPanel.Proofs.ModeConversion

/-!
# Frames encode rasters

A frame made from a raster of `w × h` pixels keeps pixel `(x, y)` from byte `(y * w + x) * depth`
on, and reads back at every pixel the level its mode gives the raster's colour there: the luma in
RGB and luma modes, fully on or fully off by the threshold in binary mode. Its image is its own
buffer, and the black frame is the encoding of a black raster.

A one-byte mode holds `w * h` bytes. RGB holds the raster's buffer as it is, and an RGB buffer
needs only to reach its last pixel, so an RGB frame has `w * h * 3` bytes exactly when its raster
has (`size_ofRaster_eq_iff`).

- `Frame.Encodes r m f`: the facts above, for the raster `r`, the mode `m` and the frame `f`.
- `brightness_ofRaster`: a pixel of an encoded raster reads back as its colour's level, and
  nothing is read off the grid.
- `sample8_toPicture`: a frame's image holds its bytes, at the offset of each pixel and channel.
- `black_eq_ofRaster_blank`: the black frame is the encoding of the black raster.
- `ofRaster_encodes`: every raster is encoded so, in every mode, and the black frame of every size
  is that of the black raster and is black.
-/

namespace OledPanel

namespace Raster

@[simp] theorem byte_blank (w h i : Nat) : (blank w h).byte i = 0 := by
  show (Array.replicate (w * h * 3) (0 : UInt8))[i]?.getD 0 = 0
  rw [Array.getElem?_replicate]
  split <;> rfl

@[simp] theorem pixel_blank (w h x y : Nat) : (blank w h).pixel x y = Rgb.black := by
  unfold pixel
  split
  · simp only [byte_blank]
    rfl
  · rfl

theorem pixels_blank (w h : Nat) : (blank w h).pixels = List.replicate (h * w) Rgb.black := by
  rw [List.eq_replicate_iff, length_pixels]
  refine ⟨rfl, fun c hc => ?_⟩
  simp only [pixels, List.mem_flatMap, List.mem_map] at hc
  obtain ⟨y, -, x, -, rfl⟩ := hc
  exact pixel_blank w h x y

end Raster

namespace Frame

/-- `f` encodes the raster `r` in mode `m`: it holds the raster's buffer in RGB and one byte a
pixel otherwise, row after row, each pixel of the grid reads back as the level of its colour (the
luma, or in binary mode fully on when the luma reaches the threshold and fully off below it) from
bytes inside the buffer, a binary buffer holds only those two bytes, and the frame's image is its
buffer as it is -/
structure Encodes (r : Raster) (m : Mode) (f : Frame) : Prop where
  size : f.bytes.size = if m = .rgb then r.bytes.size else r.width * r.height
  brightness_eq_none : ∀ x y, f.brightness x y = none ↔ (r.width ≤ x ∨ r.height ≤ y)
  brightness_eq_some : ∀ x y, x < r.width → y < r.height →
    f.brightness x y = some (if m = .binary then (if (r.pixel x y).luma ≥ litThreshold then 0xFF else 0x00)
      else (r.pixel x y).luma)
  index_lt : ∀ x y j, x < r.width → y < r.height → j < m.depth → (y * r.width + x) * m.depth + j < f.bytes.size
  binary : m = .binary → ∀ b ∈ f.bytes.data.toList, b = 0x00 ∨ b = 0xFF
  toPicture_eq : f.toPicture = Picture.ofBytes r.width r.height (if m = .rgb then .rgb else .grey) f.bytes
  sample8 : ∀ x y c, f.toPicture.sample8 x y c = f.byte ((y * r.width + x) * m.depth + c)

theorem level_eq (m : Mode) (c : Rgb) :
    level m c = if m = .binary then (if c.luma ≥ litThreshold then 0xFF else 0x00) else c.luma := by
  cases m <;> rfl

/-- **Reading a pixel back.** A pixel of an encoded raster reads as the level of its colour; off
the grid nothing is read. -/
theorem brightness_ofRaster (r : Raster) (m : Mode) (x y : Nat) :
    (ofRaster r m).brightness x y = if x < r.width ∧ y < r.height then some (level m (r.pixel x y)) else none := by
  unfold brightness
  rw [width_ofRaster, height_ofRaster, mode_ofRaster]
  by_cases hxy : x < r.width ∧ y < r.height
  · rw [if_pos hxy, if_pos hxy]
    cases m with
    | rgb =>
      -- an RGB frame holds the raster's own bytes, three a pixel
      show some (Rgb.luma ⟨r.byte _, r.byte _, r.byte _⟩) = some (r.pixel x y).luma
      unfold Raster.pixel
      rw [if_pos (show r.contains x y from hxy)]
      rfl
    | luma | binary =>
      -- a one-byte mode holds the level at the pixel's own index
      show some ((ofRaster r _).byte ((y * r.width + x) * 1)) = _
      rw [Nat.mul_one, byte_ofRaster_of_ne_rgb r (by decide) hxy.1 hxy.2]
  · rw [if_neg hxy, if_neg hxy]

theorem index_lt_size {f : Frame} (hf : f.width * f.height * f.mode.depth ≤ f.bytes.size) {x y j : Nat}
    (hx : x < f.width) (hy : y < f.height) (hj : j < f.mode.depth) :
    (y * f.width + x) * f.mode.depth + j < f.bytes.size := by
  have hp : y * f.width + x + 1 ≤ f.height * f.width := index_lt_mul hx hy
  calc (y * f.width + x) * f.mode.depth + j < (y * f.width + x + 1) * f.mode.depth := by
        rw [Nat.succ_mul]
        omega
    _ ≤ f.height * f.width * f.mode.depth := Nat.mul_le_mul_right _ hp
    _ ≤ f.bytes.size := by rw [Nat.mul_comm f.height]; exact hf

/-- **A frame's image holds its bytes**: channel `c` of pixel `(x, y)` is the byte at that pixel's
offset plus `c`, once the buffer has at least `depth` bytes a pixel. -/
theorem sample8_toPicture {f : Frame} (hf : f.width * f.height * f.mode.depth ≤ f.bytes.size) (x y c : Nat) :
    f.toPicture.sample8 x y c = f.byte ((y * f.width + x) * f.mode.depth + c) := by
  rw [toPicture_eq hf, Picture.sample8_ofBytes, count_channels]
  rfl

/-- **The black frame is the encoding of the black raster.** -/
theorem black_eq_ofRaster_blank (w h : Nat) (m : Mode) : black w h m = ofRaster (Raster.blank w h) m := by
  cases m with
  | rgb => rfl
  | luma | binary =>
    rw [ofRaster_of_ne_rgb _ (by decide), Raster.pixels_blank, List.map_replicate, List.toArray_replicate]
    show Frame.mk w h _ ⟨Array.replicate (w * h * 1) 0⟩ = Frame.mk w h _ ⟨Array.replicate (h * w) 0⟩
    rw [Nat.mul_one, Nat.mul_comm w h]

/-- An encoding holds `depth` bytes for each pixel exactly when its mode has one byte a pixel or
the raster's buffer ends at its last pixel. -/
theorem size_ofRaster_eq_iff (r : Raster) (m : Mode) :
    (ofRaster r m).bytes.size = r.width * r.height * m.depth ↔ m ≠ .rgb ∨ r.Valid := by
  by_cases hm : m = .rgb
  · subst hm
    rw [or_iff_right (fun h => h rfl)]
    rfl
  · exact iff_of_true (size_ofRaster_depth r hm) (.inl hm)

theorem encodes_ofRaster {r : Raster} (hr : r.Fits) (m : Mode) : Encodes r m (ofRaster r m) := by
  have hf := fits_ofRaster hr m
  have hsize : (ofRaster r m).width * (ofRaster r m).height * (ofRaster r m).mode.depth ≤ (ofRaster r m).bytes.size :=
    hf.size_le
  refine ⟨size_ofRaster r m, fun x y => ?_, fun x y hx hy => ?_, fun x y j hx hy hj => ?_, ?_, ?_, fun x y c => ?_⟩
  · rw [brightness_ofRaster]
    by_cases hxy : x < r.width ∧ y < r.height
    · rw [if_pos hxy]
      simp only [reduceCtorEq, false_iff, not_or, Nat.not_le]
      exact hxy
    · rw [if_neg hxy]
      simp only [true_iff]
      omega
  · rw [brightness_ofRaster, if_pos ⟨hx, hy⟩, level_eq]
  · simpa using index_lt_size hsize (by simpa using hx) (by simpa using hy) (by simpa using hj)
  · simpa using hf.binary
  · simpa using toPicture_eq hsize
  · simpa using sample8_toPicture hsize x y c

/-- **Frames encode rasters.** For every raster whose buffer reaches its last pixel and every
mode, the frame made from it holds the raster's buffer in RGB and one byte a pixel otherwise, so
`depth` bytes a pixel exactly when the mode has one byte a pixel or the raster's buffer ends at its
last pixel; it reads back at each pixel of the grid the luma of its colour, thresholded in binary
mode, from bytes inside the buffer and nothing off the grid, holds only fully-on and fully-off
bytes in binary mode, and has its own buffer as its image; and the black frame of every size is
the encoding of the black raster of that size, and is black. -/
theorem ofRaster_encodes {r : Raster} (hr : r.Fits) (m : Mode) :
    Encodes r m (ofRaster r m) ∧
    ((ofRaster r m).bytes.size = r.width * r.height * m.depth ↔ m ≠ .rgb ∨ r.Valid) ∧
    ∀ w h, black w h m = ofRaster (Raster.blank w h) m ∧ (black w h m).isBlack = true :=
  ⟨encodes_ofRaster hr m, size_ofRaster_eq_iff r m, fun w h => ⟨black_eq_ofRaster_blank w h m, isBlack_black w h m⟩⟩

/-- A one-pixel raster whose buffer runs a byte past its pixel, encoded in RGB: four bytes, not
three. -/
theorem ofRaster_encodes_padded :
    (⟨1, 1, ⟨#[0, 0, 0, 7]⟩⟩ : Raster).Fits ∧
      Encodes ⟨1, 1, ⟨#[0, 0, 0, 7]⟩⟩ .rgb (ofRaster ⟨1, 1, ⟨#[0, 0, 0, 7]⟩⟩ .rgb) ∧
      (ofRaster ⟨1, 1, ⟨#[0, 0, 0, 7]⟩⟩ .rgb).bytes.size ≠ 1 * 1 * Mode.rgb.depth := by
  have hr : (⟨1, 1, ⟨#[0, 0, 0, 7]⟩⟩ : Raster).Fits := by
    unfold Raster.Fits
    decide
  obtain ⟨he, hsize, -⟩ := ofRaster_encodes hr .rgb
  refine ⟨hr, he, fun h => ?_⟩
  rcases hsize.1 h with hm | hv
  · exact hm rfl
  · exact absurd hv (by unfold Raster.Valid; decide)

end Frame

end OledPanel
