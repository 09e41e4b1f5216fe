import OledPanel.Proofs.FrameEncoding
import OledPanel.Proofs.Geometry

/-!
# Pixels after drawing

Drawing writes single pixels, so what a drawing leaves at a pixel is read off the writes that hit
it. On a raster whose buffer holds at least three bytes a pixel (`Raster.Fits`):

- `pixel_setPixel`: painting a pixel of the grid changes that pixel and no other.
- `pixel_paintBlock`: painting each position of a block of rows and columns with a colour that
  depends only on the position leaves each pixel of the block with its colour and every other
  pixel as it was; pastes are such paintings (`paste_eq_paintBlock`).
- `mem_span`: the clipped span of a copy placed at `start` holds exactly the grid positions that
  the copy covers.
- `pixel_paste`: a paste shows the pasted raster where it lies over the grid, and the base
  elsewhere.
- `eq_of_pixel`: two rasters of one size with the same pixels are the same raster.
- Painting and pasting keep the buffer's length, so also a buffer of three bytes a pixel
  (`valid_paste`), and so does scaling (`valid_resample`).
-/

namespace OledPanel

namespace Raster

/-! ## One pixel -/

theorem index_inj {w x y x' y' : Nat} (hx : x < w) (hx' : x' < w) (h : y * w + x = y' * w + x') :
    x = x' ∧ y = y' := by
  have hw : 0 < w := Nat.lt_of_le_of_lt (Nat.zero_le x) hx
  have hmod := congrArg (· % w) h
  simp only [Nat.mul_comm y w, Nat.mul_comm y' w, Nat.mul_add_mod, Nat.mod_eq_of_lt hx,
    Nat.mod_eq_of_lt hx'] at hmod
  subst hmod
  exact ⟨rfl, Nat.eq_of_mul_eq_mul_right hw (Nat.add_right_cancel h)⟩

theorem getD_set! (b : ByteArray) {i : Nat} (hi : i < b.size) (v : UInt8) (k : Nat) :
    (b.set! i v)[k]?.getD 0 = if k = i then v else b[k]?.getD 0 := by
  show (b.data.set! i v)[k]?.getD 0 = if k = i then v else b.data[k]?.getD 0
  rw [Array.set!_eq_setIfInBounds, Array.getElem?_setIfInBounds]
  by_cases hk : k = i
  · subst hk
    rw [if_pos rfl, if_pos (show k < b.data.size from hi), if_pos rfl]
    rfl
  · rw [if_neg (Ne.symm hk), if_neg hk]

theorem width_setPixel (r : Raster) (x y : Nat) (c : Rgb) : (r.setPixel x y c).width = r.width :=
  congrArg Prod.fst (size_setPixel r x y c)

theorem height_setPixel (r : Raster) (x y : Nat) (c : Rgb) : (r.setPixel x y c).height = r.height :=
  congrArg Prod.snd (size_setPixel r x y c)

theorem valid_blank (w h : Nat) : (blank w h).Valid := Array.size_replicate ..

theorem size_bytes_setPixel (r : Raster) (x y : Nat) (c : Rgb) : (r.setPixel x y c).bytes.size = r.bytes.size := by
  unfold setPixel
  split
  · show (((r.bytes.set! _ c.r).set! _ c.g).set! _ c.b).size = r.bytes.size
    rw [ByteArray.size_set!, ByteArray.size_set!, ByteArray.size_set!]
  · rfl

theorem Fits.of_size {r r' : Raster} (hr : r.Fits) (hs : r'.bytes.size = r.bytes.size) (hw : r'.width = r.width)
    (hh : r'.height = r.height) : r'.Fits := by
  unfold Fits
  rw [hs, hw, hh]
  exact hr

theorem Valid.of_size {r r' : Raster} (hr : r.Valid) (hs : r'.bytes.size = r.bytes.size) (hw : r'.width = r.width)
    (hh : r'.height = r.height) : r'.Valid := by
  unfold Valid
  rw [hs, hw, hh]
  exact hr

theorem fits_setPixel {r : Raster} (hr : r.Fits) (x y : Nat) (c : Rgb) : (r.setPixel x y c).Fits :=
  hr.of_size (size_bytes_setPixel r x y c) (width_setPixel r x y c) (height_setPixel r x y c)

/-- The bytes of a painted pixel: its three channels at its offset, the old bytes elsewhere. -/
theorem byte_setPixel {r : Raster} (hr : r.Fits) {px py : Nat} (hp : r.contains px py) (c : Rgb) (k : Nat) :
    (r.setPixel px py c).byte k =
      if k = r.offset px py + 2 then c.b else if k = r.offset px py + 1 then c.g
      else if k = r.offset px py then c.r else r.byte k := by
  have hi : r.offset px py + 2 < r.bytes.size := by
    have := index_lt_mul hp.1 hp.2
    have hfit : r.height * r.width * 3 ≤ r.bytes.size := by
      rw [Nat.mul_comm r.height]
      exact hr
    unfold offset
    omega
  unfold setPixel
  rw [if_pos hp]
  show (((r.bytes.set! _ c.r).set! _ c.g).set! _ c.b)[k]?.getD 0 = _
  rw [getD_set! _ (by rw [ByteArray.size_set!, ByteArray.size_set!]; exact hi),
    getD_set! _ (by rw [ByteArray.size_set!]; omega), getD_set! _ (by omega)]
  rfl

theorem byte_setPixel_of_ne {r : Raster} (hr : r.Fits) {px py : Nat} (hp : r.contains px py) (c : Rgb) {k : Nat}
    (hk : k < r.offset px py ∨ r.offset px py + 3 ≤ k) : (r.setPixel px py c).byte k = r.byte k := by
  rw [byte_setPixel hr hp, if_neg (by omega), if_neg (by omega), if_neg (by omega)]

/-- **Painting one pixel** changes that pixel of the grid and no other. -/
theorem pixel_setPixel {r : Raster} (hr : r.Fits) {x y : Nat} (hx : x < r.width) (hy : y < r.height)
    (px py : Nat) (c : Rgb) : (r.setPixel px py c).pixel x y = if x = px ∧ y = py then c else r.pixel x y := by
  by_cases hp : r.contains px py
  · have hxy : (r.setPixel px py c).contains x y := by
      show x < (r.setPixel px py c).width ∧ y < (r.setPixel px py c).height
      rw [width_setPixel, height_setPixel]
      exact ⟨hx, hy⟩
    unfold pixel
    rw [if_pos hxy, if_pos (show r.contains x y from ⟨hx, hy⟩)]
    simp only [offset, width_setPixel]
    by_cases he : x = px ∧ y = py
    · obtain ⟨rfl, rfl⟩ := he
      rw [if_pos ⟨rfl, rfl⟩]
      simp only [byte_setPixel hr hp, offset]
      simp
    · -- another pixel of the grid lies wholly before or after the painted one
      have hne : y * r.width + x ≠ py * r.width + px := fun h => he (index_inj hx hp.1 h)
      have hfar : ∀ j < 3, (y * r.width + x) * 3 + j < r.offset px py ∨ r.offset px py + 3 ≤ (y * r.width + x) * 3 + j := by
        intro j hj
        unfold offset
        omega
      rw [if_neg he, byte_setPixel_of_ne hr hp c (by simpa using hfar 0 (by decide)),
        byte_setPixel_of_ne hr hp c (hfar 1 (by decide)), byte_setPixel_of_ne hr hp c (hfar 2 (by decide))]
  · -- a point off the grid paints nothing
    have hne : ¬(x = px ∧ y = py) := by
      rintro ⟨rfl, rfl⟩
      exact hp ⟨hx, hy⟩
    unfold setPixel
    rw [if_neg hp, if_neg hne]

/-! ## Blocks of pixels -/

/-- Paint each position `(px, py)` of the block `rows × cols` with `F px py`, row after row. -/
def paintBlock (r : Raster) (rows cols : List Nat) (F : Nat → Nat → Rgb) : Raster :=
  rows.foldl (fun acc py => cols.foldl (fun acc px => acc.setPixel px py (F px py)) acc) r

theorem paste_eq_paintBlock (r top : Raster) (x y : Int) :
    r.paste top x y = r.paintBlock (span y top.height r.height) (span x top.width r.width)
      fun px py => top.pixel (px - x).toNat (py - y).toNat := rfl

theorem paint_row (F : Nat → Rgb) (py : Nat) (cols : List Nat) {r : Raster} (hr : r.Fits) :
    let r' := cols.foldl (fun acc px => acc.setPixel px py (F px)) r
    r'.bytes.size = r.bytes.size ∧ r'.width = r.width ∧ r'.height = r.height ∧
      ∀ x y, x < r.width → y < r.height → r'.pixel x y = if y = py ∧ x ∈ cols then F x else r.pixel x y := by
  -- the writes are taken one at a time; each keeps the buffer's length and the size for the next
  induction cols generalizing r with
  | nil => exact ⟨rfl, rfl, rfl, fun x y _ _ => by simp⟩
  | cons c cs ih =>
    obtain ⟨hs, hw, hh, hp⟩ := ih (fits_setPixel hr c py (F c))
    refine ⟨hs.trans (size_bytes_setPixel r c py _), hw.trans (width_setPixel r c py _),
      hh.trans (height_setPixel r c py _), fun x y hx hy => ?_⟩
    rw [List.foldl_cons, hp x y (by rwa [width_setPixel]) (by rwa [height_setPixel]), pixel_setPixel hr hx hy]
    by_cases hrow : y = py
    · by_cases hcs : x ∈ cs
      · simp [hrow, hcs]
      · by_cases hxc : x = c
        · subst hxc
          simp [hrow]
        · simp [hrow, hcs, hxc]
    · simp [hrow]

theorem paint_block (F : Nat → Nat → Rgb) (rows cols : List Nat) {r : Raster} (hr : r.Fits) :
    let r' := r.paintBlock rows cols F
    r'.bytes.size = r.bytes.size ∧ r'.width = r.width ∧ r'.height = r.height ∧
      ∀ x y, x < r.width → y < r.height → r'.pixel x y = if y ∈ rows ∧ x ∈ cols then F x y else r.pixel x y := by
  induction rows generalizing r with
  | nil => exact ⟨rfl, rfl, rfl, fun x y _ _ => by simp [paintBlock]⟩
  | cons py rows ih =>
    obtain ⟨hs₁, hw₁, hh₁, hp₁⟩ := paint_row (F · py) py cols hr
    obtain ⟨hs, hw, hh, hp⟩ := ih (hr.of_size hs₁ hw₁ hh₁)
    refine ⟨hs.trans hs₁, hw.trans hw₁, hh.trans hh₁, fun x y hx hy => ?_⟩
    show (paintBlock _ rows cols F).pixel x y = _
    rw [hp x y (by rwa [hw₁]) (by rwa [hh₁]), hp₁ x y hx hy]
    by_cases hrow : y ∈ rows
    · by_cases hcol : x ∈ cols <;> simp [hrow, hcol]
    · by_cases hy' : y = py
      · subst hy'
        simp [hrow]
      · simp [hrow, hy']

theorem valid_paintBlock {r : Raster} (hr : r.Valid) (rows cols : List Nat) (F : Nat → Nat → Rgb) :
    (r.paintBlock rows cols F).Valid :=
  let ⟨hs, hw, hh, _⟩ := paint_block F rows cols hr.fits
  hr.of_size hs hw hh

/-- **Painting a block** leaves each pixel of the block with its colour and every other pixel as
it was. -/
theorem pixel_paintBlock {r : Raster} (hr : r.Fits) (rows cols : List Nat) (F : Nat → Nat → Rgb) {x y : Nat}
    (hx : x < r.width) (hy : y < r.height) :
    (r.paintBlock rows cols F).pixel x y = if y ∈ rows ∧ x ∈ cols then F x y else r.pixel x y :=
  (paint_block F rows cols hr).2.2.2 x y hx hy

/-! ## Pastes -/

/-- The clipped span of a copy of length `len` placed at `start` holds the positions the copy
covers that lie below `limit`. -/
theorem mem_span {start : Int} {len limit x : Nat} :
    x ∈ span start len limit ↔ start ≤ x ∧ (x : Int) < start + len ∧ x < limit := by
  unfold span
  simp only [List.mem_map, List.mem_range]
  constructor
  · rintro ⟨k, hk, rfl⟩
    omega
  · rintro ⟨h₁, h₂, h₃⟩
    exact ⟨(x - max start 0).toNat, by omega, by omega⟩

theorem width_paste (r top : Raster) (x y : Int) : (r.paste top x y).width = r.width :=
  congrArg Prod.fst (size_paste r top x y)

theorem height_paste (r top : Raster) (x y : Int) : (r.paste top x y).height = r.height :=
  congrArg Prod.snd (size_paste r top x y)

theorem valid_paste {r : Raster} (hr : r.Valid) (top : Raster) (x y : Int) : (r.paste top x y).Valid := by
  rw [paste_eq_paintBlock]
  exact valid_paintBlock hr _ _ _

/-- Painting the clipped spans of a `w × h` block placed at `(dx, dy)` paints exactly the pixels of
the grid that the block covers. -/
theorem pixel_paintBlock_span {r : Raster} (hr : r.Fits) (dx dy : Int) (w h : Nat) (F : Nat → Nat → Rgb)
    {x y : Nat} (hx : x < r.width) (hy : y < r.height) :
    (r.paintBlock (span dy h r.height) (span dx w r.width) F).pixel x y =
      if dx ≤ x ∧ (x : Int) < dx + w ∧ dy ≤ y ∧ (y : Int) < dy + h then F x y else r.pixel x y := by
  rw [pixel_paintBlock hr _ _ _ hx hy]
  by_cases hin : dx ≤ x ∧ (x : Int) < dx + w ∧ dy ≤ y ∧ (y : Int) < dy + h
  · rw [if_pos hin, if_pos ⟨mem_span.2 ⟨hin.2.2.1, hin.2.2.2, hy⟩, mem_span.2 ⟨hin.1, hin.2.1, hx⟩⟩]
  · refine (if_neg fun hmem => hin ?_).trans (if_neg hin).symm
    obtain ⟨hy₁, hy₂, -⟩ := mem_span.1 hmem.1
    obtain ⟨hx₁, hx₂, -⟩ := mem_span.1 hmem.2
    exact ⟨hx₁, hx₂, hy₁, hy₂⟩

/-- **A paste** shows the pasted raster where it lies over the grid and the base elsewhere. -/
theorem pixel_paste {r : Raster} (hr : r.Fits) (top : Raster) (dx dy : Int) {x y : Nat} (hx : x < r.width)
    (hy : y < r.height) : (r.paste top dx dy).pixel x y =
      if dx ≤ x ∧ (x : Int) < dx + top.width ∧ dy ≤ y ∧ (y : Int) < dy + top.height then
        top.pixel (x - dx).toNat (y - dy).toNat
      else r.pixel x y := by
  rw [paste_eq_paintBlock, pixel_paintBlock_span hr _ _ _ _ _ hx hy]

/-! ## Rasters read through their pixels -/

theorem pixel_of_not_contains {r : Raster} {x y : Nat} (h : ¬r.contains x y) : r.pixel x y = Rgb.black := by
  unfold pixel
  rw [if_neg h]

/-- **Two rasters of one size with the same pixels are the same raster**, when both buffers hold
three bytes a pixel. -/
theorem eq_of_pixel {r r' : Raster} (hr : r.Valid) (hr' : r'.Valid) (hw : r.width = r'.width)
    (hh : r.height = r'.height) (hp : ∀ x y, x < r.width → y < r.height → r.pixel x y = r'.pixel x y) :
    r = r' := by
  have hbytes : r.bytes = r'.bytes := by
    rw [← Picture.bytes_tabulate_pixel hr, ← Picture.bytes_tabulate_pixel hr', Picture.tabulate_congr hp, hw, hh]
  obtain ⟨w, h, b⟩ := r
  obtain ⟨w', h', b'⟩ := r'
  cases hw
  cases hh
  cases hbytes
  rfl

/-- Scaling a raster to its own size keeps it, an empty one included. -/
theorem resample_of_size {r : Raster} (hr : r.Valid) {w h : Nat} (hw : r.width = w) (hh : r.height = h) :
    r.resample w h = r := by
  unfold resample
  by_cases hz : r.width = 0 ∨ r.height = 0
  · -- an empty raster has no pixel, so the black one of its size is the same raster
    rw [if_pos hz]
    refine eq_of_pixel (valid_blank w h) hr hw.symm hh.symm fun x y hx hy => ?_
    have hx' : x < w := hx
    have hy' : y < h := hy
    omega
  · rw [if_neg hz, if_pos ⟨hw, hh⟩]

theorem valid_resample {r : Raster} (hr : r.Valid) (w h : Nat) : (r.resample w h).Valid := by
  unfold resample
  split
  · exact valid_blank w h
  · split
    · exact hr
    · show ((Array.range (h * w * 3)).map _).size = w * h * 3
      rw [Array.size_map, Array.size_range, Nat.mul_comm h w]

end Raster

end OledPanel
