import Mathlib.Data.List.Basic
import OledPanel.Frame

/-!
# Pixel layout

Rasters and frames keep their pixels row-major: pixel `(x, y)` of a `w`-wide grid is entry
`y * w + x` of the pixel list, and its bytes start at `(y * w + x) * depth`. This module reads
pixels back from that layout.

- `getElem?_flatMap_range`: entry `k * c + j` of blocks of length `c` laid end to end is entry `j`
  of block `k`. Every layout fact below is this one, once for rows and once for channels.
- `bytes_tabulate`, `pixel_tabulate`: a raster built pixel by pixel holds each pixel's three
  channels in order, and reads each pixel back.
- `getElem?_pixels`, `map_pixels_congr`: the pixel list holds pixel `(x, y)` at `y * w + x`, and
  two rasters of one size whose pixels agree have the same pixel list.
- `bytes_tabulate_pixel`: rebuilding a raster pixel by pixel gives back its buffer.
- `Raster.Valid`: a raster whose buffer has three bytes for each pixel; a raster built pixel by
  pixel is one (`valid_tabulate`). `Raster.Fits`: one whose buffer has at least that many, as an
  RGB image buffer's container may.
-/

namespace OledPanel

theorem index_lt_mul {w h x y : Nat} (hx : x < w) (hy : y < h) : y * w + x < h * w :=
  calc y * w + x < (y + 1) * w := by rw [Nat.succ_mul]; omega
    _ ≤ h * w := Nat.mul_le_mul_right w hy

section Blocks

variable {α : Type}

theorem length_flatMap_range (F : Nat → List α) {c : Nat} (hF : ∀ k, (F k).length = c) (n : Nat) :
    ((List.range n).flatMap F).length = n * c := by
  induction n with
  | zero => simp
  | succ n ih =>
    rw [List.range_succ, List.flatMap_append, List.length_append, ih]
    simp [hF, Nat.succ_mul]

/-- Entry `k * c + j` of blocks of length `c` laid end to end is entry `j` of block `k`. -/
theorem getElem?_flatMap_range (F : Nat → List α) {c : Nat} (hF : ∀ k, (F k).length = c) {n k j : Nat}
    (hk : k < n) (hj : j < c) : ((List.range n).flatMap F)[k * c + j]? = (F k)[j]? := by
  induction n with
  | zero => omega
  | succ n ih =>
    rw [List.range_succ, List.flatMap_append]
    rcases Nat.lt_or_ge k n with h | h
    · -- block `k` lies in the first `n` blocks
      have hlen : k * c + j < ((List.range n).flatMap F).length := by
        rw [length_flatMap_range F hF]
        exact index_lt_mul hj h
      rw [List.getElem?_append_left hlen, ih h]
    · -- block `k` is the last one
      have hkn : k = n := by omega
      subst hkn
      rw [List.getElem?_append_right (by rw [length_flatMap_range F hF]; omega), length_flatMap_range F hF]
      simp

/-- A list of `n * c` entries is the blocks of length `c` laid end to end once entry `k * c + j` of
the list is entry `j` of block `k`. -/
theorem flatMap_range_eq (F : Nat → List α) {c : Nat} (hF : ∀ k, (F k).length = c) {n : Nat} {L : List α}
    (hL : L.length = n * c) (h : ∀ k j, k < n → j < c → (F k)[j]? = L[k * c + j]?) :
    (List.range n).flatMap F = L := by
  apply List.ext_getElem?
  intro i
  by_cases hi : i < n * c
  · -- entry `i` is entry `i % c` of block `i / c`
    have hc : 0 < c := Nat.pos_of_ne_zero fun hc => by rw [hc, Nat.mul_zero] at hi; omega
    have hk : i / c < n := (Nat.div_lt_iff_lt_mul hc).2 hi
    have hj : i % c < c := Nat.mod_lt i hc
    rw [← Nat.div_add_mod' i c, getElem?_flatMap_range F hF hk hj, h _ _ hk hj]
  · rw [List.getElem?_eq_none (by rw [length_flatMap_range F hF]; omega), List.getElem?_eq_none (by omega)]

end Blocks

theorem toList_foldl_append {β : Type} (xs : List β) (g : ByteArray → β → ByteArray) (B : β → List UInt8)
    (hg : ∀ acc x, (g acc x).data.toList = acc.data.toList ++ B x) (acc : ByteArray) :
    (xs.foldl g acc).data.toList = acc.data.toList ++ xs.flatMap B := by
  induction xs generalizing acc with
  | nil => simp
  | cons x xs ih => rw [List.foldl_cons, ih, hg, List.flatMap_cons, List.append_assoc]

namespace Raster

/-- a raster whose buffer holds three bytes for each pixel, as an RGB image buffer always does -/
def Valid (r : Raster) : Prop := r.bytes.size = r.width * r.height * 3

/-- a raster whose buffer holds at least three bytes for each pixel: what an RGB image buffer
requires of its container, which may run on past the last pixel -/
def Fits (r : Raster) : Prop := r.width * r.height * 3 ≤ r.bytes.size

theorem Valid.fits {r : Raster} (hr : r.Valid) : r.Fits := Nat.le_of_eq hr.symm

theorem byte_eq (r : Raster) (i : Nat) : r.byte i = r.bytes.data.toList[i]?.getD 0 := by
  rw [Array.getElem?_toList]
  rfl

theorem pixels_eq (r : Raster) :
    r.pixels = (List.range r.height).flatMap fun y => (List.range r.width).map fun x => r.pixel x y := rfl

theorem length_pixels (r : Raster) : r.pixels.length = r.height * r.width :=
  length_flatMap_range _ (fun _ => by simp) _

theorem getElem?_pixels (r : Raster) {x y : Nat} (hx : x < r.width) (hy : y < r.height) :
    r.pixels[y * r.width + x]? = some (r.pixel x y) := by
  rw [pixels_eq, getElem?_flatMap_range _ (fun _ => by simp) hy hx]
  simp [hx]

theorem map_pixels_congr {β : Type} (φ : Rgb → β) {r r' : Raster} (hw : r'.width = r.width)
    (hh : r'.height = r.height) (hp : ∀ x y, x < r.width → y < r.height → φ (r'.pixel x y) = φ (r.pixel x y)) :
    r'.pixels.map φ = r.pixels.map φ := by
  rw [pixels_eq, pixels_eq, hw, hh, List.map_flatMap, List.map_flatMap]
  refine List.flatMap_congr fun y hy => ?_
  rw [List.map_map, List.map_map]
  refine List.map_congr_left fun x hx => ?_
  exact hp x y (List.mem_range.1 hx) (List.mem_range.1 hy)

end Raster

namespace Picture

/-- the bytes of row `y` of a `w`-wide raster built pixel by pixel -/
def pixelBytes (f : Nat → Nat → Rgb) (w y : Nat) : List UInt8 :=
  (List.range w).flatMap fun x => [(f x y).r, (f x y).g, (f x y).b]

theorem bytes_tabulate (w h : Nat) (f : Nat → Nat → Rgb) :
    (tabulate w h f).bytes.data.toList = (List.range h).flatMap (pixelBytes f w) := by
  have hrow : ∀ (acc : ByteArray) y, ((List.range w).foldl
      (fun (acc : ByteArray) x => let c := f x y; ((acc.push c.r).push c.g).push c.b) acc).data.toList =
      acc.data.toList ++ pixelBytes f w y :=
    fun acc y => toList_foldl_append _ _ (fun x => [(f x y).r, (f x y).g, (f x y).b])
      (fun acc' x => by simp) acc
  have hempty : (ByteArray.emptyWithCapacity (w * h * 3)).data.toList = [] := rfl
  unfold tabulate
  rw [toList_foldl_append _ _ (pixelBytes f w) hrow, hempty, List.nil_append]

theorem length_pixelBytes (f : Nat → Nat → Rgb) (w y : Nat) : (pixelBytes f w y).length = w * 3 :=
  length_flatMap_range (fun x => [(f x y).r, (f x y).g, (f x y).b]) (fun _ => rfl) w

theorem valid_tabulate (w h : Nat) (f : Nat → Nat → Rgb) : (tabulate w h f).Valid := by
  have hsize : (tabulate w h f).bytes.size = (tabulate w h f).bytes.data.toList.length := by
    rw [Array.length_toList]
    rfl
  show (tabulate w h f).bytes.size = w * h * 3
  rw [hsize, bytes_tabulate, length_flatMap_range _ (length_pixelBytes f w), Nat.mul_comm h, Nat.mul_assoc,
    Nat.mul_assoc, Nat.mul_comm 3 h]

theorem byte_tabulate (w h : Nat) (f : Nat → Nat → Rgb) {x y j : Nat} (hx : x < w) (hy : y < h) (hj : j < 3) :
    (tabulate w h f).byte ((y * w + x) * 3 + j) = [(f x y).r, (f x y).g, (f x y).b][j]?.getD 0 := by
  have hidx : (y * w + x) * 3 + j = y * (w * 3) + (x * 3 + j) := by
    rw [Nat.add_mul, Nat.mul_assoc, Nat.add_assoc]
  rw [Raster.byte_eq, bytes_tabulate, hidx, getElem?_flatMap_range _ (length_pixelBytes f w) hy (by omega)]
  unfold pixelBytes
  rw [getElem?_flatMap_range (fun x => [(f x y).r, (f x y).g, (f x y).b]) (fun _ => rfl) hx hj]

theorem pixel_tabulate (w h : Nat) (f : Nat → Nat → Rgb) {x y : Nat} (hx : x < w) (hy : y < h) :
    (tabulate w h f).pixel x y = f x y := by
  have h0 := byte_tabulate w h f hx hy (show 0 < 3 by decide)
  have h1 := byte_tabulate w h f hx hy (show 1 < 3 by decide)
  have h2 := byte_tabulate w h f hx hy (show 2 < 3 by decide)
  unfold Raster.pixel
  rw [if_pos ⟨hx, hy⟩]
  simp only [Raster.offset] at h0 h1 h2 ⊢
  rw [Nat.add_zero] at h0
  rw [show (tabulate w h f).width = w from rfl, h0, h1, h2]
  rfl

theorem tabulate_congr {w h : Nat} {F G : Nat → Nat → Rgb} (hFG : ∀ x y, x < w → y < h → F x y = G x y) :
    tabulate w h F = tabulate w h G := by
  have hb : (tabulate w h F).bytes = (tabulate w h G).bytes := by
    apply ByteArray.ext
    apply Array.toList_inj.mp
    rw [bytes_tabulate, bytes_tabulate]
    refine List.flatMap_congr fun y hy => List.flatMap_congr fun x hx => ?_
    rw [hFG x y (List.mem_range.1 hx) (List.mem_range.1 hy)]
  show Raster.mk w h (tabulate w h F).bytes = Raster.mk w h (tabulate w h G).bytes
  rw [hb]

theorem getElem?_channels (b : Nat → UInt8) (o : Nat) {j : Nat} (hj : j < 3) :
    [b o, b (o + 1), b (o + 2)][j]? = some (b (o + j)) := by
  match j, hj with
  | 0, _ => rfl
  | 1, _ => rfl
  | 2, _ => rfl

/-- Rebuilding a raster pixel by pixel gives back its buffer, when the buffer holds three bytes for
each pixel. -/
theorem bytes_tabulate_pixel {r : Raster} (hr : r.Valid) :
    (tabulate r.width r.height r.pixel).bytes = r.bytes := by
  have hlen : r.bytes.data.toList.length = r.height * (r.width * 3) := by
    rw [Array.length_toList]
    show r.bytes.size = _
    rw [hr, Nat.mul_comm r.height, Nat.mul_assoc, Nat.mul_assoc, Nat.mul_comm 3]
  apply ByteArray.ext
  apply Array.toList_inj.mp
  rw [bytes_tabulate]
  refine flatMap_range_eq _ (length_pixelBytes _ _) hlen fun y j hy hj => ?_
  -- byte `j` of row `y` is channel `j % 3` of pixel `j / 3`
  have hx : j / 3 < r.width := by omega
  have hc : j % 3 < 3 := Nat.mod_lt j (by decide)
  have hidx : y * (r.width * 3) + j = (y * r.width + j / 3) * 3 + j % 3 := by
    rw [Nat.add_mul, ← Nat.mul_assoc]
    omega
  have hin : (y * r.width + j / 3) * 3 + j % 3 < r.bytes.data.toList.length := by
    rw [← hidx, hlen]
    exact index_lt_mul hj hy
  unfold pixelBytes
  rw [← Nat.div_add_mod' j 3, getElem?_flatMap_range (fun x => [(r.pixel x y).r, (r.pixel x y).g, (r.pixel x y).b])
    (fun _ => rfl) hx hc, Nat.div_add_mod' j 3, hidx]
  unfold Raster.pixel
  rw [if_pos ⟨hx, hy⟩]
  simp only [Raster.offset]
  rw [getElem?_channels (fun i => r.byte i) _ hc, List.getElem?_eq_getElem hin, Raster.byte_eq,
    List.getElem?_eq_getElem hin]
  rfl

end Picture

end OledPanel
