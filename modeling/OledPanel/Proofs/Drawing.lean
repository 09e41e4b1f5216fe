import OledPanel.Proofs.Pixels

/-!
# Drawing on a canvas

A drawing hands the canvas pixels one at a time, each a point of the signed plane with its colour.
The canvas paints the points on its grid and skips the others, negative ones included, so each
pixel of the grid ends with the colour of the last point handed at it, and keeps its own when none
was. A filled rectangle hands its points row after row, so it colours exactly its part on the grid.

- `pixel_plot`, `plot_off_grid`: one pixel handed to the canvas.
- `draw_points`, `drawPoints_eq_tabulate`: pixels handed one after another; the last at a point wins
  (`lastAt`).
- `pixel_fillRect`, `fillRect_eq_drawPoints`: the clipped fill is drawing the rectangle's points.
- `draw_box`: drawing a filled rectangle on the service's black canvas.
- `drawing_keeps_last_colour`: all of it.
-/

namespace OledPanel

namespace Raster

/-! ## Single pixels -/

/-- The marks that hand the canvas single pixels, each a point of the signed plane with its
colour, in order. -/
def pointMarks (ps : List ((Int × Int) × Rgb)) : List Mark := ps.map fun p => .point p.1.1 p.1.2 p.2

/-- The colour of the last of `ps` at `(x, y)`, if one is there. -/
def lastAt (ps : List ((Int × Int) × Rgb)) (x y : Nat) : Option Rgb :=
  (ps.reverse.find? fun p => p.1 = ((x : Int), (y : Int))).map (·.2)

@[simp] theorem lastAt_nil (x y : Nat) : lastAt [] x y = none := rfl

theorem lastAt_cons (p : (Int × Int) × Rgb) (ps : List ((Int × Int) × Rgb)) (x y : Nat) :
    lastAt (p :: ps) x y = (lastAt ps x y).or (if p.1 = ((x : Int), (y : Int)) then some p.2 else none) := by
  unfold lastAt
  rw [List.reverse_cons, List.find?_append]
  by_cases hp : p.1 = ((x : Int), (y : Int)) <;> cases (ps.reverse.find? fun p => p.1 = ((x : Int), (y : Int))) <;>
    simp [hp]

theorem size_bytes_plot (r : Raster) (x y : Int) (c : Rgb) : (r.plot x y c).bytes.size = r.bytes.size := by
  unfold plot
  split
  · exact size_bytes_setPixel r _ _ c
  · rfl

theorem plot_off_grid (r : Raster) {x y : Int} (h : ¬(0 ≤ x ∧ x < r.width ∧ 0 ≤ y ∧ y < r.height)) (c : Rgb) :
    r.plot x y c = r := by
  unfold plot
  split
  · unfold setPixel
    rw [if_neg fun hc : r.contains x.toNat y.toNat => h (by unfold contains at hc; omega)]
  · rfl

/-- **A pixel handed to the canvas** paints its point when that lies on the grid. -/
theorem pixel_plot {r : Raster} (hr : r.Fits) {x y : Nat} (hx : x < r.width) (hy : y < r.height)
    (px py : Int) (c : Rgb) :
    (r.plot px py c).pixel x y = if (px, py) = ((x : Int), (y : Int)) then c else r.pixel x y := by
  unfold plot
  split
  · rename_i hpos
    rw [pixel_setPixel hr hx hy]
    -- a non-negative point is the grid position of its coordinates
    have hiff : (x = px.toNat ∧ y = py.toNat) ↔ (px, py) = ((x : Int), (y : Int)) := by
      simp only [Prod.mk.injEq]
      omega
    simp only [hiff]
  · rename_i hneg
    rw [if_neg]
    simp only [Prod.mk.injEq]
    omega

/-- Pixels handed one after another keep the buffer's length and the size, and leave each pixel of
the grid with the colour of the last handed at it. -/
theorem draw_points {r : Raster} (hr : r.Fits) (ps : List ((Int × Int) × Rgb)) :
    let r' := r.drawMarks (pointMarks ps)
    r'.bytes.size = r.bytes.size ∧ r'.width = r.width ∧ r'.height = r.height ∧
      ∀ x y, x < r.width → y < r.height → r'.pixel x y = (lastAt ps x y).getD (r.pixel x y) := by
  -- each point is drawn on the canvas the earlier ones left
  induction ps generalizing r with
  | nil => exact ⟨rfl, rfl, rfl, fun x y _ _ => rfl⟩
  | cons p ps ih =>
    have hs := size_bytes_plot r p.1.1 p.1.2 p.2
    have hw : (r.plot p.1.1 p.1.2 p.2).width = r.width := congrArg Prod.fst (size_plot r _ _ _)
    have hh : (r.plot p.1.1 p.1.2 p.2).height = r.height := congrArg Prod.snd (size_plot r _ _ _)
    obtain ⟨hs', hw', hh', hp⟩ := ih (hr.of_size hs hw hh)
    refine ⟨hs'.trans hs, hw'.trans hw, hh'.trans hh, fun x y hx hy => ?_⟩
    show ((r.plot p.1.1 p.1.2 p.2).drawMarks (pointMarks ps)).pixel x y = _
    rw [hp x y (by rwa [hw]) (by rwa [hh]), pixel_plot hr hx hy, lastAt_cons]
    cases lastAt ps x y <;> by_cases hxy : p.1 = ((x : Int), (y : Int)) <;> simp [hxy]

/-- **Drawing pixels one after another**: a pixel of the grid ends with the colour of the last
point handed at it, or keeps its own when none was; the size and the buffer's shape are kept. -/
theorem drawPoints_eq_tabulate {r : Raster} (hr : r.Valid) (ps : List ((Int × Int) × Rgb)) :
    r.drawMarks (pointMarks ps) = Picture.tabulate r.width r.height fun x y => (lastAt ps x y).getD (r.pixel x y) := by
  obtain ⟨hs, hw, hh, hp⟩ := draw_points hr.fits ps
  refine eq_of_pixel (hr.of_size hs hw hh) (Picture.valid_tabulate _ _ _) hw hh fun x y hx hy => ?_
  rw [hw] at hx
  rw [hh] at hy
  rw [hp x y hx hy, Picture.pixel_tabulate _ _ _ hx hy]

/-! ## Rectangles -/

/-- The points of the rectangle with top-left `(x, y)` and size `w × h`, row after row, each with
the colour `c`: what filling the rectangle hands the canvas. -/
def rectPoints (x y : Int) (w h : Nat) (c : Rgb) : List ((Int × Int) × Rgb) :=
  (List.range h).flatMap fun (j : Nat) => (List.range w).map fun (i : Nat) => ((x + (i : Int), y + (j : Int)), c)

theorem mem_rectPoints {x y : Int} {w h : Nat} {c : Rgb} {p : (Int × Int) × Rgb} :
    p ∈ rectPoints x y w h c ↔ x ≤ p.1.1 ∧ p.1.1 < x + w ∧ y ≤ p.1.2 ∧ p.1.2 < y + h ∧ p.2 = c := by
  obtain ⟨⟨px, py⟩, c'⟩ := p
  simp only [rectPoints, List.mem_flatMap, List.mem_range, List.mem_map, Prod.mk.injEq]
  constructor
  · rintro ⟨j, hj, i, hi, ⟨⟨rfl, rfl⟩, rfl⟩⟩
    exact ⟨by omega, by omega, by omega, by omega, rfl⟩
  · rintro ⟨h1, h2, h3, h4, rfl⟩
    exact ⟨(py - y).toNat, by omega, (px - x).toNat, by omega, ⟨by omega, by omega⟩, rfl⟩

/-- Some point of the rectangle lies at `(px, py)` exactly when `(px, py)` lies in the rectangle. -/
theorem exists_mem_rectPoints {x y : Int} {w h : Nat} {c : Rgb} {px py : Int} :
    (∃ p ∈ rectPoints x y w h c, p.1 = (px, py)) ↔ x ≤ px ∧ px < x + w ∧ y ≤ py ∧ py < y + h := by
  constructor
  · rintro ⟨p, hp, hpxy⟩
    obtain ⟨h1, h2, h3, h4, -⟩ := mem_rectPoints.1 hp
    rw [hpxy] at h1 h2 h3 h4
    exact ⟨h1, h2, h3, h4⟩
  · rintro ⟨h1, h2, h3, h4⟩
    exact ⟨((px, py), c), mem_rectPoints.2 ⟨h1, h2, h3, h4, rfl⟩, rfl⟩

theorem lastAt_of_colour {ps : List ((Int × Int) × Rgb)} {c : Rgb} (hc : ∀ p ∈ ps, p.2 = c) (x y : Nat) :
    lastAt ps x y = if ∃ p ∈ ps, p.1 = ((x : Int), (y : Int)) then some c else none := by
  induction ps with
  | nil => simp
  | cons p ps ih =>
    rw [lastAt_cons, ih fun q hq => hc q (List.mem_cons_of_mem p hq), hc p List.mem_cons_self]
    by_cases hp : p.1 = ((x : Int), (y : Int)) <;> by_cases hps : ∃ q ∈ ps, q.1 = ((x : Int), (y : Int)) <;>
      simp [hp, hps]

theorem fillRect_eq_paintBlock (r : Raster) (x y : Int) (w h : Nat) (c : Rgb) :
    r.fillRect x y w h c = r.paintBlock (span y h r.height) (span x w r.width) fun _ _ => c := rfl

theorem width_fillRect (r : Raster) (x y : Int) (w h : Nat) (c : Rgb) : (r.fillRect x y w h c).width = r.width :=
  congrArg Prod.fst (size_fillRect r x y w h c)

theorem height_fillRect (r : Raster) (x y : Int) (w h : Nat) (c : Rgb) : (r.fillRect x y w h c).height = r.height :=
  congrArg Prod.snd (size_fillRect r x y w h c)

theorem valid_fillRect {r : Raster} (hr : r.Valid) (x y : Int) (w h : Nat) (c : Rgb) :
    (r.fillRect x y w h c).Valid := by
  rw [fillRect_eq_paintBlock]
  exact valid_paintBlock hr _ _ _

/-- **A filled rectangle** colours the part of it on the grid and leaves every other pixel. -/
theorem pixel_fillRect {r : Raster} (hr : r.Fits) (x y : Int) (w h : Nat) (c : Rgb) {px py : Nat}
    (hx : px < r.width) (hy : py < r.height) :
    (r.fillRect x y w h c).pixel px py =
      if x ≤ px ∧ (px : Int) < x + w ∧ y ≤ py ∧ (py : Int) < y + h then c else r.pixel px py := by
  rw [fillRect_eq_paintBlock, pixel_paintBlock_span hr _ _ _ _ _ hx hy]

/-- **A filled rectangle is drawn as its points**, row after row: the clipped fill and the pixels
handed one by one give the same raster. -/
theorem fillRect_eq_drawPoints {r : Raster} (hr : r.Valid) (x y : Int) (w h : Nat) (c : Rgb) :
    r.fillRect x y w h c = r.drawMarks (pointMarks (rectPoints x y w h c)) := by
  obtain ⟨hs, hw, hh, hp⟩ := draw_points hr.fits (rectPoints x y w h c)
  refine eq_of_pixel (valid_fillRect hr x y w h c) (hr.of_size hs hw hh) ((width_fillRect r x y w h c).trans hw.symm)
    ((height_fillRect r x y w h c).trans hh.symm) fun px py hx hy => ?_
  rw [width_fillRect] at hx
  rw [height_fillRect] at hy
  rw [pixel_fillRect hr.fits x y w h c hx hy, hp px py hx hy,
    lastAt_of_colour (fun p hp => (mem_rectPoints.1 hp).2.2.2.2)]
  -- the last point at a pixel is one of the rectangle's exactly when the pixel is inside it
  by_cases hin : x ≤ px ∧ (px : Int) < x + w ∧ y ≤ py ∧ (py : Int) < y + h
  · rw [if_pos hin, if_pos (exists_mem_rectPoints.2 hin)]
    rfl
  · rw [if_neg hin, if_neg (mt exists_mem_rectPoints.1 hin)]
    rfl

theorem blank_fillRect (W H : Nat) (x y : Int) (w h : Nat) (c : Rgb) :
    (blank W H).fillRect x y w h c = Picture.tabulate W H fun px py =>
      if x ≤ px ∧ (px : Int) < x + w ∧ y ≤ py ∧ (py : Int) < y + h then c else Rgb.black := by
  refine eq_of_pixel (valid_fillRect (valid_blank W H) x y w h c) (Picture.valid_tabulate _ _ _)
    (width_fillRect _ x y w h c) (height_fillRect _ x y w h c) fun px py hx hy => ?_
  replace hx : px < W := by rw [width_fillRect] at hx; exact hx
  replace hy : py < H := by rw [height_fillRect] at hy; exact hy
  rw [pixel_fillRect (valid_blank W H).fits x y w h c hx hy, pixel_blank, Picture.pixel_tabulate _ _ _ hx hy]

end Raster

namespace Service

/-- **Drawing a filled rectangle** shows its part on the screen in its colour, on black. -/
theorem draw_box (x y : Int) (w h : Nat) (c : Rgb) :
    Service.draw [.box x y w h c] = (do
      let _ ← Screen.compose fun W H => .ok (Picture.tabulate W H fun px py =>
        if x ≤ px ∧ (px : Int) < x + w ∧ y ≤ py ∧ (py : Int) < y + h then c else Rgb.black)) := by
  unfold Service.draw
  congr
  funext W H
  rw [Raster.drawMarks_cons, Raster.drawMarks_nil]
  exact congrArg Except.ok (Raster.blank_fillRect W H x y w h c)

end Service

namespace Raster

/-- **Drawing on a canvas.** Pixels handed one after another leave each pixel of the grid with the
colour of the last handed at it, and its own colour where none was, at the canvas's size; a pixel
handed off the grid changes nothing; a filled rectangle is its points handed row after row; and the
service draws a filled rectangle as exactly its part on the screen, in its colour, on black. -/
theorem drawing_keeps_last_colour (r : Raster) (hr : r.Valid) :
    (∀ ps, r.drawMarks (pointMarks ps) =
      Picture.tabulate r.width r.height fun x y => (lastAt ps x y).getD (r.pixel x y)) ∧
    (∀ (x y : Int) c, ¬(0 ≤ x ∧ x < r.width ∧ 0 ≤ y ∧ y < r.height) → r.drawMarks [.point x y c] = r) ∧
    (∀ x y w h c, r.fillRect x y w h c = r.drawMarks (pointMarks (rectPoints x y w h c))) ∧
    (∀ x y w h c, Service.draw [.box x y w h c] = (do
      let _ ← Screen.compose fun W H => .ok (Picture.tabulate W H fun px py =>
        if x ≤ px ∧ (px : Int) < x + w ∧ y ≤ py ∧ (py : Int) < y + h then c else Rgb.black))) :=
  ⟨drawPoints_eq_tabulate hr, fun _ _ c h => plot_off_grid r h c, fillRect_eq_drawPoints hr, Service.draw_box⟩

/-- Drawing on a black 2 × 2 canvas. -/
theorem drawing_keeps_last_colour_blank :
    (blank 2 2).Valid ∧
    (∀ ps, (blank 2 2).drawMarks (pointMarks ps) =
      Picture.tabulate 2 2 fun x y => (lastAt ps x y).getD ((blank 2 2).pixel x y)) ∧
    (∀ (x y : Int) c, ¬(0 ≤ x ∧ x < 2 ∧ 0 ≤ y ∧ y < 2) → (blank 2 2).drawMarks [.point x y c] = blank 2 2) ∧
    (∀ x y w h c, (blank 2 2).fillRect x y w h c = (blank 2 2).drawMarks (pointMarks (rectPoints x y w h c))) ∧
    (∀ x y w h c, Service.draw [.box x y w h c] = (do
      let _ ← Screen.compose fun W H => .ok (Picture.tabulate W H fun px py =>
        if x ≤ px ∧ (px : Int) < x + w ∧ y ≤ py ∧ (py : Int) < y + h then c else Rgb.black))) :=
  ⟨valid_blank 2 2, drawing_keeps_last_colour (blank 2 2) (valid_blank 2 2)⟩

end Raster

end OledPanel

