import OledPanel.Proofs.Playback
import OledPanel.Proofs.Pixels

/-!
# Slides

A slide moves one raster out to the left while the next comes in from the right. Both are first
scaled to the screen, `W` pixels wide; step `k` of `n` has both moved `o = W · k / n` pixels, so
pixel `(x, y)` of that step is pixel `(x + o, y)` of the outgoing raster while `x + o < W`, and
pixel `(x + o - W, y)` of the incoming one after (`slideView`).

- `pixel_slideFrame`, `slideFrame_eq_slideView`: each step is exactly that view.
- `slideView_width`: at the full offset the view is the incoming raster.
- `slide_run`: a slide that ends has shown its steps in order and reports them all.
- `slide_accepted`: on a display that refuses nothing, every slide ends.
- `slide_shows_steps`: all of it: the steps are at least one and fit a 32-bit count; the `k`-th
  frame is the `k`-th view encoded in the screen's mode; the offsets never decrease, never pass
  the width, and reach it at the last step, which shows the incoming raster; and for a screen
  narrower than `2 ^ 31` no product of the width by a step passes `2 ^ 63`.
-/

namespace OledPanel

namespace Service

open Screen Raster

/-! ## The frames of a slide -/

/-- The view of a slide at offset `o` on a `w × h` screen: the outgoing raster `a` moved `o`
pixels to the left, and the incoming raster `b` right behind it. -/
def slideView (a b : Raster) (w h o : Nat) : Raster :=
  Picture.tabulate w h fun x y => if x + o < w then a.pixel (x + o) y else b.pixel (x + o - w) y

theorem width_slideFrame (a b : Raster) (w h n k : Nat) : (slideFrame a b w h n k).width = w :=
  congrArg Prod.fst (size_slideFrame a b w h n k)

theorem height_slideFrame (a b : Raster) (w h n k : Nat) : (slideFrame a b w h n k).height = h :=
  congrArg Prod.snd (size_slideFrame a b w h n k)

theorem valid_slideFrame (a b : Raster) (w h n k : Nat) : (slideFrame a b w h n k).Valid :=
  valid_paste (valid_paste (valid_blank w h) _ _ _) _ _ _

/-- **A step of a slide**, pixel by pixel: the outgoing raster while it lasts, then the incoming
one, then black. -/
theorem pixel_slideFrame {a b : Raster} {w h : Nat} (ha : a.size = (w, h)) (hb : b.size = (w, h)) (n k : Nat)
    {x y : Nat} (hx : x < w) (hy : y < h) :
    (slideFrame a b w h n k).pixel x y =
      if x + w * k / n < w then a.pixel (x + w * k / n) y
      else if x + w * k / n < w + w then b.pixel (x + w * k / n - w) y else Rgb.black := by
  obtain ⟨haw, hah⟩ := size_eq_iff.1 ha
  obtain ⟨hbw, hbh⟩ := size_eq_iff.1 hb
  -- the offset is the quotient of naturals, whatever the width
  have hoff : ((w : Int) * k / n) = ((w * k / n : Nat) : Int) := by
    rw [Int.natCast_ediv, Int.natCast_mul]
  unfold slideFrame
  simp only [hoff]
  generalize w * k / n = o
  have hin : x < ((blank w h).paste a (-(o : Int)) 0).width := by rw [width_paste]; exact hx
  have hin' : y < ((blank w h).paste a (-(o : Int)) 0).height := by rw [height_paste]; exact hy
  rw [pixel_paste (valid_paste (valid_blank w h) _ _ _).fits _ _ _ hin hin',
    pixel_paste (valid_blank w h).fits _ _ _ hx hy, pixel_blank, haw, hah, hbw, hbh]
  by_cases hfrom : x + o < w
  · -- the outgoing raster covers the pixel, and the incoming one lies wholly to its right
    rw [if_neg (by omega), if_pos (by omega), if_pos hfrom]
    congr 1
    omega
  · rw [if_neg hfrom]
    by_cases hto : x + o < w + w
    · rw [if_pos (by omega), if_pos hto]
      congr 1
      omega
    · rw [if_neg (by omega), if_neg (by omega), if_neg hto]

/-- **Each step of a slide is the view at its offset.** -/
theorem slideFrame_eq_slideView {a b : Raster} {w h : Nat} (ha : a.size = (w, h)) (hb : b.size = (w, h))
    (n k : Nat) : slideFrame a b w h n k = slideView a b w h (w * k / n) := by
  refine eq_of_pixel (valid_slideFrame a b w h n k) (Picture.valid_tabulate _ _ _) (width_slideFrame a b w h n k)
    (height_slideFrame a b w h n k) fun x y hx hy => ?_
  rw [width_slideFrame] at hx
  rw [height_slideFrame] at hy
  rw [pixel_slideFrame ha hb n k hx hy, slideView, Picture.pixel_tabulate _ _ _ hx hy]
  by_cases hfrom : x + w * k / n < w
  · rw [if_pos hfrom, if_pos hfrom]
  · rw [if_neg hfrom, if_neg hfrom]
    by_cases hto : x + w * k / n < w + w
    · rw [if_pos hto]
    · -- past both rasters the incoming one reads black too, being read off its grid
      rw [if_neg hto, pixel_of_not_contains]
      obtain ⟨hbw, -⟩ := size_eq_iff.1 hb
      intro hc
      have := hc.1
      omega

theorem slideView_width {a b : Raster} (hb : b.Valid) {w h : Nat} (hbs : b.size = (w, h)) :
    slideView a b w h w = b := by
  obtain ⟨hbw, hbh⟩ := size_eq_iff.1 hbs
  refine eq_of_pixel (Picture.valid_tabulate _ _ _) hb hbw.symm hbh.symm fun x y hx hy => ?_
  rw [slideView, Picture.pixel_tabulate _ _ _ (show x < w from hx) (show y < h from hy), if_neg (by omega),
    Nat.add_sub_cancel]

theorem offset_mono (w n : Nat) {j k : Nat} (hjk : j ≤ k) : w * j / n ≤ w * k / n :=
  Nat.div_le_div_right (Nat.mul_le_mul_left w hjk)

theorem offset_le_width (w : Nat) {n k : Nat} (hk : k ≤ n) : w * k / n ≤ w :=
  Nat.div_le_of_le_mul (by rw [Nat.mul_comm n w]; exact Nat.mul_le_mul_left w hk)

theorem slideSteps_lt (d : Duration) (fps : Nat) : slideSteps d fps < Nat.pow 2 32 := by
  unfold slideSteps
  exact Nat.max_lt.2 ⟨by decide, UInt32.toNat_lt _⟩

/-! ## Running a slide -/

theorem compose_step_kept {build : Nat → Nat → Except PanelError Raster} {s s' : Screen}
    (h : (do let _ ← compose build; pure () : ScreenM PUnit).run.run s = (.ok (), s')) :
    ∃ r, build s.width s.height = .ok r ∧ Kept (Frame.ofRaster r s.mode) s s' := by
  obtain ⟨g, t, hc, hp⟩ := ok_of_run_bind h
  cases hp
  rw [compose_run] at hc
  cases hb : build s.width s.height with
  | error e =>
    rw [hb] at hc
    cases hc
  | ok r =>
    rw [hb] at hc
    exact ⟨r, rfl, blit_ok_kept hc⟩

/-- **A slide that ends** reports all its steps, having shown step `k + 1` of each `k` below
their number, in order, each built at the screen's size from the two rasters scaled to it. -/
theorem slide_run (a b : Raster) (d : Duration) (fps : Nat) {s s' : Screen} {p : Playback}
    (h : (slide a b d fps).run.run s = (.ok p, s')) :
    p = ⟨.exhausted, slideSteps d fps⟩ ∧
    Shows ((List.range (slideSteps d fps)).map fun k => Frame.ofRaster
      (slideFrame (a.resample s.width s.height) (b.resample s.width s.height) s.width s.height
        (slideSteps d fps) (k + 1)) s.mode) s s' := by
  unfold slide at h
  rw [run_bind, run_get] at h
  dsimp only at h
  obtain ⟨⟨⟩, t, hl, hp⟩ := ok_of_run_bind h
  cases hp
  refine ⟨rfl, shows_forM _ _ (fun k w h m => Frame.ofRaster (slideFrame (a.resample s.width s.height)
    (b.resample s.width s.height) w h (slideSteps d fps) (k + 1)) m) (fun k t t' hk => ?_) hl⟩
  obtain ⟨r, hr, hkept⟩ := compose_step_kept hk
  cases hr
  exact hkept

/-! ## Slides end on a display that refuses nothing -/

theorem transmit_accepted {d : MemoryDisplay} {f : Frame} (hr : d.refusals = []) (hw : f.width = d.width)
    (hh : f.height = d.height) :
    d.transmit f = (.ok (), { d with attempts := d.attempts + 1, shown := d.shown.push f }) := by
  unfold MemoryDisplay.transmit
  simp [hr, Frame.checkSize, hw, hh]

theorem blit_accepted {r : Raster} {s : Screen} (hr : s.display.refusals = []) (hw : r.width = s.width)
    (hh : r.height = s.height) : ∃ s', (blit r).run.run s = (.ok (s.generation + 1), s') ∧
      s'.display.refusals = [] := by
  rw [blit_run, if_pos ⟨hw, hh⟩, run_transmit,
    transmit_accepted hr (by rw [Frame.width_ofRaster]; exact hw) (by rw [Frame.height_ofRaster]; exact hh)]
  exact ⟨_, rfl, hr⟩

/-- On a display that refuses nothing, a loop of steps, each of which builds a raster of the
screen's size and shows it, ends. -/
theorem forM_compose_accepted (ks : List Nat) (R : Nat → Nat → Nat → Raster)
    (hR : ∀ k w h, (R k w h).size = (w, h)) {s : Screen} (hr : s.display.refusals = []) :
    ∃ s', (ks.forM fun k => do let _ ← compose fun w h => .ok (R k w h); pure ()).run.run s = (.ok (), s') := by
  induction ks generalizing s with
  | nil => exact ⟨s, rfl⟩
  | cons k ks ih =>
    obtain ⟨hw, hh⟩ := size_eq_iff.1 (hR k s.width s.height)
    obtain ⟨t, hrun, ht⟩ := blit_accepted hr hw hh
    obtain ⟨s', hs'⟩ := ih ht
    refine ⟨s', ?_⟩
    rw [show (k :: ks).forM _ = ((do let _ ← compose fun w h => .ok (R k w h); pure ()) >>= fun _ => ks.forM _)
      from rfl, run_bind, run_bind_pure, compose_run]
    simp only [hrun]
    exact hs'

/-- **On a display that refuses nothing, every slide ends**, reporting all its steps. -/
theorem slide_accepted (a b : Raster) (d : Duration) (fps : Nat) {s : Screen} (hr : s.display.refusals = []) :
    ∃ s', (slide a b d fps).run.run s = (.ok ⟨.exhausted, slideSteps d fps⟩, s') := by
  obtain ⟨s', hs'⟩ := forM_compose_accepted (List.range (slideSteps d fps))
    (fun k w h => slideFrame (a.resample s.width s.height) (b.resample s.width s.height) w h (slideSteps d fps) (k + 1))
    (fun k w h => size_slideFrame _ _ w h _ _) hr
  refine ⟨s', ?_⟩
  unfold slide
  rw [run_bind, run_get]
  dsimp only
  rw [run_bind, hs']
  rfl

/-! ## Main result -/

/-- **Slides.** A slide that ends, from any screen `W` pixels wide and `H` high, between any two
rasters, for any time and frame rate, reports as many steps as it takes, at least one and fewer
than `2 ^ 32`, and has shown them in order: step `k + 1` is the view at offset `W · (k + 1) / n`
of the two rasters scaled to the screen, encoded in the screen's mode, where pixel `(x, y)` of the
view is pixel `(x + o, y)` of the outgoing raster while `x + o < W` and pixel `(x + o - W, y)` of
the incoming one after. The offsets never decrease and never pass the width, which the last one
reaches, so the last step shows the incoming raster; a raster that has the screen's size is not
scaled; and for a screen narrower than `2 ^ 31` no product of the width by a step passes
`2 ^ 63`. -/
theorem slide_shows_steps (a b : Raster) (d : Duration) (fps : Nat) {s s' : Screen} {p : Playback}
    (h : (slide a b d fps).run.run s = (.ok p, s')) :
    p = ⟨.exhausted, slideSteps d fps⟩ ∧ 0 < slideSteps d fps ∧ slideSteps d fps < Nat.pow 2 32 ∧
    Shows ((List.range (slideSteps d fps)).map fun k => Frame.ofRaster
      (slideView (a.resample s.width s.height) (b.resample s.width s.height) s.width s.height
        (s.width * (k + 1) / slideSteps d fps)) s.mode) s s' ∧
    (∀ j k, j ≤ k → s.width * j / slideSteps d fps ≤ s.width * k / slideSteps d fps) ∧
    (∀ k, k ≤ slideSteps d fps → s.width * k / slideSteps d fps ≤ s.width) ∧
    s.width * slideSteps d fps / slideSteps d fps = s.width ∧
    (b.Valid → slideView (a.resample s.width s.height) (b.resample s.width s.height) s.width s.height s.width =
      b.resample s.width s.height) ∧
    (a.Valid → a.size = (s.width, s.height) → a.resample s.width s.height = a) ∧
    (s.width < Nat.pow 2 31 → ∀ k, k ≤ slideSteps d fps → s.width * k < Nat.pow 2 63) := by
  obtain ⟨hp, hshows⟩ := slide_run a b d fps h
  have hpos := slideSteps_pos d fps
  have hlt := slideSteps_lt d fps
  -- every step is the view at its offset, the scaled rasters having the screen's size
  have hviews : ∀ k, slideFrame (a.resample s.width s.height) (b.resample s.width s.height) s.width s.height
      (slideSteps d fps) (k + 1) = slideView (a.resample s.width s.height) (b.resample s.width s.height)
      s.width s.height (s.width * (k + 1) / slideSteps d fps) :=
    fun k => slideFrame_eq_slideView (size_resample _ _ _) (size_resample _ _ _) _ _
  refine ⟨hp, hpos, hlt, ?_, fun j k hjk => offset_mono _ _ hjk, fun k hk => offset_le_width _ hk,
    Nat.mul_div_cancel _ hpos, fun hb => slideView_width (valid_resample hb _ _) (size_resample _ _ _),
    fun ha has => resample_of_size ha (size_eq_iff.1 has).1 (size_eq_iff.1 has).2, fun hw k hk => ?_⟩
  · simpa only [hviews] using hshows
  · calc s.width * k ≤ s.width * slideSteps d fps := Nat.mul_le_mul_left _ hk
      _ < Nat.pow 2 31 * Nat.pow 2 32 := Nat.mul_lt_mul'' hw hlt
      _ = Nat.pow 2 63 := by decide

/-- A one-second slide at four frames a second from white to black on a luma screen four pixels
wide that refuses nothing. Halfway through, the view is two white pixels and two black ones. -/
theorem slide_shows_steps_white :
    slideView ((Raster.filled 4 1 Rgb.white).resample 4 1) ((Raster.blank 4 1).resample 4 1) 4 1 2 =
      Picture.tabulate 4 1 (fun x _ => if x < 2 then Rgb.white else Rgb.black) ∧
    ∃ p s', (slide (Raster.filled 4 1 Rgb.white) (Raster.blank 4 1) ⟨1, 0⟩ 4).run.run
      ⟨MemoryDisplay.new 4 1 .luma, 0⟩ = (.ok p, s') ∧
    p = ⟨.exhausted, slideSteps ⟨1, 0⟩ 4⟩ ∧ 0 < slideSteps ⟨1, 0⟩ 4 ∧ slideSteps ⟨1, 0⟩ 4 < Nat.pow 2 32 ∧
    Shows ((List.range (slideSteps ⟨1, 0⟩ 4)).map fun k => Frame.ofRaster
      (slideView ((Raster.filled 4 1 Rgb.white).resample 4 1) ((Raster.blank 4 1).resample 4 1) 4 1
        (4 * (k + 1) / slideSteps ⟨1, 0⟩ 4)) .luma) ⟨MemoryDisplay.new 4 1 .luma, 0⟩ s' ∧
    (∀ j k, j ≤ k → 4 * j / slideSteps ⟨1, 0⟩ 4 ≤ 4 * k / slideSteps ⟨1, 0⟩ 4) ∧
    (∀ k, k ≤ slideSteps ⟨1, 0⟩ 4 → 4 * k / slideSteps ⟨1, 0⟩ 4 ≤ 4) ∧
    4 * slideSteps ⟨1, 0⟩ 4 / slideSteps ⟨1, 0⟩ 4 = 4 ∧
    ((Raster.blank 4 1).Valid → slideView ((Raster.filled 4 1 Rgb.white).resample 4 1)
      ((Raster.blank 4 1).resample 4 1) 4 1 4 = (Raster.blank 4 1).resample 4 1) ∧
    ((Raster.filled 4 1 Rgb.white).Valid → (Raster.filled 4 1 Rgb.white).size = (4, 1) →
      (Raster.filled 4 1 Rgb.white).resample 4 1 = Raster.filled 4 1 Rgb.white) ∧
    (4 < Nat.pow 2 31 → ∀ k, k ≤ slideSteps ⟨1, 0⟩ 4 → 4 * k < Nat.pow 2 63) := by
  obtain ⟨s', h⟩ := slide_accepted (Raster.filled 4 1 Rgb.white) (Raster.blank 4 1) ⟨1, 0⟩ 4
    (s := ⟨MemoryDisplay.new 4 1 .luma, 0⟩) rfl
  exact ⟨rfl, _, s', h, slide_shows_steps _ _ _ _ h⟩

end Service

end OledPanel
