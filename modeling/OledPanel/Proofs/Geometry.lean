import OledPanel.Service.Playback

/-!
# Raster sizes

Every way the service builds a raster lands on the size it asks for.

- Drawing only writes pixels, so it keeps a canvas's size: single pixels, filled rectangles,
  pastes, marks, and text in either face (`size_drawMarks`, `size_paste`, `size_drawText`).
- Scaling and fitting give exactly the requested size, whatever the source's size, an empty
  source included (`size_resample`, `size_fit`).
- An animation scaled for a screen has every frame at the screen's size, and so has every frame
  of its endless loop (`size_fitted`, `frameAt_mem`).
- Each step of a slide is a black canvas of the screen's size with two pastes on it
  (`size_slideFrame`).
-/

namespace OledPanel

namespace Raster

/-- the size `(width, height)` -/
def size (r : Raster) : Nat × Nat := (r.width, r.height)

theorem size_eq_iff {r : Raster} {w h : Nat} : r.size = (w, h) ↔ r.width = w ∧ r.height = h := by
  simp [size]

theorem size_foldl {β : Type} (xs : List β) (g : Raster → β → Raster) (hg : ∀ r x, (g r x).size = r.size) :
    ∀ r, (xs.foldl g r).size = r.size := by
  induction xs with
  | nil => intro r; rfl
  | cons x xs ih => intro r; rw [List.foldl_cons, ih (g r x), hg]

theorem size_foldl_fst {β γ : Type} (xs : List β) (g : Raster × γ → β → Raster × γ)
    (hg : ∀ p x, (g p x).1.size = p.1.size) : ∀ p, (xs.foldl g p).1.size = p.1.size := by
  induction xs with
  | nil => intro p; rfl
  | cons x xs ih => intro p; rw [List.foldl_cons, ih (g p x), hg]

@[simp] theorem size_blank (w h : Nat) : (blank w h).size = (w, h) := rfl

@[simp] theorem size_setPixel (r : Raster) (x y : Nat) (c : Rgb) : (r.setPixel x y c).size = r.size := by
  unfold setPixel
  split <;> rfl

@[simp] theorem size_plot (r : Raster) (x y : Int) (c : Rgb) : (r.plot x y c).size = r.size := by
  unfold plot
  split
  · exact size_setPixel r _ _ c
  · rfl

@[simp] theorem size_fillRect (r : Raster) (x y : Int) (w h : Nat) (c : Rgb) :
    (r.fillRect x y w h c).size = r.size :=
  size_foldl _ _ (fun acc py => size_foldl _ _ (fun acc' px => size_setPixel acc' px py c) acc) r

@[simp] theorem size_paste (r top : Raster) (x y : Int) : (r.paste top x y).size = r.size :=
  size_foldl _ _ (fun acc py => size_foldl _ _ (fun acc' px => size_setPixel acc' px py _) acc) r

@[simp] theorem size_drawMark (r : Raster) (m : Mark) : (r.drawMark m).size = r.size := by
  cases m with
  | point x y c => exact size_plot r x y c
  | box x y w h c => exact size_fillRect r x y w h c

@[simp] theorem size_drawMarks (r : Raster) (ms : List Mark) : (r.drawMarks ms).size = r.size :=
  size_foldl ms drawMark size_drawMark r

/-! ## Text -/

@[simp] theorem size_drawFixedGlyph (r : Raster) (c : Char) (x y : Int) (ink : Rgb) :
    (r.drawFixedGlyph c x y ink).size = r.size := by
  unfold drawFixedGlyph
  exact size_foldl _ _ (fun acc p => size_plot acc _ _ ink) r

@[simp] theorem size_drawFixedLine (r : Raster) (line : List Char) (x y : Int) (ink : Rgb) :
    (r.drawFixedLine line x y ink).size = r.size := by
  unfold drawFixedLine
  refine size_foldl _ _ ?_ r
  intro acc ck
  obtain ⟨c, k⟩ := ck
  exact size_drawFixedGlyph acc c _ y ink

@[simp] theorem size_drawFixed (r : Raster) (text : String) (x y : Int) (ink : Rgb) :
    (r.drawFixed text x y ink).size = r.size := by
  unfold drawFixed
  refine size_foldl _ _ ?_ r
  intro acc lk
  obtain ⟨line, k⟩ := lk
  exact size_drawFixedLine acc line x _ ink

@[simp] theorem size_paintGlyph (r : Raster) (g : PlacedGlyph) (ink : Rgb) : (r.paintGlyph g ink).size = r.size := by
  unfold paintGlyph
  simp only
  rw [← Array.foldl_toList]
  refine size_foldl_fst _ _ ?_ (r, 0)
  intro p c
  obtain ⟨r', i⟩ := p
  simp only
  split
  · rfl
  · exact size_setPixel r' _ _ _

@[simp] theorem size_drawOutlineText (r : Raster) (f : Face) (size : Float32) (text : String) (x y : Int)
    (ink : Rgb) : (r.drawOutlineText f size text x y ink).size = r.size :=
  size_foldl _ _ (fun acc g => size_paintGlyph acc g ink) r

@[simp] theorem size_drawText (r : Raster) (tf : Typeface) (text : String) (x y : Int) (ink : Rgb) :
    (r.drawText tf text x y ink).size = r.size := by
  cases tf with
  | fixed => exact size_drawFixed r text x y ink
  | outline f sz => exact size_drawOutlineText r f sz text x y ink

/-! ## Scaling and fitting -/

@[simp] theorem size_resample (r : Raster) (w h : Nat) : (r.resample w h).size = (w, h) := by
  unfold resample
  split
  · rfl
  · split
    · rename_i hs
      exact size_eq_iff.2 hs
    · rfl

/-- Fitting gives exactly the requested size: a raster of another size is cropped or padded. -/
@[simp] theorem size_fit (r : Raster) (w h : Nat) : (r.fit w h).size = (w, h) := by
  unfold fit
  split
  · rename_i hs
    exact size_eq_iff.2 hs
  · rw [size_paste]
    rfl

end Raster

/-! ## Animations and slides -/

namespace Animation

theorem size_fitted (a : Animation) (w h : Nat) : ∀ f ∈ (a.fitted w h).frames, f.image.size = (w, h) := by
  intro f hf
  obtain ⟨f₀, -, rfl⟩ := List.mem_map.1 hf
  split
  · rename_i hs
    exact Raster.size_eq_iff.2 hs
  · exact Raster.size_resample _ w h

theorem frameAt_mem (a : Animation) (k : Nat) : a.frameAt k ∈ a.frames := by
  unfold frameAt
  cases hk : a.frames[k % a.length]? with
  | none => exact List.head_mem a.nonempty
  | some f => exact List.mem_of_getElem? hk

theorem first_mem (a : Animation) : a.first ∈ a.frames := List.head_mem a.nonempty

end Animation

namespace Service

@[simp] theorem size_slideFrame (a b : Raster) (w h n i : Nat) : (slideFrame a b w h n i).size = (w, h) := by
  simp [slideFrame]

end Service

end OledPanel
