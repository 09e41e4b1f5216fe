import OledPanel.Proofs.Screen
import OledPanel.Proofs.Geometry

/-!
# Frames of the screen's size

The screen checks every raster against its size before anything is sent, and the display checks
every frame again. Neither check ever fails for the service's drawing operations: each builds its
raster at exactly the screen's size, whatever it draws, scales, crops or plays, and whatever the
size of its source.

- `SafeAt s m`: from the screen `s`, `m` never fails on a frame's size, and every frame it shows
  has the display's size and mode. It holds of `pure`, of failures of other kinds, of a raster of
  the screen's size, of a build that lands on the size it is asked for, and it is closed under
  binds and loops (`SafeAt.bind`, `SafeAt.forM`).
- `Painter`: a drawing procedure on a canvas, as drawing through the canvas's pixels and pastes
  gives: it keeps the canvas's size.
- `drawing_fits_screen`: clearing, text, icons, drawings, rasters, image files, the logo, the
  ready animation, playing once and slides all satisfy it from every screen.
-/

namespace OledPanel

namespace Screen

variable {α β : Type}

/-! ## Size-safe computations -/

/-- an outcome that is not a failure on a frame's size -/
def NoMisfit (r : Except PanelError α) : Prop := ∀ w h w' h', r ≠ .error (.frameSize w h w' h')

/-- From `s`, `m` never fails on a frame's size, and every frame it shows fits the screen. -/
def SafeAt (s : Screen) (m : ScreenM α) : Prop := NoMisfit (m.run.run s).1 ∧ Grows s (m.run.run s).2

/-- From every screen, `m` never fails on a frame's size and shows only frames that fit. -/
def Safe (m : ScreenM α) : Prop := ∀ s, SafeAt s m

theorem noMisfit_ok (a : α) : NoMisfit (.ok a : Except PanelError α) := by
  intro w h w' h' he
  cases he

theorem SafeAt.pure (a : α) (s : Screen) : SafeAt s (Pure.pure a : ScreenM α) :=
  ⟨noMisfit_ok a, Grows.refl s⟩

theorem SafeAt.throw {e : PanelError} (he : ∀ w h w' h', e ≠ .frameSize w h w' h') (s : Screen) :
    SafeAt s (MonadExcept.throw e : ScreenM α) := by
  refine ⟨?_, Grows.refl s⟩
  intro w h w' h' hr
  cases hr
  exact he w h w' h' rfl

theorem SafeAt.grows_of_ok {s s' : Screen} {m : ScreenM α} {a : α} (h : SafeAt s m)
    (hm : m.run.run s = (.ok a, s')) : Grows s s' := by
  have := h.2
  rw [hm] at this
  exact this

theorem SafeAt.bind {s : Screen} {x : ScreenM α} {f : α → ScreenM β} (hx : SafeAt s x)
    (hf : ∀ a s', x.run.run s = (.ok a, s') → SafeAt s' (f a)) : SafeAt s (x >>= f) := by
  obtain ⟨hn, hg⟩ := hx
  unfold SafeAt
  rw [run_bind]
  generalize hp : x.run.run s = p at hn hg ⊢
  obtain ⟨r, s'⟩ := p
  cases r with
  | error e =>
    refine ⟨?_, hg⟩
    intro w h w' h' he
    cases he
    exact hn w h w' h' rfl
  | ok a =>
    obtain ⟨hn', hg'⟩ := hf a s' hp
    exact ⟨hn', hg.trans hg'⟩

theorem SafeAt.get_bind {s : Screen} {k : Screen → ScreenM α} (h : SafeAt s (k s)) :
    SafeAt s (get >>= k) := by
  unfold SafeAt
  rw [run_bind, run_get]
  exact h

/-- A loop is safe when each of its bodies is, from every screen of the same size. -/
theorem SafeAt.forM {γ : Type} (xs : List γ) (f : γ → ScreenM PUnit) (s : Screen)
    (hf : ∀ x ∈ xs, ∀ s', s'.width = s.width → s'.height = s.height → SafeAt s' (f x)) :
    SafeAt s (xs.forM f) := by
  induction xs generalizing s with
  | nil => exact SafeAt.pure PUnit.unit s
  | cons x xs ih =>
    show SafeAt s (f x >>= fun _ => xs.forM f)
    have hx := hf x List.mem_cons_self s rfl rfl
    refine hx.bind fun _ s' hp => ?_
    have hg := hx.grows_of_ok hp
    refine ih s' fun y hy s'' hw hh => ?_
    exact hf y (List.mem_cons_of_mem x hy) s'' (hw.trans hg.width) (hh.trans hg.height)

/-! ## Sending frames that fit -/

theorem Sent.safe {f : Frame} {s : Screen} {p : Except PanelError Nat × Screen} (h : Sent f s p)
    (hf : s.Fits f) : NoMisfit p.1 ∧ Grows s p.2 := by
  refine ⟨?_, h.grows hf.2.2⟩
  cases h with
  | kept => exact noMisfit_ok _
  | refused =>
    intro w h w' h' he
    cases he
  | misfit hs => exact absurd ⟨hf.1, hf.2.1⟩ hs

theorem safeAt_blit {r : Raster} {s : Screen} (hr : r.size = (s.width, s.height)) : SafeAt s (blit r) := by
  obtain ⟨hw, hh⟩ := Raster.size_eq_iff.1 hr
  exact (sent_blit hw hh).safe ⟨by simpa using hw, by simpa using hh, Frame.mode_ofRaster r s.mode⟩

theorem safeAt_clear (s : Screen) : SafeAt s clear := by
  unfold SafeAt
  rw [clear_run]
  exact (sent_transmit _ s).safe ⟨rfl, rfl, rfl⟩

/-- a build for `w × h` that gives a raster of that size, or fails on something else than a
frame's size -/
def Builds (b : Except PanelError Raster) (w h : Nat) : Prop :=
  match b with
  | .ok r => r.size = (w, h)
  | .error e => ∀ a b c d, e ≠ .frameSize a b c d

theorem safeAt_compose {build : Nat → Nat → Except PanelError Raster} {s : Screen}
    (hb : Builds (build s.width s.height) s.width s.height) : SafeAt s (compose build) := by
  unfold SafeAt
  rw [compose_run]
  revert hb
  cases build s.width s.height with
  | error e =>
    intro hb
    refine ⟨?_, Grows.refl s⟩
    intro w h w' h' he
    cases he
    exact hb w h w' h' rfl
  | ok r => exact safeAt_blit

theorem safeAt_compose_ok {paint : Nat → Nat → Raster} (hp : ∀ w h, (paint w h).size = (w, h)) (s : Screen) :
    SafeAt s (compose fun w h => .ok (paint w h)) :=
  safeAt_compose (hp s.width s.height)

end Screen

/-! ## The service's operations -/

/-- a drawing procedure on a canvas; drawing through the canvas's pixels and pastes keeps its size -/
structure Painter where
  paint : Raster → Raster
  size_paint : ∀ r, (paint r).size = r.size

/-- Marks drawn in order are a drawing procedure. -/
def Painter.ofMarks (ms : List Mark) : Painter := ⟨(·.drawMarks ms), (Raster.size_drawMarks · ms)⟩

namespace Service

open Screen

/-- Run a drawing procedure on a black canvas of the screen's size and show the result. -/
def drawWith (p : Painter) : ScreenM Unit := do
  let _ ← Screen.compose fun w h => .ok (p.paint (Raster.blank w h))

theorem draw_eq_drawWith (ms : List Mark) : draw ms = drawWith (Painter.ofMarks ms) := rfl

theorem safe_drawWith (p : Painter) : Safe (drawWith p) := fun s =>
  (safeAt_compose_ok (fun w h => (p.size_paint _).trans (Raster.size_blank w h)) s).bind
    fun _ s' _ => SafeAt.pure () s'

theorem safe_showText (sv : Service) (text : String) (x y : Int) (font : String) (ink : Rgb) :
    Safe (sv.showText text x y font ink) := fun s =>
  (safeAt_compose_ok (fun w h => by simp) s).bind fun _ s' _ => SafeAt.pure () s'

theorem safe_showIcon (sv : Service) (name : String) (x y : Int) : Safe (sv.showIcon name x y) := fun s =>
  (safeAt_compose_ok (fun w h => by simp) s).bind fun _ s' _ => SafeAt.pure () s'

theorem safe_showRaster (r : Raster) : Safe (showRaster r) := fun s =>
  (safeAt_compose_ok (fun w h => Raster.size_resample r w h) s).bind fun _ s' _ => SafeAt.pure () s'

theorem builds_imageRaster (sv : Service) (path : String) (scale : Bool) (w h : Nat) :
    Builds (sv.imageRaster path scale w h) w h := by
  unfold imageRaster
  split
  · intro a b c d he
    cases he
  · simp only [Builds]
    split <;> simp

theorem safe_showImage (sv : Service) (path : String) (scale : Bool) (after : Option Duration) :
    Safe (sv.showImage path scale after) := fun _ =>
  (safeAt_compose (builds_imageRaster sv path scale _ _)).bind fun _ s' _ => SafeAt.pure _ s'


end Service

/-! ## Animations -/

namespace Animation

theorem readImageFile_ne_misfit (s : Store) (path : String) (a b c d : Nat) :
    readImageFile s path ≠ .error (.frameSize a b c d) := by
  unfold readImageFile
  split <;> nofun

/-- Opening an animation fails on the file, the format or the data, never on a frame's size. -/
theorem ofFile_ne_misfit (s : Store) (path : String) (a b c d : Nat) :
    ofFile s path ≠ .error (.frameSize a b c d) := by
  intro h
  unfold ofFile ofFrames at h
  simp only [bind, Except.bind, pure, Except.pure, throw, throwThe, MonadExceptOf.throw] at h
  repeat' split at h
  all_goals simp_all [readImageFile_ne_misfit]

end Animation

namespace Service

open Screen

variable {α : Type}

theorem openForScreen_run (sv : Service) (path : String) (s : Screen) :
    (sv.openForScreen path).run.run s = match sv.openAnimation path s.width s.height with
      | .ok a => (.ok a, s)
      | .error e => (.error e, s) := by
  simp only [openForScreen, run_bind, run_get]
  cases sv.openAnimation path s.width s.height <;> rfl

theorem openAnimation_sized {sv : Service} {path : String} {w h : Nat} {a : Animation}
    (ho : sv.openAnimation path w h = .ok a) : ∀ f ∈ a.frames, f.image.size = (w, h) := by
  unfold openAnimation at ho
  cases hf : Animation.ofFile sv.files path with
  | error e =>
    rw [hf] at ho
    cases ho
  | ok a₀ =>
    rw [hf] at ho
    cases ho
    exact a₀.size_fitted w h

/-- Whatever follows the opening of an animation for the screen is safe when it is safe for
every animation whose frames have the screen's size. -/
theorem SafeAt.openForScreen_bind {sv : Service} {path : String} {s : Screen} {k : Animation → ScreenM α}
    (hk : ∀ a, (∀ f ∈ a.frames, f.image.size = (s.width, s.height)) → SafeAt s (k a)) :
    SafeAt s (sv.openForScreen path >>= k) := by
  unfold SafeAt
  rw [run_bind, openForScreen_run]
  cases ho : sv.openAnimation path s.width s.height with
  | error e =>
    refine ⟨?_, Grows.refl s⟩
    intro a b c d he
    cases he
    unfold openAnimation at ho
    cases hf : Animation.ofFile sv.files path with
    | error e' =>
      rw [hf] at ho
      cases ho
      exact Animation.ofFile_ne_misfit sv.files path a b c d hf
    | ok a₀ =>
      rw [hf] at ho
      cases ho
  | ok a => exact hk a (openAnimation_sized ho)

theorem safeAt_loop {a : Animation} {s : Screen} (ha : ∀ f ∈ a.frames, f.image.size = (s.width, s.height))
    (n : Nat) : SafeAt s (loop a n) := by
  refine SafeAt.forM _ _ s fun k _ s' hw hh => ?_
  have hk : (a.frameAt k).image.size = (s'.width, s'.height) := by
    rw [ha _ (a.frameAt_mem k), hw, hh]
  exact (safeAt_blit hk).bind fun _ s'' _ => SafeAt.pure () s''

theorem safe_showLogo (sv : Service) (d : Duration) : Safe (sv.showLogo d) := by
  intro s
  unfold showLogo
  split
  · exact SafeAt.pure _ s
  · refine SafeAt.openForScreen_bind fun a ha => ?_
    split
    · exact (safeAt_loop ha _).bind fun _ s' _ => SafeAt.pure _ s'
    · exact (safeAt_blit (ha _ a.first_mem)).bind fun _ s' _ => SafeAt.pure _ s'

theorem safe_showReady (sv : Service) (e : StopEvent) : Safe (sv.showReady e) := by
  intro s
  unfold showReady
  split
  · exact SafeAt.pure _ s
  · refine SafeAt.openForScreen_bind fun a ha => ?_
    split
    · exact (safeAt_loop ha _).bind fun _ s' _ => SafeAt.pure _ s'
    · split
      · exact SafeAt.pure _ s
      · exact (safeAt_blit (ha _ a.first_mem)).bind fun _ s' _ => SafeAt.pure _ s'

theorem safe_playOnce (sv : Service) (path : String) : Safe (sv.playOnce path) := by
  intro s
  unfold playOnce
  refine SafeAt.openForScreen_bind fun a ha => ?_
  refine (SafeAt.forM _ _ s fun f hf s' hw hh => ?_).bind fun _ s' _ => SafeAt.pure _ s'
  have hsize : f.image.size = (s'.width, s'.height) := by
    rw [ha f hf, hw, hh]
  exact (safeAt_blit hsize).bind fun _ s'' _ => SafeAt.pure () s''

theorem safe_slide (a b : Raster) (d : Duration) (fps : Nat) : Safe (slide a b d fps) := by
  intro s
  unfold slide
  refine SafeAt.get_bind ?_
  refine (SafeAt.forM _ _ s fun k _ s' _ _ => ?_).bind fun _ s' _ => SafeAt.pure _ s'
  exact (safeAt_compose_ok (fun w h => size_slideFrame _ _ w h _ _) s').bind fun _ s'' _ => SafeAt.pure () s''

/-! ## Main result -/

/-- **Frames of the screen's size.** On every screen, whatever its size and mode, whatever it has
shown and whichever transmissions its display refuses, none of the service's drawing operations
fails on a frame's size, and every frame any of them shows has the display's size and mode:
clearing; text in any font; an icon; marks, or any drawing procedure, on a black canvas; a raster
of any size, empty ones included, scaled to the screen; an image file of any size, scaled or
cropped; the logo; the ready animation, for any stop event; an animation played once; and a
slide between rasters of any sizes. -/
theorem drawing_fits_screen (sv : Service) :
    Safe Screen.clear ∧
    (∀ text x y font ink, Safe (sv.showText text x y font ink)) ∧
    (∀ name x y, Safe (sv.showIcon name x y)) ∧
    (∀ ms, Safe (draw ms)) ∧
    (∀ p : Painter, Safe (drawWith p)) ∧
    (∀ r, Safe (showRaster r)) ∧
    (∀ path scale after, Safe (sv.showImage path scale after)) ∧
    (∀ d, Safe (sv.showLogo d)) ∧
    (∀ e, Safe (sv.showReady e)) ∧
    (∀ path, Safe (sv.playOnce path)) ∧
    (∀ a b d fps, Safe (slide a b d fps)) :=
  ⟨safeAt_clear, safe_showText sv, safe_showIcon sv, fun ms => draw_eq_drawWith ms ▸ safe_drawWith _, safe_drawWith,
    safe_showRaster, safe_showImage sv, safe_showLogo sv, safe_showReady sv, safe_playOnce sv, safe_slide⟩

end Service

end OledPanel
