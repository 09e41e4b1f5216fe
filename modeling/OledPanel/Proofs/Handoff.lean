import OledPanel.Proofs.Generation

/-!
# What reaches the display

The screen checks a raster's size before it encodes and sends it, so a raster of another size
never reaches the display. A frame in the display's own mode is sent as it is, with no such
check: one of another size reaches the display, which counts the transmission and refuses the
frame with its own size error.

- `Sent.not_misfit`: a transmission of a frame of the display's size never fails on its size.
- `perform_misfit_unchanged`: every call but a frame of another size in the display's mode fails
  on a frame's size only before anything reaches the display, leaving the screen exactly as it
  was.
- `blitFrame_misfit`: a frame of another size in the display's mode reaches the display.
- `size_checked_before_display`: the two together. The display is handed a frame of another size
  only by a frame in its own mode, so it cannot leave the size to the screen.
-/

namespace OledPanel

namespace Screen

variable {α β : Type}

theorem Sent.not_misfit {f : Frame} {s : Screen} {p : Except PanelError Nat × Screen} (h : Sent f s p)
    (hw : f.width = s.width) (hh : f.height = s.height) (w h' w' h'' : Nat) :
    p.1 ≠ .error (.frameSize w h' w' h'') := by
  cases h with
  | kept => nofun
  | refused => nofun
  | misfit hs => exact absurd ⟨hw, hh⟩ hs

theorem error_of_run_bind_pure {x : ScreenM α} {f : α → β} {s : Screen} {e : PanelError}
    (h : ((do let a ← x; pure (f a) : ScreenM β).run.run s).1 = .error e) : (x.run.run s).1 = .error e := by
  rw [run_bind_pure] at h
  generalize x.run.run s = q at h ⊢
  obtain ⟨_ | a, s'⟩ := q
  · dsimp only at h ⊢
    cases h
    rfl
  · cases h

theorem blit_misfit_unchanged {r : Raster} {s : Screen} {w h w' h' : Nat}
    (he : ((blit r).run.run s).1 = .error (.frameSize w h w' h')) : ((blit r).run.run s).2 = s := by
  by_cases hs : r.width = s.width ∧ r.height = s.height
  · exact absurd he ((sent_blit hs.1 hs.2).not_misfit (by rw [Frame.width_ofRaster]; exact hs.1)
      (by rw [Frame.height_ofRaster]; exact hs.2) w h w' h')
  · rw [blit_misfit hs]

/-- **Size failures happen before the display.** Every call but a frame of another size in the
display's own mode fails on a frame's size only when the screen refuses it before anything is
sent, leaving the screen, its display's count of transmissions included, exactly as it was. -/
theorem perform_misfit_unchanged (c : Call) (s : Screen)
    (hc : ∀ f, c = .blitFrame f → f.mode = s.mode → f.width = s.width ∧ f.height = s.height)
    {w h w' h' : Nat} (he : (c.perform.run.run s).1 = .error (.frameSize w h w' h')) :
    (c.perform.run.run s).2 = s := by
  cases c with
  | blit r =>
    rw [Call.perform, snd_run_bind_pure]
    exact blit_misfit_unchanged (error_of_run_bind_pure he)
  | blitFrame f =>
    have he' := error_of_run_bind_pure he
    rw [Call.perform, snd_run_bind_pure]
    rw [blitFrame_run] at he' ⊢
    by_cases hm : f.mode = s.mode
    · -- a frame in the display's mode goes to the display as it is, and it has the display's size
      obtain ⟨hw, hh⟩ := hc f rfl hm
      rw [if_pos hm] at he'
      exact absurd he' ((sent_transmit f s).not_misfit hw hh w h w' h')
    · rw [if_neg hm] at he' ⊢
      exact blit_misfit_unchanged he'
  | compose build =>
    have he' := error_of_run_bind_pure he
    rw [Call.perform, snd_run_bind_pure]
    rw [compose_run] at he' ⊢
    cases hb : build s.width s.height with
    | error e => rfl
    | ok r =>
      rw [hb] at he'
      exact blit_misfit_unchanged he'
  | clear =>
    have he' := error_of_run_bind_pure he
    rw [clear_run] at he'
    exact absurd he' ((sent_transmit _ s).not_misfit rfl rfl w h w' h')
  | clearIfCurrent g =>
    have he' := error_of_run_bind_pure he
    rw [clearIfCurrent_run] at he'
    by_cases hg : s.generation = g
    · rw [if_pos hg] at he'
      have hsent := (sent_transmit (Frame.black s.width s.height s.mode) s).not_misfit rfl rfl w h w' h'
      generalize (transmit (Frame.black s.width s.height s.mode)).run.run s = q at he' hsent
      obtain ⟨_ | a, t⟩ := q
      · dsimp only at he' hsent
        cases he'
        exact absurd rfl hsent
      · cases he'
    · rw [if_neg hg] at he'
      cases he'

/-- **A frame of another size in the display's mode reaches the display**, which counts the
transmission and answers its own size error, unless it refuses that transmission first. -/
theorem blitFrame_misfit (f : Frame) (s : Screen) (hm : f.mode = s.mode)
    (hs : ¬(f.width = s.width ∧ f.height = s.height)) :
    (blitFrame f).run.run s =
      (if s.display.attempts + 1 ∈ s.display.refusals then .error .notInitialized
        else .error (.frameSize f.width f.height s.width s.height),
      { s with display := { s.display with attempts := s.display.attempts + 1 } }) := by
  rw [blitFrame_run, if_pos hm, run_transmit]
  unfold MemoryDisplay.transmit
  by_cases hr : s.display.attempts + 1 ∈ s.display.refusals
  · simp only [if_pos hr]
  · simp only [if_neg hr, Frame.checkSize]
    rw [if_neg (show ¬(f.width = s.display.width ∧ f.height = s.display.height) from hs)]
    rfl

/-- **Which frames reach the display with a size of their own.** Every call but a frame of
another size in the display's mode fails on a frame's size only before anything is sent, with the
screen and its display's count of transmissions as they were; such a frame is sent to the display,
which counts the transmission and is left to refuse the frame itself. -/
theorem size_checked_before_display (s : Screen) :
    (∀ c : Call, (∀ f, c = .blitFrame f → f.mode = s.mode → f.width = s.width ∧ f.height = s.height) →
      ∀ w h w' h', (c.perform.run.run s).1 = .error (.frameSize w h w' h') → (c.perform.run.run s).2 = s) ∧
    (∀ f : Frame, f.mode = s.mode → ¬(f.width = s.width ∧ f.height = s.height) →
      (blitFrame f).run.run s =
        (if s.display.attempts + 1 ∈ s.display.refusals then .error .notInitialized
          else .error (.frameSize f.width f.height s.width s.height),
        { s with display := { s.display with attempts := s.display.attempts + 1 } })) :=
  ⟨fun c hc _ _ _ _ he => perform_misfit_unchanged c s hc he, fun f hm hs => blitFrame_misfit f s hm hs⟩

/-- A `3 × 3` raster shown on a `2 × 2` luma display that refuses its first transmission is
refused by the screen with nothing sent, where a `3 × 3` luma frame reaches the display and is
answered by the refusal, with one transmission counted. -/
theorem blitFrame_misfit_refused :
    ((Call.blit (Raster.blank 3 3)).perform.run.run ⟨MemoryDisplay.new 2 2 .luma [1], 0⟩).2 =
      ⟨MemoryDisplay.new 2 2 .luma [1], 0⟩ ∧
    (blitFrame (Frame.black 3 3 .luma)).run.run ⟨MemoryDisplay.new 2 2 .luma [1], 0⟩ =
      (.error .notInitialized, ⟨{ MemoryDisplay.new 2 2 .luma [1] with attempts := 1 }, 0⟩) :=
  ⟨(size_checked_before_display _).1 (.blit (Raster.blank 3 3)) (fun _ hc => nomatch hc) 3 3 2 2 rfl,
    ((size_checked_before_display _).2 (Frame.black 3 3 .luma) rfl (by decide)).trans (by rfl)⟩

end Screen

end OledPanel
