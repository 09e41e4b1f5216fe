import OledPanel.Display.Screen

/-!
# Screens, one operation at a time

What every screen operation is made of, stated once so that the service's operations can be
judged without unfolding them again:

* `run_bind`, `run_get`, `run_throw`, `run_tryCatch`: how a computation in `ScreenM` runs;
* `Sent`: the three ways one transmission ends. The display keeps a frame of its size and the
  generation moves on by one; it refuses the transmission; or it refuses a frame of another
  size. A refused transmission shows nothing and keeps the generation (`sent_transmit`).
* `Grows`: what a screen may become under any operation. The display keeps its geometry and
  everything it has shown, and each frame it newly keeps fits it and moves the generation on by
  one. `Grows` is reflexive and transitive, so a chain of operations grows when each does.
* `blit_run`, `blitFrame_run`, `clear_run`, `clearIfCurrent_run`, `compose_run`: each operation
  as a choice between a transmission and a failure that leaves the screen as it was.
-/

namespace OledPanel

namespace Frame

@[simp] theorem width_ofRaster (r : Raster) (m : Mode) : (ofRaster r m).width = r.width := by
  cases m <;> rfl

@[simp] theorem height_ofRaster (r : Raster) (m : Mode) : (ofRaster r m).height = r.height := by
  cases m <;> rfl

@[simp] theorem mode_ofRaster (r : Raster) (m : Mode) : (ofRaster r m).mode = m := by
  cases m <;> rfl

@[simp] theorem width_black (w h : Nat) (m : Mode) : (black w h m).width = w := rfl

@[simp] theorem height_black (w h : Nat) (m : Mode) : (black w h m).height = h := rfl

@[simp] theorem mode_black (w h : Nat) (m : Mode) : (black w h m).mode = m := rfl

end Frame

namespace Screen

variable {α β : Type}

/-! ## Running screen computations -/

@[simp] theorem run_pure (a : α) (s : Screen) : (pure a : ScreenM α).run.run s = (.ok a, s) := rfl

theorem run_bind (x : ScreenM α) (f : α → ScreenM β) (s : Screen) :
    (x >>= f).run.run s = match x.run.run s with
      | (.ok a, s') => (f a).run.run s'
      | (.error e, s') => (.error e, s') := by
  simp only [ExceptT.run_bind, StateT.run_bind]
  rcases x.run.run s with ⟨_ | a, s'⟩ <;> rfl

@[simp] theorem run_get (s : Screen) : (get : ScreenM Screen).run.run s = (.ok s, s) := rfl

@[simp] theorem run_throw (e : PanelError) (s : Screen) : (throw e : ScreenM α).run.run s = (.error e, s) :=
  rfl

theorem run_tryCatch (x : ScreenM α) (h : PanelError → ScreenM α) (s : Screen) :
    (tryCatch x h).run.run s = match x.run.run s with
      | (.ok a, s') => (.ok a, s')
      | (.error e, s') => (h e).run.run s' := by
  show (ExceptT.tryCatch x h).run.run s = _
  simp only [ExceptT.tryCatch, ExceptT.run, ExceptT.mk, StateT.run_bind]
  rcases hx : StateT.run x s with ⟨_ | a, s'⟩ <;> rfl

/-! ## What a screen may become -/

/-- `f` fits the screen: its size and its mode are the display's -/
def Fits (s : Screen) (f : Frame) : Prop := f.width = s.width ∧ f.height = s.height ∧ f.mode = s.mode

/-- `s'` is `s` after the display kept `f`, on the same display -/
structure Kept (f : Frame) (s s' : Screen) : Prop where
  shown : s'.display.shown = s.display.shown.push f
  generation : s'.generation = s.generation + 1
  width : s'.width = s.width
  height : s'.height = s.height
  mode : s'.mode = s.mode

/-- `s'` shows what `s` shows, at the same generation, on the same display -/
structure Unmoved (s s' : Screen) : Prop where
  shown : s'.display.shown = s.display.shown
  generation : s'.generation = s.generation
  width : s'.width = s.width
  height : s'.height = s.height
  mode : s'.mode = s.mode

/-- `s'` is `s` after the display kept some more frames, each fitting it and moving the
generation on by one -/
structure Grows (s s' : Screen) : Prop where
  width : s'.width = s.width
  height : s'.height = s.height
  mode : s'.mode = s.mode
  fresh : ∃ fs : List Frame, s'.display.shown.toList = s.display.shown.toList ++ fs ∧
    s'.generation = s.generation + fs.length ∧ ∀ f ∈ fs, s.Fits f

theorem Grows.refl (s : Screen) : Grows s s := ⟨rfl, rfl, rfl, [], by simp, rfl, by simp⟩

theorem Grows.trans {s₁ s₂ s₃ : Screen} (h₁ : Grows s₁ s₂) (h₂ : Grows s₂ s₃) : Grows s₁ s₃ := by
  obtain ⟨fs₁, e₁, g₁, f₁⟩ := h₁.fresh
  obtain ⟨fs₂, e₂, g₂, f₂⟩ := h₂.fresh
  refine ⟨h₂.width.trans h₁.width, h₂.height.trans h₁.height, h₂.mode.trans h₁.mode, fs₁ ++ fs₂, ?_, ?_, ?_⟩
  · rw [e₂, e₁, List.append_assoc]
  · rw [g₂, g₁, List.length_append, Nat.add_assoc]
  · intro f hf
    rcases List.mem_append.1 hf with hf | hf
    · exact f₁ f hf
    · obtain ⟨hw, hh, hm⟩ := f₂ f hf
      exact ⟨hw.trans h₁.width, hh.trans h₁.height, hm.trans h₁.mode⟩

theorem Grows.generation_le {s s' : Screen} (h : Grows s s') : s.generation ≤ s'.generation := by
  obtain ⟨fs, -, hg, -⟩ := h.fresh
  omega

theorem Grows.count_add {s s' : Screen} (h : Grows s s') :
    s'.display.count + s.generation = s.display.count + s'.generation := by
  obtain ⟨fs, hl, hg, -⟩ := h.fresh
  have hc : s'.display.count = s.display.count + fs.length := by
    simp only [MemoryDisplay.count, ← Array.length_toList, hl, List.length_append]
  omega

theorem Unmoved.grows {s s' : Screen} (h : Unmoved s s') : Grows s s' :=
  ⟨h.width, h.height, h.mode, [], by simp [h.shown], by simp [h.generation], by simp⟩

theorem Kept.grows {f : Frame} {s s' : Screen} (h : Kept f s s') (hf : s.Fits f) : Grows s s' :=
  ⟨h.width, h.height, h.mode, [f], by simp [h.shown], by simp [h.generation], by simpa using hf⟩

/-! ## One transmission -/

/-- how one transmission of `f` from `s` ends -/
inductive Sent (f : Frame) (s : Screen) : Except PanelError Nat × Screen → Prop
  /-- the display keeps the frame, which has its size, and the new generation is answered -/
  | kept {s' : Screen} (hw : f.width = s.width) (hh : f.height = s.height) (h : Kept f s s') :
      Sent f s (.ok (s.generation + 1), s')
  /-- the display refuses the transmission -/
  | refused {s' : Screen} (h : Unmoved s s') : Sent f s (.error .notInitialized, s')
  /-- the display refuses a frame of another size -/
  | misfit {s' : Screen} (hs : ¬(f.width = s.width ∧ f.height = s.height)) (h : Unmoved s s') :
      Sent f s (.error (.frameSize f.width f.height s.width s.height), s')

theorem run_transmit (f : Frame) (s : Screen) : (transmit f).run.run s =
    match s.display.transmit f with
    | (.error e, d) => (.error e, { s with display := d })
    | (.ok (), d) => (.ok (s.generation + 1), { s with display := d, generation := s.generation + 1 }) := by
  simp only [transmit, run_bind, run_get]
  rcases s.display.transmit f with ⟨_ | ⟨⟩, d⟩ <;> rfl

theorem transmit_ok_iff (f : Frame) (s : Screen) :
    (∃ g, ((transmit f).run.run s).1 = .ok g) ↔ (s.display.transmit f).1 = .ok () := by
  rw [run_transmit]
  rcases s.display.transmit f with ⟨_ | ⟨⟩, d⟩ <;> simp

theorem sent_transmit (f : Frame) (s : Screen) : Sent f s ((transmit f).run.run s) := by
  simp only [transmit, run_bind, run_get, MemoryDisplay.transmit]
  by_cases hr : s.display.attempts + 1 ∈ s.display.refusals
  · simp only [if_pos hr]
    exact .refused ⟨rfl, rfl, rfl, rfl, rfl⟩
  · simp only [if_neg hr, Frame.checkSize]
    by_cases hs : f.width = s.display.width ∧ f.height = s.display.height
    · simp only [if_pos hs]
      exact .kept hs.1 hs.2 ⟨rfl, rfl, rfl, rfl, rfl⟩
    · simp only [if_neg hs]
      exact .misfit hs ⟨rfl, rfl, rfl, rfl, rfl⟩

theorem Sent.grows {f : Frame} {s : Screen} {p : Except PanelError Nat × Screen} (h : Sent f s p)
    (hm : f.mode = s.mode) : Grows s p.2 := by
  cases h with
  | kept hw hh hk => exact hk.grows ⟨hw, hh, hm⟩
  | refused hu => exact hu.grows
  | misfit _ hu => exact hu.grows

/-- A transmission answers either the next generation, having kept the frame, or a failure,
having shown nothing. -/
theorem Sent.outcome {f : Frame} {s : Screen} {p : Except PanelError Nat × Screen} (h : Sent f s p) :
    (p.1 = .ok (s.generation + 1) ∧ Kept f s p.2) ∨ ((∃ e, p.1 = .error e) ∧ Unmoved s p.2) := by
  cases h with
  | kept _ _ hk => exact .inl ⟨rfl, hk⟩
  | refused hu => exact .inr ⟨⟨_, rfl⟩, hu⟩
  | misfit _ hu => exact .inr ⟨⟨_, rfl⟩, hu⟩

/-! ## The operations as transmissions -/

theorem blit_run (r : Raster) (s : Screen) : (blit r).run.run s =
    if r.width = s.width ∧ r.height = s.height then (transmit (Frame.ofRaster r s.mode)).run.run s
    else (.error (.frameSize r.width r.height s.width s.height), s) := by
  simp only [blit, run_bind, run_get]
  by_cases hc : r.width = s.width ∧ r.height = s.height
  · simp only [if_pos hc]
  · simp only [if_neg hc]
    rfl

theorem blitFrame_run (f : Frame) (s : Screen) : (blitFrame f).run.run s =
    if f.mode = s.mode then (transmit f).run.run s else (blit f.toPicture.toRaster).run.run s := by
  simp only [blitFrame, run_bind, run_get]
  by_cases hm : f.mode = s.mode
  · simp only [if_pos hm]
  · simp only [if_neg hm]

theorem clear_run (s : Screen) :
    clear.run.run s = (transmit (Frame.black s.width s.height s.mode)).run.run s := by
  simp only [clear, run_bind, run_get]

theorem clearIfCurrent_run (g : Nat) (s : Screen) : (clearIfCurrent g).run.run s =
    if s.generation = g then
      match (transmit (Frame.black s.width s.height s.mode)).run.run s with
      | (.ok _, s') => (.ok true, s')
      | (.error e, s') => (.error e, s')
    else (.ok false, s) := by
  simp only [clearIfCurrent, run_bind, run_get]
  by_cases hg : s.generation = g
  · simp only [if_pos hg, run_bind, clear_run]
    rcases (transmit (Frame.black s.width s.height s.mode)).run.run s with ⟨_ | _, s'⟩ <;> rfl
  · simp only [if_neg hg]
    rfl

theorem compose_run (build : Nat → Nat → Except PanelError Raster) (s : Screen) :
    (compose build).run.run s = match build s.width s.height with
      | .ok r => (blit r).run.run s
      | .error e => (.error e, s) := by
  simp only [compose, run_bind, run_get]
  rcases build s.width s.height with e | r <;> rfl

theorem sent_blit {r : Raster} {s : Screen} (hw : r.width = s.width) (hh : r.height = s.height) :
    Sent (Frame.ofRaster r s.mode) s ((blit r).run.run s) := by
  rw [blit_run, if_pos ⟨hw, hh⟩]
  exact sent_transmit _ s

theorem blit_misfit {r : Raster} {s : Screen} (h : ¬(r.width = s.width ∧ r.height = s.height)) :
    (blit r).run.run s = (.error (.frameSize r.width r.height s.width s.height), s) := by
  rw [blit_run, if_neg h]

end Screen

end OledPanel
