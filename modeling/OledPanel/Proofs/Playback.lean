import OledPanel.Proofs.Generation
import OledPanel.Proofs.SizeSafety

/-!
# What a playback shows

A playback shows frames one after another until it has shown as many as it reports; a frame the
screen fails to show ends it with that failure. So a playback that answers a report has shown
exactly the first `frames` frames of the endless loop of the animation it loaded, in order, each
encoded in the screen's mode; one whose animation does not load answers the loading failure and
shows nothing; and one with nothing configured to play is skipped and shows nothing.

The clock of the logo and the stop event of the ready animation are any that let the playback
end: the logo's clock by the first frame before which it says the time is up, the stop event by
when it comes.

- `Shows fs s s'`: `s'` is `s` after its display kept the frames `fs` in order.
- `shows_forM`: a loop whose every step keeps one frame keeps, when it ends, those frames in order.
- `Plays`, `PlaysSetting`: the outcome of a playback of a file, and of a configured file, for the
  report expected of each animation.
- `playOnce_plays`, `showLogoUntil_plays`, `showReady_plays`: the three playbacks.
- `playback_shows_loop`: all of it; the logo shown for a while asks an exact clock; and a stop event
  that has come before the start stops an animation before its first frame.
-/

namespace OledPanel

namespace Screen

variable {α β : Type}

/-! ## Frames kept in order -/

/-- `s'` is `s` after its display kept the frames `fs` in order, each moving the generation on by
one, on the same display -/
structure Shows (fs : List Frame) (s s' : Screen) : Prop where
  shown : s'.display.shown.toList = s.display.shown.toList ++ fs
  generation : s'.generation = s.generation + fs.length
  width : s'.width = s.width
  height : s'.height = s.height
  mode : s'.mode = s.mode

theorem Shows.nil (s : Screen) : Shows [] s s := ⟨by simp, rfl, rfl, rfl, rfl⟩

theorem Kept.shows {f : Frame} {s s' : Screen} (h : Kept f s s') : Shows [f] s s' :=
  ⟨by simp [h.shown], h.generation, h.width, h.height, h.mode⟩

theorem Shows.append {fs gs : List Frame} {s₁ s₂ s₃ : Screen} (h₁ : Shows fs s₁ s₂) (h₂ : Shows gs s₂ s₃) :
    Shows (fs ++ gs) s₁ s₃ := by
  refine ⟨?_, ?_, h₂.width.trans h₁.width, h₂.height.trans h₁.height, h₂.mode.trans h₁.mode⟩
  · rw [h₂.shown, h₁.shown, List.append_assoc]
  · rw [h₂.generation, h₁.generation, List.length_append, Nat.add_assoc]

theorem ok_of_run_bind {x : ScreenM α} {f : α → ScreenM β} {s s' : Screen} {b : β}
    (h : (x >>= f).run.run s = (.ok b, s')) :
    ∃ a t, x.run.run s = (.ok a, t) ∧ (f a).run.run t = (.ok b, s') := by
  rw [run_bind] at h
  generalize hx : x.run.run s = p at h
  obtain ⟨_ | a, t⟩ := p
  · cases h
  · exact ⟨a, t, rfl, h⟩

theorem blit_ok_kept {r : Raster} {s s' : Screen} {g : Nat} (h : (blit r).run.run s = (.ok g, s')) :
    Kept (Frame.ofRaster r s.mode) s s' := by
  by_cases hs : r.width = s.width ∧ r.height = s.height
  · have hsent := sent_blit hs.1 hs.2
    rw [h] at hsent
    cases hsent with
    | kept _ _ hk => exact hk
  · rw [blit_misfit hs] at h
    cases h

theorem blit_step_kept {r : Raster} {s s' : Screen} (h : (do let _ ← blit r; pure () : ScreenM PUnit).run.run s = (.ok (), s')) :
    Kept (Frame.ofRaster r s.mode) s s' := by
  obtain ⟨g, t, hb, hp⟩ := ok_of_run_bind h
  cases hp
  exact blit_ok_kept hb

/-- **A loop of frames.** A loop each of whose steps, when it succeeds, keeps one frame that
depends only on the step and on the screen's size and mode keeps, when it ends, those frames in
order. -/
theorem shows_forM (xs : List β) (body : β → ScreenM PUnit) (F : β → Nat → Nat → Mode → Frame)
    (hbody : ∀ x t t', (body x).run.run t = (.ok (), t') → Kept (F x t.width t.height t.mode) t t')
    {s s' : Screen} (h : (xs.forM body).run.run s = (.ok (), s')) :
    Shows (xs.map fun x => F x s.width s.height s.mode) s s' := by
  -- the induction is on the steps; each keeps the screen's size and mode for the next
  induction xs generalizing s with
  | nil =>
    cases h
    exact Shows.nil _
  | cons x xs ih =>
    rw [show (x :: xs).forM body = (body x >>= fun _ => xs.forM body) from rfl, run_bind] at h
    generalize hx : (body x).run.run s = p at h
    obtain ⟨_ | ⟨⟩, t⟩ := p
    · cases h
    · have hk := hbody x s t hx
      have hrest := ih h
      rw [hk.width, hk.height, hk.mode] at hrest
      exact hk.shows.append hrest

end Screen

/-! ## Frames of the endless loop -/

namespace Animation

/-- the first `n` frames of the endless loop of `a`, encoded in mode `m` -/
def loopFrames (a : Animation) (n : Nat) (m : Mode) : List Frame :=
  (List.range n).map fun k => Frame.ofRaster (a.frameAt k).image m

theorem length_pos (a : Animation) : 0 < a.length := List.length_pos_iff.2 a.nonempty

theorem getElem_frameAt (a : Animation) (k : Nat) :
    a.frameAt k = a.frames.get ⟨k % a.length, Nat.mod_lt k a.length_pos⟩ := by
  unfold frameAt
  rw [List.getElem?_eq_getElem (show k % a.length < a.frames.length from Nat.mod_lt k a.length_pos)]
  rfl

theorem map_range_frameAt (a : Animation) : (List.range a.length).map a.frameAt = a.frames := by
  apply List.ext_getElem (by simp [length])
  intro k h₁ h₂
  have hk : k < a.length := by simpa using h₁
  rw [List.getElem_map, List.getElem_range, getElem_frameAt]
  simp only [Nat.mod_eq_of_lt hk, List.get_eq_getElem]

theorem loopFrames_length (a : Animation) (m : Mode) :
    a.loopFrames a.length m = a.frames.map fun f => Frame.ofRaster f.image m := by
  rw [← a.map_range_frameAt, List.map_map]
  rfl

/-- A stop event that has come by the start stops an animated playback before its first frame. -/
theorem framesShown_of_atStart (a : Animation) {e : StopEvent} (he : e.atStart = true) : e.framesShown a = 0 := by
  cases e with
  | before => rfl
  | afterFrames n =>
    show n = 0
    simpa [StopEvent.atStart] using he
  | afterTime d =>
    have hd : d.toNanos = 0 := by simpa [StopEvent.atStart] using he
    show a.framesBefore d.toNanos = 0
    rw [hd, framesBefore_zero]

end Animation

namespace Service

open Screen

/-! ## Playbacks -/

theorem shows_loop {a : Animation} {n : Nat} {s s' : Screen} (h : (loop a n).run.run s = (.ok (), s')) :
    Shows (a.loopFrames n s.mode) s s' :=
  shows_forM (List.range n) _ (fun k _ _ m => Frame.ofRaster (a.frameAt k).image m)
    (fun _ _ _ hk => blit_step_kept hk) h

/-- The outcome `p` of a playback from `s` of the animation at `path`, where `report a` is what
the playback answers once it has loaded `a`: when the file does not load, its failure, with
nothing shown; once it loads as `a`, either a failure, or the report `report a` having shown the
first `frames` frames of the endless loop of `a` in order. -/
def Plays (sv : Service) (path : String) (report : Animation → Playback) (s : Screen)
    (p : Except PanelError Playback × Screen) : Prop :=
  match sv.openAnimation path s.width s.height with
  | .error e => p = (.error e, s)
  | .ok a => ∀ rep s', p = (.ok rep, s') → rep = report a ∧ Shows (a.loopFrames rep.frames s.mode) s s'

/-- The outcome of a playback of the file a setting names: skipped, with nothing shown, when the
setting names none. -/
def PlaysSetting (sv : Service) (setting : Option String) (report : Animation → Playback) (s : Screen)
    (p : Except PanelError Playback × Screen) : Prop :=
  match setting with
  | none => p = (.ok ⟨.skipped, 0⟩, s)
  | some path => Plays sv path report s p

/-- A playback that loads its animation and then runs `play` on it plays as `report` says when
`play` does for every animation fitted to the screen. -/
theorem plays_openForScreen {sv : Service} {path : String} {report : Animation → Playback} {s : Screen}
    (play : Animation → ScreenM Playback)
    (hplay : ∀ a, sv.openAnimation path s.width s.height = .ok a → ∀ rep s',
      (play a).run.run s = (.ok rep, s') → rep = report a ∧ Shows (a.loopFrames rep.frames s.mode) s s') :
    Plays sv path report s ((sv.openForScreen path >>= play).run.run s) := by
  unfold Plays
  rw [run_bind, openForScreen_run]
  cases ho : sv.openAnimation path s.width s.height with
  | error e => rfl
  | ok a => exact hplay a ho

theorem blit_then_report {r : Raster} {rep rep' : Playback} {s s' : Screen}
    (h : (do let _ ← blit r; pure rep : ScreenM Playback).run.run s = (.ok rep', s')) :
    rep' = rep ∧ Shows [Frame.ofRaster r s.mode] s s' := by
  obtain ⟨g, t, hb, hp⟩ := ok_of_run_bind h
  cases hp
  exact ⟨rfl, (blit_ok_kept hb).shows⟩

theorem loop_then_report {a : Animation} {n : Nat} {rep rep' : Playback} {s s' : Screen}
    (h : (do loop a n; pure rep : ScreenM Playback).run.run s = (.ok rep', s')) :
    rep' = rep ∧ Shows (a.loopFrames n s.mode) s s' := by
  obtain ⟨⟨⟩, t, hl, hp⟩ := ok_of_run_bind h
  cases hp
  exact ⟨rfl, shows_loop hl⟩

theorem loopFrames_one (a : Animation) (m : Mode) : a.loopFrames 1 m = [Frame.ofRaster a.first.image m] := by
  simp only [Animation.loopFrames, List.range_one, List.map_cons, List.map_nil, Animation.getElem_frameAt,
    Nat.zero_mod, Animation.first, List.head_eq_getElem, List.get_eq_getElem]

/-- **Playing once** shows every frame once, in order, and reports them all. -/
theorem playOnce_plays (sv : Service) (path : String) (s : Screen) :
    Plays sv path (fun a => ⟨.exhausted, a.length⟩) s ((sv.playOnce path).run.run s) := by
  refine plays_openForScreen _ fun a _ rep s' h => ?_
  obtain ⟨⟨⟩, t, hl, hp⟩ := ok_of_run_bind h
  cases hp
  refine ⟨rfl, ?_⟩
  rw [Animation.loopFrames_length]
  exact shows_forM a.frames _ (fun f _ _ m => Frame.ofRaster f.image m) (fun _ _ _ hk => blit_step_kept hk) hl

/-- **The logo until the time is up.** An animated logo shows the frames of its loop before the
first one before which the clock says the time is up; a still logo is shown once. -/
theorem showLogoUntil_plays (sv : Service) (upAt : Animation → Nat) (s : Screen) :
    PlaysSetting sv sv.settings.logoPath
      (fun a => ⟨.deadlineReached, if a.isAnimated then upAt a else 1⟩) s ((sv.showLogoUntil upAt).run.run s) := by
  unfold showLogoUntil PlaysSetting
  cases hp : sv.settings.logoPath with
  | none => rfl
  | some path =>
    refine plays_openForScreen _ fun a _ rep s' h => ?_
    by_cases ha : a.isAnimated
    · rw [if_pos ha] at h ⊢
      obtain ⟨rfl, hs⟩ := loop_then_report h
      exact ⟨rfl, hs⟩
    · rw [if_neg ha] at h ⊢
      obtain ⟨rfl, hs⟩ := blit_then_report h
      exact ⟨rfl, by rw [loopFrames_one]; exact hs⟩

/-- **The ready animation until the stop event.** An animated one shows the frames of its loop
until the event; a still one is shown once unless the event has come before the start. -/
theorem showReady_plays (sv : Service) (e : StopEvent) (s : Screen) :
    PlaysSetting sv sv.settings.readyGifPath
      (fun a => ⟨.stopped, if a.isAnimated then e.framesShown a else if e.atStart then 0 else 1⟩) s
      ((sv.showReady e).run.run s) := by
  unfold showReady PlaysSetting
  cases hp : sv.settings.readyGifPath with
  | none => rfl
  | some path =>
    refine plays_openForScreen _ fun a _ rep s' h => ?_
    by_cases ha : a.isAnimated
    · rw [if_pos ha] at h ⊢
      obtain ⟨rfl, hs⟩ := loop_then_report h
      exact ⟨rfl, hs⟩
    · rw [if_neg ha] at h ⊢
      by_cases hs : e.atStart
      · rw [if_pos hs] at h ⊢
        cases h
        exact ⟨rfl, Shows.nil _⟩
      · rw [if_neg hs] at h ⊢
        obtain ⟨rfl, hshown⟩ := blit_then_report h
        exact ⟨rfl, by rw [loopFrames_one]; exact hshown⟩

/-- **What a playback shows.** From every screen: a playback of a file that does not load answers
the loading failure and shows nothing; one with nothing configured is skipped and shows
nothing; and one that answers a report has shown exactly the first `frames` frames of the endless
loop of the animation it loaded, in order. Playing once reports every frame and ends exhausted;
the logo ends at its deadline, having shown the frames before the first one before which the
clock says the time is up, or a still logo once; the logo shown for a while asks an exact clock;
the ready animation ends stopped, having shown the frames before the stop event, or a still one
once unless the event came before the start; an event that has come by the start stops an
animated playback before its first frame; and frame `k` of the loop of `n` frames is frame
`k mod n`. -/
theorem playback_shows_loop (sv : Service) (s : Screen) :
    (∀ path, Plays sv path (fun a => ⟨.exhausted, a.length⟩) s ((sv.playOnce path).run.run s)) ∧
    (∀ upAt, PlaysSetting sv sv.settings.logoPath
      (fun a => ⟨.deadlineReached, if a.isAnimated then upAt a else 1⟩) s ((sv.showLogoUntil upAt).run.run s)) ∧
    (∀ d, sv.showLogo d = sv.showLogoUntil fun a => a.framesBefore d.toNanos) ∧
    (∀ e, PlaysSetting sv sv.settings.readyGifPath
      (fun a => ⟨.stopped, if a.isAnimated then e.framesShown a else if e.atStart then 0 else 1⟩) s
      ((sv.showReady e).run.run s)) ∧
    (∀ (e : StopEvent) (a : Animation), e.atStart = true → e.framesShown a = 0) ∧
    (∀ (a : Animation) k, a.frameAt k = a.frames.get ⟨k % a.length, Nat.mod_lt k a.length_pos⟩) :=
  ⟨fun path => playOnce_plays sv path s, fun upAt => showLogoUntil_plays sv upAt s,
    showLogo_eq_showLogoUntil sv, fun e => showReady_plays sv e s,
    fun _ a he => a.framesShown_of_atStart he, Animation.getElem_frameAt⟩

end Service

end OledPanel
