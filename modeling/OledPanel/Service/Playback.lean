import OledPanel.Service
import OledPanel.Animation

/-!
# Playback

The service plays animations in four ways. Each answers how the playback ended and how many
frames it showed, and stops at the first frame the screen fails to show.

* The logo is shown for a while. A still logo is shown once, whatever the time. An animated
  logo loops, and a frame is shown if it starts before the time is up; frame `k` of the loop
  starts when the delays of the frames before it have passed.
* The ready animation loops until a stop event. A still image is shown once unless the event
  has come before the start. An animated one shows every frame that starts before the event.
* An animation can be played once through.
* A slide moves one raster out to the left while another comes in from the right, in a number
  of steps fixed by the time and the frame rate: the seconds times the rate, rounded half away
  from zero, at least one. At step `i` of `n` both have moved `width · i / n` pixels.

A logo or ready animation that the settings do not name is skipped. Animations are scaled to
the screen when they are opened.
-/

namespace OledPanel

/-- how a playback ended -/
inductive Ending where
  | deadlineReached
  | stopped
  | exhausted
  | skipped
  deriving DecidableEq, Repr

/-- what a playback did: how it ended and how many frames it showed -/
structure Playback where
  ending : Ending
  frames : Nat
  deriving DecidableEq, Repr

/-- when the stop event of a looping playback comes -/
inductive StopEvent where
  | before
  /-- right after the playback has shown this many frames -/
  | afterFrames (n : Nat)
  /-- when this much time has passed since the playback started -/
  | afterTime (d : Duration)
  deriving DecidableEq, Repr

namespace Animation

/-- the frame at position `k` of the endless loop -/
def frameAt (a : Animation) (k : Nat) : AnimationFrame :=
  a.frames[k % a.length]?.getD (a.frames.head a.nonempty)

/-- The first frame. -/
def first (a : Animation) : AnimationFrame := a.frames.head a.nonempty

/-- When each frame of one pass starts, in nanoseconds from the start of the pass. -/
def starts (a : Animation) : List Nat :=
  (a.frames.foldl (fun (acc : List Nat × Nat) f => (acc.2 :: acc.1, acc.2 + f.delay.toNanos))
    ([], 0)).1.reverse

/-- How many frames of the endless loop start before `deadline` nanoseconds: a frame that starts
`p` into a pass of length `t` starts again every `t`. -/
def framesBefore (a : Animation) (deadline : Nat) : Nat :=
  let t := a.totalDuration.toNanos
  (a.starts.map fun p => if p < deadline then (deadline - p + t - 1) / t else 0).foldr (· + ·) 0

end Animation

namespace StopEvent

/-- Whether the event has come when the playback is about to start. -/
def atStart : StopEvent → Bool
  | before => true
  | afterFrames n => n = 0
  | afterTime d => d.toNanos = 0

/-- How many frames of a looping animation are shown before the event. -/
def framesShown (a : Animation) : StopEvent → Nat
  | before => 0
  | afterFrames n => n
  | afterTime d => a.framesBefore d.toNanos

end StopEvent

namespace Service

/-- Open an animation scaled to `w × h`. -/
def openAnimation (sv : Service) (path : String) (w h : Nat) : Except PanelError Animation :=
  (Animation.ofFile sv.files path).map (·.fitted w h)

/-- Open an animation scaled to the screen. -/
def openForScreen (sv : Service) (path : String) : ScreenM Animation := do
  let s ← get
  match sv.openAnimation path s.width s.height with
  | .ok a => pure a
  | .error e => throw e

/-- Show the first `n` frames of the endless loop. -/
def loop (a : Animation) (n : Nat) : ScreenM Unit :=
  (List.range n).forM fun k => do
    let _ ← Screen.blit (a.frameAt k).image

/-- Show the logo for a while. -/
def showLogo (sv : Service) (d : Duration) : ScreenM Playback := do
  match sv.settings.logoPath with
  | none => pure ⟨.skipped, 0⟩
  | some path =>
    let a ← sv.openForScreen path
    if a.isAnimated then
      let n := a.framesBefore d.toNanos
      loop a n
      pure ⟨.deadlineReached, n⟩
    else
      let _ ← Screen.blit a.first.image
      pure ⟨.deadlineReached, 1⟩

/-- Show the logo until a clock says its time is up. The clock is asked before each frame of an
animated logo, and `upAt a` is the position in the loop of `a` of the first frame before which it
answers that the time is up; a clock that lets the playback end answers so once, and nothing else
it answers matters. A still logo is shown once, whatever the clock says. -/
def showLogoUntil (sv : Service) (upAt : Animation → Nat) : ScreenM Playback := do
  match sv.settings.logoPath with
  | none => pure ⟨.skipped, 0⟩
  | some path =>
    let a ← sv.openForScreen path
    if a.isAnimated then
      let n := upAt a
      loop a n
      pure ⟨.deadlineReached, n⟩
    else
      let _ ← Screen.blit a.first.image
      pure ⟨.deadlineReached, 1⟩

/-- Showing the logo for a while asks an exact clock: the time is up before the first frame of
the loop that does not start before the deadline. -/
theorem showLogo_eq_showLogoUntil (sv : Service) (d : Duration) :
    sv.showLogo d = sv.showLogoUntil fun a => a.framesBefore d.toNanos := rfl

/-- Loop the ready animation until the stop event. -/
def showReady (sv : Service) (e : StopEvent) : ScreenM Playback := do
  match sv.settings.readyGifPath with
  | none => pure ⟨.skipped, 0⟩
  | some path =>
    let a ← sv.openForScreen path
    if a.isAnimated then
      let n := e.framesShown a
      loop a n
      pure ⟨.stopped, n⟩
    else if e.atStart then pure ⟨.stopped, 0⟩
    else
      let _ ← Screen.blit a.first.image
      pure ⟨.stopped, 1⟩

/-- Play an animation file once through. -/
def playOnce (sv : Service) (path : String) : ScreenM Playback := do
  let a ← sv.openForScreen path
  a.frames.forM fun f => do
    let _ ← Screen.blit f.image
  pure ⟨.exhausted, a.length⟩

/-- The steps of a slide: the seconds times the rate, rounded half away from zero and cut to a
32-bit count, at least one. -/
def slideSteps (d : Duration) (fps : Nat) : Nat :=
  let secs : Float := d.secs.toFloat + d.nanos.toFloat / 1000000000.0
  max 1 (secs * fps.toFloat).round.toUInt32.toNat

/-- Frame `i` of a slide from `a` to `b` of `n` steps on a `w × h` screen. -/
def slideFrame (a b : Raster) (w h n i : Nat) : Raster :=
  let offset : Int := w * i / n
  ((Raster.blank w h).paste a (-offset) 0).paste b (w - offset) 0

/-- Slide from one raster to another, each first scaled to the screen. -/
def slide (a b : Raster) (d : Duration) (fps : Nat) : ScreenM Playback := do
  let s ← get
  let a := a.resample s.width s.height
  let b := b.resample s.width s.height
  let n := slideSteps d fps
  (List.range n).forM fun k => do
    let _ ← Screen.compose fun w h => .ok (slideFrame a b w h n (k + 1))
  pure ⟨.exhausted, n⟩

theorem slideSteps_pos (d : Duration) (fps : Nat) : 0 < slideSteps d fps := by
  unfold slideSteps
  exact Nat.lt_of_lt_of_le Nat.one_pos (Nat.le_max_left _ _)

end Service

theorem framesBefore_zero (a : Animation) : a.framesBefore 0 = 0 := by
  simp only [Animation.framesBefore, Nat.not_lt_zero, if_false, List.map_const']
  induction a.starts.length with
  | zero => rfl
  | succ n ih => rw [List.replicate_succ, List.foldr_cons, ih]

end OledPanel
