import OledPanel.Service.Playback
import OledPanel.Observers

/-!
# Sessions

A session is a display service on a screen in memory, taken through a list of requests, one
after another. It adds to the service the handles its requests leave behind: timed clears,
numbered from zero in the order they are set, and the mode observers registered so far.

Each request answers a reply or a failure, and the record of a step shows the screen after it:
its generation, how many frames it has shown, whether the last is black, and the frames shown
during the step. A failed request keeps what it did before it failed.

A timed clear happens when it is waited for: it clears if nothing newer was shown. A clear that
is cancelled before it is waited for does nothing. Waiting for a clear that is not pending is a
failure of the request, not of the screen.

A ready request stops its loop right after the given number of frames; with zero the stop has
come before it starts. Its reply also says whether the stop was raised by the end: it is unless
the playback was skipped with frames still to go.
-/

namespace OledPanel

/-- where a slide takes a picture from -/
inductive SlideSource where
  | raster (r : Raster)
  | icon (name : String)

inductive Request where
  | clear
  | text (text : String) (x y : Int) (font : String) (ink : Rgb)
  | icon (name : String) (x y : Int)
  | image (path : String) (scale : Bool) (clearAfter : Option Duration)
  | raster (r : Raster)
  | draw (marks : List Mark)
  | blit (r : Raster)
  | blitFrame (f : Frame)
  | clearIfCurrent (generation : Nat)
  | generation
  | screenInfo
  | scheduleClear (after : Duration)
  | waitClear (id : Int)
  | cancelClear (id : Int)
  | logo (d : Duration)
  | ready (stopAfter : Nat)
  | playOnce (path : String)
  | slide (a b : SlideSource) (d : Duration) (fps : Nat)
  | register (r : Reaction)
  | notify (mode : String)
  | icons
  | fonts
  | settings

/-- what a request answers when it succeeds -/
inductive Reply where
  | none
  | generation (g : Nat)
  | flag (b : Bool)
  /-- the number of the clear that was set, if one was -/
  | timer (id : Option Nat)
  | screen (width height : Nat) (mode : Mode)
  | playback (p : Playback)
  | ready (p : Playback) (stopRaised : Bool)
  | notified (calls : List (Nat × String)) (failures : Nat)
  | icons (set : IconSet)
  | fonts (set : FontSet)
  | settings (c : Settings)

/-- how a request ended -/
inductive Outcome where
  | ok (r : Reply)
  | failed (e : PanelError)
  /-- no clear of this number is pending -/
  | noTimer (id : Int)

/-- the screen as a step leaves it -/
structure Snapshot where
  generation : Nat
  count : Nat
  /-- whether the last frame is black, if there is one -/
  lastBlack : Option Bool
  /-- the frames shown during the step, in order -/
  fresh : List Frame

/-- a display service, its screen, and the handles its requests left -/
structure Session where
  service : Service
  screen : Screen
  observers : Observers := {}
  /-- pending clears by number -/
  timers : List (Nat × TimedClear) := []
  nextTimer : Nat := 0

namespace Session

/-- A session of a service on a screen that has shown nothing. -/
def new (sv : Service) (d : MemoryDisplay) : Session := { service := sv, screen := ⟨d, 0⟩ }

def snapshotSince (s : Session) (before : Nat) : Snapshot :=
  let d := s.screen.display
  ⟨s.screen.generation, d.count, d.last?.map Frame.isBlack, d.shown.toList.drop before⟩

def onScreen {α : Type} (s : Session) (m : ScreenM α) : Except PanelError α × Session :=
  let (r, sc) := (m.run.run s.screen)
  (r, { s with screen := sc })

/-- Keep a timed clear under the next number. -/
def addTimer (s : Session) (t : TimedClear) : Nat × Session :=
  (s.nextTimer, { s with timers := s.timers ++ [(s.nextTimer, t)], nextTimer := s.nextTimer + 1 })

/-- Take the pending clear of a number out of the session. -/
def takeTimer (s : Session) (id : Int) : Option (TimedClear × Session) :=
  match s.timers.find? (fun p => (p.1 : Int) = id) with
  | some (n, t) => some (t, { s with timers := s.timers.filter (·.1 ≠ n) })
  | none => none

/-- The picture a slide source stands for. -/
def source (s : Session) : SlideSource → Raster
  | .raster r => r
  | .icon name => s.service.icons.get name

/-- Answer a screen computation's result with `reply`. -/
def answer {α : Type} (s : Session) (m : ScreenM α) (reply : α → Reply) : Outcome × Session :=
  match s.onScreen m with
  | (.ok a, s) => (.ok (reply a), s)
  | (.error e, s) => (.failed e, s)

/-- Carry out one request. -/
def perform (s : Session) : Request → Outcome × Session
  | .clear => s.answer Screen.clear fun _ => .none
  | .text t x y font ink => s.answer (s.service.showText t x y font ink) fun _ => .none
  | .icon name x y => s.answer (s.service.showIcon name x y) fun _ => .none
  | .image path scale after =>
    match s.onScreen (s.service.showImage path scale after) with
    | (.ok none, s) => (.ok (.timer none), s)
    | (.ok (some t), s) =>
      let (id, s) := s.addTimer t
      (.ok (.timer (some id)), s)
    | (.error e, s) => (.failed e, s)
  | .raster r => s.answer (Service.showRaster r) fun _ => .none
  | .draw ms => s.answer (Service.draw ms) fun _ => .none
  | .blit r => s.answer (Screen.blit r) .generation
  | .blitFrame f => s.answer (Screen.blitFrame f) .generation
  | .clearIfCurrent g => s.answer (Screen.clearIfCurrent g) .flag
  | .generation => (.ok (.generation s.screen.generation), s)
  | .screenInfo => (.ok (.screen s.screen.width s.screen.height s.screen.mode), s)
  | .scheduleClear after =>
    let (id, s) := s.addTimer ⟨s.screen.generation, after⟩
    (.ok (.timer (some id)), s)
  | .waitClear id =>
    match s.takeTimer id with
    | some (t, s) => s.answer t.fire .flag
    | none => (.noTimer id, s)
  | .cancelClear id =>
    match s.takeTimer id with
    | some (_, s) => (.ok (.flag false), s)
    | none => (.noTimer id, s)
  | .logo d => s.answer (s.service.showLogo d) .playback
  | .ready n =>
    let e := if n = 0 then StopEvent.before else .afterFrames n
    s.answer (s.service.showReady e) fun p => .ready p (p.ending ≠ .skipped || n = 0)
  | .playOnce path => s.answer (s.service.playOnce path) .playback
  | .slide a b d fps => s.answer (Service.slide (s.source a) (s.source b) d fps) .playback
  | .register r => (.ok .none, { s with observers := s.observers.register r })
  | .notify mode =>
    let (calls, failures) := s.observers.notify mode
    (.ok (.notified calls failures), s)
  | .icons => (.ok (.icons s.service.icons), s)
  | .fonts => (.ok (.fonts s.service.fonts), s)
  | .settings => (.ok (.settings s.service.settings), s)

/-- Carry out one request and record the step. -/
def step (s : Session) (r : Request) : (Outcome × Snapshot) × Session :=
  let before := s.screen.display.count
  let (o, s) := s.perform r
  ((o, s.snapshotSince before), s)

/-- Carry out requests in order, recording each step. -/
def run (s : Session) : List Request → List (Outcome × Snapshot) × Session
  | [] => ([], s)
  | r :: rs =>
    let (st, s) := s.step r
    let (sts, s) := run s rs
    (st :: sts, s)

theorem length_run (s : Session) (rs : List Request) : (s.run rs).1.length = rs.length := by
  induction rs generalizing s with
  | nil => rfl
  | cons r rs ih => simp [run, ih]

end Session

end OledPanel
