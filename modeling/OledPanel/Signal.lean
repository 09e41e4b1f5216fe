import OledPanel.Duration

/-!
# Stop signals

A stop signal is a flag that one party raises and another waits on: playback loops look at it
between frames, and a wait on it ends early when it is raised. Copies of a signal share the one
flag, so raising a copy raises them all.

`StopSignal.wait` answers a timed wait during which a helper may raise the signal after a
delay: the wait ends raised when the signal was already raised or the helper raises it within
the time allowed, and once the helper has finished the signal is raised in any case.
-/

namespace OledPanel

structure StopSignal where
  raised : Bool := false
  deriving DecidableEq, Repr

namespace StopSignal

def raise (_ : StopSignal) : StopSignal := ⟨true⟩

def lower (_ : StopSignal) : StopSignal := ⟨false⟩

/-- The signal as its debugging text shows it. -/
def describe (s : StopSignal) : String :=
  "StopSignal \x7b set: " ++ (if s.raised then "true" else "false") ++ " \x7d"

/-- Wait for the signal for `timeout`, or without a limit when it is none, while a helper raises
it after `raiseAfter`, if there is one. Answer whether the wait ended with the signal raised,
and the signal once the helper is done. -/
def wait (s : StopSignal) (timeout : Option Duration) (raiseAfter : Option Duration) :
    Bool × StopSignal :=
  let raisedInTime := match raiseAfter, timeout with
    | some r, some t => decide (r.toNanos ≤ t.toNanos)
    | some _, none => true
    | none, _ => false
  (s.raised || raisedInTime, if raiseAfter.isSome then s.raise else s)

theorem wait_raised (t r : Option Duration) : ((StopSignal.mk true).wait t r).1 = true := by
  simp [wait]

end StopSignal

end OledPanel
