/-!
# Mode observers

Parts of the appliance ask to hear when the display changes mode: each registers a callback,
and a notification calls every callback in the order they were registered, with the name of the
new mode. A callback may complete, report an error or crash; neither of the last two stops the
others from being called, and the notification answers how many failed.

A callback is code of any kind: while it runs it may register further callbacks and act on the
rest of the world, and how it reacts may depend on both. `notifyWith` notifies callbacks of any
kind, given what each does when it is called (a `Response`). The registry is read once, before the
first call, so a callback registered during a notification is kept but first called by the next.

The registry the service keeps, `Observers`, holds callbacks known by how they react, which
register nothing. Its notification answers the calls made, as pairs of the callback's index and
the mode, with the number of failures.
-/

namespace OledPanel

/-- how a callback reacts to a notification -/
inductive Reaction where
  | accept
  | refuse (message : String)
  | crash (message : String)
  deriving DecidableEq, Repr

namespace Reaction

/-- whether the reaction counts as a failure -/
def fails : Reaction → Bool
  | accept => false
  | refuse _ | crash _ => true

end Reaction

/-- What a callback does when it is called: how it reacts, the callbacks it registers while it
runs, in order, and the world it leaves. -/
structure Response (α σ : Type) where
  reaction : Reaction
  registers : List α
  world : σ

/-- A notification under way: the registry and the world as they stand, the calls made so far as
pairs of the callback's index and the mode, and the failures counted. -/
structure Notifying (α σ : Type) where
  registry : Array α
  world : σ
  calls : List (Nat × String)
  failures : Nat

namespace Notifying

variable {α σ : Type}

/-- Call `c`, callback `i` of the registry as the notification found it, with `mode`; in registry
`reg` and world `w` it does `run c mode reg w`. What it registers joins the registry at once, and
an error or a crash is counted without stopping the notification. -/
def call (run : α → String → Array α → σ → Response α σ) (mode : String) (st : Notifying α σ)
    (c : α) (i : Nat) : Notifying α σ :=
  let r := run c mode st.registry st.world
  { registry := st.registry ++ r.registers.toArray
    world := r.world
    calls := st.calls ++ [(i, mode)]
    failures := if r.reaction.fails then st.failures + 1 else st.failures }

@[simp] theorem registry_call (run : α → String → Array α → σ → Response α σ) (mode : String)
    (st : Notifying α σ) (c : α) (i : Nat) :
    (st.call run mode c i).registry = st.registry ++ (run c mode st.registry st.world).registers.toArray :=
  rfl

@[simp] theorem world_call (run : α → String → Array α → σ → Response α σ) (mode : String)
    (st : Notifying α σ) (c : α) (i : Nat) :
    (st.call run mode c i).world = (run c mode st.registry st.world).world :=
  rfl

@[simp] theorem calls_call (run : α → String → Array α → σ → Response α σ) (mode : String)
    (st : Notifying α σ) (c : α) (i : Nat) :
    (st.call run mode c i).calls = st.calls ++ [(i, mode)] :=
  rfl

@[simp] theorem failures_call (run : α → String → Array α → σ → Response α σ) (mode : String)
    (st : Notifying α σ) (c : α) (i : Nat) :
    (st.call run mode c i).failures =
      st.failures + if (run c mode st.registry st.world).reaction.fails then 1 else 0 := by
  simp only [call]
  split <;> simp_all

end Notifying

/-- Notify the callbacks of registry `reg`, in world `w`, of `mode`: each callback of the registry
as it stands is called once, in order, however the earlier ones reacted. -/
def notifyWith {α σ : Type} (run : α → String → Array α → σ → Response α σ) (reg : Array α) (w : σ)
    (mode : String) : Notifying α σ :=
  reg.toList.zipIdx.foldl (fun st p => st.call run mode p.1 p.2) ⟨reg, w, [], 0⟩

/-- the callbacks registered for mode changes, in order -/
structure Observers where
  reactions : Array Reaction := #[]

namespace Observers

def register (o : Observers) (r : Reaction) : Observers := ⟨o.reactions.push r⟩

def length (o : Observers) : Nat := o.reactions.size

def isEmpty (o : Observers) : Bool := o.reactions.isEmpty

/-- The observers as their debugging text shows them. -/
def describe (o : Observers) : String :=
  "ModeObservers \x7b callbacks: " ++ toString o.length ++ " \x7d"

/-- A callback of the registry reacts as it is known to, and registers nothing. -/
def respond (r : Reaction) (_ : String) (_ : Array Reaction) (_ : Unit) : Response Reaction Unit :=
  ⟨r, [], ()⟩

/-- Notify every callback of a mode: the calls made, in order, and how many failed. -/
def notify (o : Observers) (mode : String) : List (Nat × String) × Nat :=
  let n := notifyWith respond o.reactions () mode
  (n.calls, n.failures)

end Observers

end OledPanel
