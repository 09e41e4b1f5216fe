import OledPanel.Tool.Grammar
import OledPanel.Service.Playback
import OledPanel.Image.Save
import OledPanel.Settings.Read

/-!
# Running the panel tool

A call of the tool reads its command line, then its settings file, falling back to the
appliance's settings when the file cannot be loaded. Paths are taken from the working
directory unless they are absolute; messages show them as they were given.

With `--headless` the tool draws on a 256 × 64 greyscale memory panel, runs the operation, and
then, if asked, writes the panel's last frame as a PNG file; when nothing was shown there is no
frame and nothing is written. Without it the tool opens the bus device, which only a bus
device allows: a plain file refuses the bus request, and a directory or a missing path cannot
be opened.

The ready animation loops until a line arrives on the tool's input, or for its `--seconds`.
Without `--seconds` it has no end of its own, and a call that gets no line never finishes.

The tool ends with code 0 and nothing printed when the operation succeeds; with the text asked
for on standard output and code 0 for help and the version; with the command-line fault on
standard error and code 2; and with `Error: ` and the failure, followed by the chain of its
causes, on standard error and code 1 when the operation fails.
-/

namespace OledPanel

/-- The settings with each path taken from `dir` unless it is absolute. -/
def Settings.resolveIn (c : Settings) (dir : String) : Settings :=
  { c with
    iconDir := Store.join dir c.iconDir
    logoPath := c.logoPath.map (Store.join dir)
    readyGifPath := c.readyGifPath.map (Store.join dir)
    fonts := c.fonts.map fun (k, f) => (k, { f with path := f.path.map (Store.join dir) }) }

namespace Tool

/-- a failure as the tool reports it: its message and the messages of its causes, outermost
first -/
structure Fault where
  message : String
  causes : List String := []

namespace Fault

def ofPanel (e : PanelError) : Fault := ⟨e.message, e.causes⟩

def indent (pad text : String) : String := text.replace "\n" ("\n" ++ pad)

/-- A cause's number, right-aligned in five columns. -/
def number (i : Nat) : String :=
  let s := toString i
  String.ofList (List.replicate (5 - s.length) ' ') ++ s

/-- The report of a failure: `Error: ` and the message, then the causes, numbered when there
are several, each line indented. -/
def render (f : Fault) : String :=
  let causes := match f.causes with
    | [] => ""
    | [c] => "\n\nCaused by:\n    " ++ indent "    " c
    | cs => "\n\nCaused by:" ++
        String.join (cs.zipIdx.map fun (c, i) => "\n" ++ number i ++ ": " ++ indent "       " c)
  "Error: " ++ f.message ++ causes ++ "\n"

end Fault

/-- Seconds as a duration, refused when negative, too large or not a number. -/
def seconds (x : Float32) : Except Fault Duration :=
  match Duration.ofSecs? x with
  | .ok d => .ok d
  | .error e => .error ⟨"invalid duration: " ++ Float32.text x, [e.message]⟩

/-- a computation of the tool on the screen -/
abbrev RunM := ExceptT Fault (StateM Screen)

def liftPanel {α : Type} (m : ScreenM α) : RunM α := ExceptT.adapt Fault.ofPanel m

def liftExcept {α : Type} : Except Fault α → RunM α
  | .ok a => pure a
  | .error f => throw f

/-- A `w × h` black raster with the named icon in the middle, rounded towards the top-left. -/
def iconScreen (sv : Service) (w h : Nat) (name : String) : Raster :=
  let icon := sv.icons.get name
  (Raster.blank w h).paste icon (((w : Int) - icon.width).tdiv 2) (((h : Int) - icon.height).tdiv 2)

/-- whether an operation came to its end, or waits for a line on the input -/
inductive Progress where
  | done
  | waiting
  deriving DecidableEq, Repr

/-- Run an operation on the service. -/
def perform (sv : Service) : Operation → RunM Progress
  | .logo secs => do
    let d ← match secs with
      | some s => liftExcept (seconds s)
      | none => pure sv.settings.logoDuration
    let p ← liftPanel (sv.showLogo d)
    if p.ending = .skipped then throw (Fault.ofPanel (.missingAsset "logo_path"))
    pure .done
  | .ready secs =>
    match secs with
    | some s => do
      let d ← liftExcept (seconds s)
      let p ← liftPanel (sv.showReady (.afterTime d))
      if p.ending = .skipped then throw (Fault.ofPanel (.missingAsset "ready_gif_path"))
      pure .done
    | none =>
      match sv.settings.readyGifPath with
      | none => throw (Fault.ofPanel (.missingAsset "ready_gif_path"))
      | some path => do
        let _ ← liftPanel (sv.openForScreen path)
        pure .waiting
  | .intro path => do
    let _ ← liftPanel (sv.playOnce path)
    pure .done
  | .text t x y font => do
    liftPanel (sv.showText t x y font Rgb.white)
    pure .done
  | .image path scale timeout => do
    let after ← match timeout with
      | some s => some <$> liftExcept (seconds s)
      | none => pure none
    if let some timer ← liftPanel (sv.showImage path scale after) then
      let _ ← liftPanel timer.fire
    pure .done
  | .icon name => do
    let s ← get
    liftPanel (Service.showRaster (iconScreen sv s.width s.height name))
    pure .done
  | .slide a b secs fps => do
    let s ← get
    let ra := iconScreen sv s.width s.height a
    let rb := iconScreen sv s.width s.height b
    let d ← liftExcept (seconds secs)
    let _ ← liftPanel (Service.slide ra rb d fps)
    pure .done
  | .clear => do
    let _ ← liftPanel Screen.clear
    pure .done

/-- how a call of the tool ends: its exit code and what it printed -/
structure Exit where
  code : Nat
  stdout : String := ""
  stderr : String := ""
  deriving DecidableEq, Repr

/-- The end of a call that failed. -/
def Exit.failed (f : Fault) : Exit := { code := 1, stderr := f.render }

def Exit.success : Exit := { code := 0 }

/-- what a call of the tool comes to, with the files afterwards -/
inductive Outcome where
  | exited (e : Exit) (files : Store)
  /-- the call waits for a line on its input -/
  | waiting (files : Store)

def memoryWidth : Nat := 256

def memoryHeight : Nat := 64

def busFault (files : Store) (path target : String) : Fault :=
  let cause := match files.lookup target with
    | .file _ => "ENOTTY: Not a typewriter"
    | .directory => IoError.isDirectory.message
    | .missing => IoError.notFound.message
    | .throughFile => IoError.notDirectory.message
  ⟨"failed to open I2C bus " ++ path, [cause]⟩

def Exit.ofFailure (f : CommandLine.Failure) : Exit :=
  if f.isRequested then { code := 0, stdout := f.message } else { code := 2, stderr := f.message }

/-- Run a call of the tool with these arguments in the working directory `cwd`. -/
def run (files : Store) (cwd : String) (args : List String) : Outcome :=
  match Call.parse args with
  | .error f => .exited (Exit.ofFailure f) files
  | .ok call =>
    let resolve := Store.join cwd
    let settings := (Settings.loadOrDefault files (resolve call.config)).resolveIn cwd
    if !call.headless then .exited (.failed (busFault files call.bus (resolve call.bus))) files
    else
      let sv := Service.new files settings
      let screen : Screen := ⟨MemoryDisplay.new memoryWidth memoryHeight .luma, 0⟩
      match (perform sv call.operation).run.run screen with
      | (.error f, _) => .exited (.failed f) files
      | (.ok .waiting, _) => .waiting files
      | (.ok .done, screen) =>
        match call.dump, screen.display.last? with
        | some path, some frame =>
          match Picture.save files path (resolve path) frame.toPicture with
          | (files, none) => .exited .success files
          | (files, some e) => .exited (.failed ⟨"failed to write " ++ path, [e.message]⟩) files
        | _, _ => .exited .success files

def parentOf (path : String) : String := "/" ++ "/".intercalate (Store.split path).dropLast

/-- The paths a call may look at, taken from the working directory, each with whether its
contents are read or only what it is: the assets its settings name, the file it shows, the bus
device, and the directory the last frame goes to. The settings are those of the call, their
paths already taken from the working directory. -/
def Call.reads (call : Call) (settings : Settings) (cwd : String) : List (String × Bool) :=
  let resolve := Store.join cwd
  let assets := settings.logoPath.toList ++ settings.readyGifPath.toList ++
    settings.fonts.filterMap (·.2.path) ++
    (IconSet.defaultName :: settings.services).map (IconSet.iconPath settings.iconDir)
  let shown := match call.operation with
    | .intro p | .image p _ _ => [resolve p]
    | _ => []
  let dumpDir := match call.dump with
    | some p => [parentOf (resolve p)]
    | none => []
  (assets ++ shown).map ((·, true)) ++ (resolve call.bus :: dumpDir).map ((·, false))

theorem length_number (i : Nat) : (Fault.number i).length = max 5 (toString i).length := by
  simp only [Fault.number, String.length_append, String.length_ofList, List.length_replicate]
  omega

end Tool

end OledPanel
