import OledPanel.Tool.Run

/-!
# The panel tool

The command-line entry point. It gathers the files a call may look at into a store, runs the
call on that store, writes back the file the call saved, prints what the call printed, and
exits with its code. A call that waits for a line on the input waits here for one.
-/

namespace OledPanel

namespace Main

/-- Add a path of the working directory to the store: a directory as a directory, and a file
with its contents, or empty when only what it is matters. -/
def gather (s : Store) (entry : String × Bool) : IO Store := do
  let (path, contents) := entry
  let onDisk := (← IO.currentDir) / path
  if ← onDisk.isDir then return s.mkdir path
  if !(← onDisk.pathExists) then return s
  if !contents then return s.put path ByteArray.empty
  try
    return s.put path (← IO.FS.readBinFile onDisk)
  catch _ =>
    return s

/-- Wait without end. -/
partial def idle : IO UInt32 := do
  IO.sleep 1000
  idle

def runTool (args : List String) : IO UInt32 := do
  let cwd := (← IO.currentDir).toString
  let files ← match Tool.Call.parse args with
    | .error _ => pure Store.empty
    | .ok call =>
      let configPath := Store.join cwd call.config
      let s ← gather Store.empty (configPath, true)
      let settings := (Settings.loadOrDefault s configPath).resolveIn cwd
      (call.reads settings cwd).foldlM gather s
  match Tool.run files cwd args with
  | .exited e after =>
    if let .ok call := Tool.Call.parse args then
      if let some dump := call.dump then
        let target := Store.join cwd dump
        if let .file bytes := after.lookup target then
          IO.FS.writeBinFile ((← IO.currentDir) / target) bytes
    IO.print e.stdout
    IO.eprint e.stderr
    return e.code.toUInt32
  | .waiting _ =>
    let line ← (← IO.getStdin).getLine
    if line.isEmpty then idle else return 0

end Main

end OledPanel

def main (args : List String) : IO UInt32 := OledPanel.Main.runTool args
