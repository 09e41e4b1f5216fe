import OledPanel.CommandLine.Parse
import OledPanel.CommandLine.Number

/-!
# The panel tool's command line

The tool runs one display operation per call. Its top command chooses the settings file, the
bus and address of the panel, or the memory panel with `--headless`, and where to write the
last frame; a subcommand names the operation.

Values are read as the tool's types read them. Paths may not be empty. Integer options are read at 64 bits and then
held to the range of their type, so a value outside the range names the value it read. Seconds
are single-precision numbers. The panel address is hexadecimal after `0x` or `0X` and decimal
otherwise, a byte, and must fit in seven bits.
-/

namespace OledPanel

namespace Tool

open CommandLine

/-- what one call of the tool does -/
inductive Operation where
  | logo (seconds : Option Float32)
  | ready (seconds : Option Float32)
  | intro (path : String)
  | text (text : String) (x y : Int) (font : String)
  | image (path : String) (scale : Bool) (timeout : Option Float32)
  | icon (name : String)
  | slide (source target : String) (seconds : Float32) (fps : Nat)
  | clear

/-- everything a call of the tool asks for -/
structure Call where
  config : String
  bus : String
  address : Nat
  headless : Bool
  dump : Option String
  operation : Operation

def intRefusal (e : IntError) : Refusal := .invalid e.message

/-- Read an integer as a signed 64-bit one, then hold it to `[lo, hi]`: a text past 64 bits
is too large or too small, and one within them but outside the bounds is out of range. -/
def readRanged (lo hi : Int) (text : String) : Except Refusal Value :=
  match readInt text 10 (-(Int.pow 2 63)) (Int.pow 2 63 - 1) with
  | .error e => .error (intRefusal e)
  | .ok v =>
    if lo ≤ v ∧ v ≤ hi then .ok (.int v)
    else .error (.invalid (toString v ++ " is not in " ++ toString lo ++ "..=" ++ toString hi))

def readI32 : String → Except Refusal Value := readRanged (-(Int.pow 2 31)) (Int.pow 2 31 - 1)

def readU32 : String → Except Refusal Value := readRanged 0 (Int.pow 2 32 - 1)

def readF32 (text : String) : Except Refusal Value :=
  match readSingle text with
  | .ok x => .ok (.single x)
  | .error e => .error (.invalid e.message)

def hexByte (n : Nat) : String :=
  let d := Nat.toDigits 16 n
  String.ofList (List.replicate (2 - d.length) '0' ++ d)

/-- Hold a byte that was read to seven bits. -/
def sevenBits : Except IntError Int → Except Refusal Value
  | .error e => .error (intRefusal e)
  | .ok v =>
    if v ≤ 0x7F then .ok (.int v)
    else .error (.invalid ("0x" ++ hexByte v.toNat ++ " is not a 7-bit address"))

/-- Read a panel address: a byte, in hexadecimal after `0x` or `0X`, that fits in seven
bits. -/
def readAddress (text : String) : Except Refusal Value :=
  sevenBits (if text.startsWith "0x" || text.startsWith "0X" then readInt (text.drop 2).toString 16 0 255
    else readInt text 10 0 255)

def helpOption : Opt := { id := "help", long := "help", short := some 'h', action := .help }

def versionOption : Opt := { id := "version", long := "version", short := some 'V', action := .version }

def secondsOption (help : String) : Opt :=
  { id := "seconds", long := "seconds", valueName := "SECONDS", help, read := readF32 }

def topCommand : Command where
  name := "quadify-oled"
  about := "Drive the Quadify OLED panel"
  options := [
    { id := "config", long := "config", valueName := "CONFIG", help := "TOML configuration file",
      default := some "/etc/quadify/display.toml", read := readPath },
    { id := "i2c_bus", long := "i2c-bus", valueName := "I2C_BUS",
      help := "I2C bus device the panel is attached to", default := some "/dev/i2c-1",
      read := readPath },
    { id := "address", long := "address", valueName := "ADDRESS",
      help := "7-bit I2C address of the panel (hex with \x600x\x60 prefix, or decimal)",
      default := some "0x3C", read := readAddress },
    { id := "headless", long := "headless", action := .flag,
      help := "Render into memory instead of driving hardware" },
    { id := "dump", long := "dump", valueName := "PNG",
      help := "Write the last frame to this PNG file (headless only)", requires := ["headless"],
      read := readPath },
    helpOption, versionOption]

/-- the subcommands, in the order they are listed -/
def subcommands : List Command := [
  { name := "logo", about := "Play the boot logo",
    options := [secondsOption "Override the configured logo duration", helpOption] },
  { name := "ready", about := "Loop the ready animation until a line arrives on stdin",
    longAbout := some ("Loop the ready animation until a line arrives on stdin.\n\n" ++
      "Closing stdin without a line does not count as ready."),
    options := [secondsOption "Also stop after this many seconds", helpOption] },
  { name := "intro", about := "Play an animation once", options := [helpOption],
    positionals := [{ id := "path", valueName := "PATH", read := readPath }] },
  { name := "text", about := "Show a line of text",
    options := [
      { id := "x", long := "x", valueName := "X", default := some "0", read := readI32 },
      { id := "y", long := "y", valueName := "Y", default := some "0", read := readI32 },
      { id := "font", long := "font", valueName := "FONT", default := some "menu_font" },
      helpOption],
    positionals := [{ id := "text", valueName := "TEXT" }] },
  { name := "image", about := "Show an image full screen",
    options := [
      { id := "no_resize", long := "no-resize", action := .flag,
        help := "Place the image at the top-left corner instead of scaling it" },
      { id := "timeout", long := "timeout", valueName := "TIMEOUT",
        help := "Clear the screen after this many seconds", read := readF32 },
      helpOption],
    positionals := [{ id := "path", valueName := "PATH", read := readPath }] },
  { name := "icon", about := "Show a service icon centred on screen", options := [helpOption],
    positionals := [{ id := "name", valueName := "NAME" }] },
  { name := "slide", about := "Slide from one service icon to another",
    options := [
      { id := "seconds", long := "seconds", valueName := "SECONDS", default := some "0.4",
        read := readF32 },
      { id := "fps", long := "fps", valueName := "FPS", default := some "30", read := readU32 },
      helpOption],
    positionals := [{ id := "from", valueName := "FROM" }, { id := "to", valueName := "TO" }] },
  { name := "clear", about := "Blank the screen", options := [helpOption] },
  { name := "help", about := "Print this message or the help of the given subcommand(s)",
    options := [],
    positionals := [{
      id := "command"
      valueName := "COMMAND"
      required := false
      many := true
      help := "Print help for the subcommand(s)" }] }]

/-- the tool's command line -/
def program : Program where
  bin := "quadify-oled"
  version := "0.1.0"
  top := topCommand
  subcommands := subcommands

/-- The value given for an option, or else its default read as if given. -/
def valueOf (c : Command) (values : List (String × Value)) (id : String) : Option Value :=
  match values.lookup id with
  | some v => some v
  | none =>
    match c.options.find? (·.id = id) with
    | some o => o.default.bind fun d => (o.read d).toOption
    | none => none

def Value.textOr : Option Value → String
  | some (.text s) => s
  | _ => ""

def Value.intOr : Option Value → Int
  | some (.int i) => i
  | _ => 0

def Value.single? : Option Value → Option Float32
  | some (.single x) => some x
  | _ => none

def operationOf (name : String) (values : List (String × Value)) : Operation :=
  let c := (program.findSub name).getD topCommand
  let get := valueOf c values
  match name with
  | "logo" => .logo (Value.single? (get "seconds"))
  | "ready" => .ready (Value.single? (get "seconds"))
  | "intro" => .intro (Value.textOr (get "path"))
  | "text" => .text (Value.textOr (get "text")) (Value.intOr (get "x")) (Value.intOr (get "y"))
      (Value.textOr (get "font"))
  | "image" => .image (Value.textOr (get "path")) (get "no_resize").isNone
      (Value.single? (get "timeout"))
  | "icon" => .icon (Value.textOr (get "name"))
  | "slide" => .slide (Value.textOr (get "from")) (Value.textOr (get "to"))
      ((Value.single? (get "seconds")).getD 0) (Value.intOr (get "fps")).toNat
  | _ => .clear

/-- The call a command line asks for, or the failure that ends it. -/
def Call.parse (args : List String) : Except Failure Call := do
  let inv ← program.parse args
  let get := valueOf topCommand inv.top
  pure {
    config := Value.textOr (get "config"),
    bus := Value.textOr (get "i2c_bus"),
    address := (Value.intOr (get "address")).toNat,
    headless := (get "headless").isSome,
    dump := match get "dump" with
      | some (.text p) => some p
      | _ => none,
    operation := operationOf inv.command inv.args }

end Tool

end OledPanel
