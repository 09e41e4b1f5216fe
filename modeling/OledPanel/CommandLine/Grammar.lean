/-!
# Command-line grammars

A program's command line is a top command with options, and a list of subcommands, each with
options and positional arguments; `help` is one more subcommand that shows the help of the
others. An option has a long name, perhaps a one-letter short name, and one of four actions:
it takes a value, it is a flag, or it shows the help or the version.

Values are read as they are given: each option that takes a value, and each positional
argument, has a reader that turns the text into a value or refuses it, with an explanation or
because it is empty. A path is never empty; any other text is.

How an argument is written in messages: an option as `--long <NAME>`, a flag as `--long`, a
positional argument as `<NAME>` when it is required and `[NAME]` when it is not, followed by
`...` when it takes every value left.
-/

namespace OledPanel

namespace CommandLine

/-- a value read from the command line -/
inductive Value where
  | text (s : String)
  | int (i : Int)
  | single (x : Float32)
  | flag

/-- why a value was refused -/
inductive Refusal where
  /-- the text is no value of the type, for this reason -/
  | invalid (reason : String)
  /-- the text is empty where the type wants one -/
  | empty

/-- what an option does when it is given -/
inductive Action where
  | set
  | flag
  | help
  | version
  deriving DecidableEq, Repr

structure Opt where
  id : String
  long : String
  short : Option Char := none
  action : Action := .set
  /-- the name of its value in messages -/
  valueName : String := ""
  help : String := ""
  /-- the text of its default value, shown in the help -/
  default : Option String := none
  /-- the options that must be given with it -/
  requires : List String := []
  read : String → Except Refusal Value := fun s => .ok (.text s)

structure Positional where
  id : String
  valueName : String
  help : String := ""
  required : Bool := true
  /-- whether it takes every value left -/
  many : Bool := false
  read : String → Except Refusal Value := fun s => .ok (.text s)

/-- a command: its name, what it is for, and its arguments in the order they are listed -/
structure Command where
  name : String
  about : String
  /-- a longer description for the long help -/
  longAbout : Option String := none
  options : List Opt
  positionals : List Positional := []

/-- a program: its name and version, its top command, and its subcommands -/
structure Program where
  bin : String
  version : String
  top : Command
  subcommands : List Command

def readPath (s : String) : Except Refusal Value :=
  if s.isEmpty then .error .empty else .ok (.text s)

/-- an argument of a command: an option or a positional one -/
inductive Arg where
  | opt (o : Opt)
  | pos (index : Nat) (p : Positional)

namespace Opt

def takesValue (o : Opt) : Bool := o.action = .set

/-- How the option is written in messages: `--long <NAME>` or `--long`. -/
def display (o : Opt) : String :=
  "--" ++ o.long ++ (if o.takesValue then " <" ++ o.valueName ++ ">" else "")

end Opt

namespace Positional

/-- How the argument is written: `<NAME>` or `[NAME]`, and `...` when it takes many values. -/
def display (p : Positional) (required : Bool) : String :=
  (if required then "<" ++ p.valueName ++ ">" else "[" ++ p.valueName ++ "]") ++
    (if p.many then "..." else "")

end Positional

namespace Command

def findLong (c : Command) (name : String) : Option Opt := c.options.find? (·.long = name)

def findShort (c : Command) (ch : Char) : Option Opt := c.options.find? (·.short = some ch)

def find (c : Command) (id : String) : Option Arg :=
  match c.options.find? (·.id = id) with
  | some o => some (.opt o)
  | none =>
    match (c.positionals.zipIdx.find? fun (p, _) => p.id = id) with
    | some (p, i) => some (.pos i p)
    | none => none

/-- the ids of the required positional arguments, in order -/
def requiredIds (c : Command) : List String :=
  (c.positionals.filter (·.required)).map (·.id)

def hasLongHelp (c : Command) : Bool := c.longAbout.isSome

end Command

/-- How an argument is written in messages, shown as required or not. -/
def Arg.display (required : Bool) : Arg → String
  | .opt o => o.display
  | .pos _ p => p.display required

namespace Program

def findSub (p : Program) (name : String) : Option Command :=
  p.subcommands.find? (·.name = name)

def subNames (p : Program) : List String := p.subcommands.map (·.name)

end Program

theorem display_flag (o : Opt) : ({ o with action := .flag } : Opt).display = "--" ++ o.long := by
  simp [Opt.display, Opt.takesValue]

end CommandLine

end OledPanel
