import OledPanel.CommandLine.Grammar

/-!
# Usage lines and help

A usage line names the command, then `[OPTIONS]` if it has options a user may give, then the
arguments it requires, then `<COMMAND>` where a subcommand is required. When some arguments
were already given, the line lists instead the required arguments together with those given,
options first in the order met and then positional arguments in their order, and drops
`[OPTIONS]`. An argument that requires others brings them along, ahead of it.

The help of a command is its description, its usage line, and then its subcommands, its
positional arguments and its options, each a section of aligned lines. In the long help, shown
for `--help` when the command has a longer description, the description is the long one and
every argument's explanation goes on its own line, indented, with a blank line between
arguments. Texts are never wrapped.
-/

namespace OledPanel

namespace CommandLine

/-- a command of a program, with what its usage needs to know -/
structure Scope where
  prog : Program
  cmd : Command
  /-- whether it is the top command, whose subcommand is required -/
  isTop : Bool

namespace Scope

def top (p : Program) : Scope := ⟨p, p.top, true⟩

def sub (p : Program) (c : Command) : Scope := ⟨p, c, false⟩

/-- the name the command is called by: the program's, then the subcommand's -/
def path (s : Scope) : String := if s.isTop then s.prog.bin else s.prog.bin ++ " " ++ s.cmd.name

def needsOptionsTag (s : Scope) : Bool :=
  s.cmd.options.any fun o => o.action = .set || o.action = .flag

def unroll (s : Scope) (id : String) : List String :=
  match s.cmd.find id with
  | some (.opt o) => o.requires ++ [id]
  | _ => [id]

/-- The arguments to list, written: options in the order met, each once, then positional
arguments by position. -/
def listed (s : Scope) (ids : List String) (required : Bool) : List String :=
  let opts := ids.foldl (fun acc id =>
    match s.cmd.find id with
    | some (.opt o) => if acc.contains o.display then acc else acc ++ [o.display]
    | _ => acc) []
  let poss := s.cmd.positionals.zipIdx.filterMap fun (p, _) =>
    if ids.contains p.id then some (p.display required) else none
  opts ++ poss

def usage (s : Scope) (required : List String) (used : List String) : String :=
  let reqs := required.flatMap s.unroll
  let words :=
    if used.isEmpty then
      (if s.needsOptionsTag then ["[OPTIONS]"] else []) ++ s.listed reqs true ++
        (s.cmd.positionals.filter fun p => !p.required).map (·.display false)
    else s.listed (reqs ++ used) true
  " ".intercalate (s.path :: words ++ (if s.isTop then ["<COMMAND>"] else []))

def plainUsage (s : Scope) : String := s.usage s.cmd.requiredIds []

end Scope

def spaces (n : Nat) : String := String.ofList (List.replicate n ' ')

def termWidth : Nat := 100

/-- One line of a section: the argument, then its explanation, aligned at `column`, or on the
next line, indented. -/
def helpLine (spec : String) (text : String) (column : Nat) (nextLine : Bool) : String :=
  if nextLine then
    spec ++ "\n" ++ spaces 10 ++ text.replace "\n" ("\n" ++ spaces 10)
  else spec ++ spaces (column - spec.length) ++ text

/-- An explanation followed by its default, `[default: X]`, apart by a space or, in the long
help, by a blank line. -/
def withDefault (text : String) (default : Option String) (long : Bool) : String :=
  match default with
  | none => text
  | some d =>
    let spec := "[default: " ++ d ++ "]"
    if text.isEmpty then spec else text ++ (if long then "\n\n" else " ") ++ spec

/-- Whether an explanation goes on its own line in the short help: only when the column leaves
too little room for it on a terminal of the usual width. -/
def crowded (longest : Nat) (text : String) : Bool :=
  let taken := longest + 12
  termWidth ≥ taken ∧ taken * 10 > termWidth * 4 ∧ text.length > termWidth - taken

namespace Scope

def optionText (s : Scope) (o : Opt) (long : Bool) : String :=
  match o.action with
  | .help =>
    if !s.cmd.hasLongHelp then "Print help"
    else if long then "Print help (see a summary with '-h')"
    else "Print help (see more with '--help')"
  | .version => "Print version"
  | _ => withDefault o.help (if o.takesValue then o.default else none) long

def commandLines (s : Scope) : List String :=
  let names := s.prog.subcommands.map (·.name)
  let longest := names.foldl (fun m n => max m n.length) 2
  s.prog.subcommands.map fun c => "  " ++ c.name ++ spaces (longest - c.name.length + 2) ++ c.about

def positionalLines (s : Scope) (long : Bool) : List String :=
  let specs := s.cmd.positionals.map fun p => (p.display p.required, p.help)
  let longest := specs.foldl (fun m q => max m q.1.length) 0
  let nextLine := long || specs.any fun q => crowded longest q.2
  specs.map fun (spec, text) => helpLine ("  " ++ spec) text (longest + 4) nextLine

def optionLines (s : Scope) (long : Bool) : List String :=
  let specs := s.cmd.options.map fun o =>
    ((match o.short with
      | some c => "-" ++ c.toString ++ ", "
      | none => "    ") ++ o.display, s.optionText o long)
  let longest := specs.foldl (fun m q => max m q.1.length) 0
  let nextLine := long || specs.any fun q => crowded longest q.2
  specs.map fun (spec, text) => helpLine ("  " ++ spec) text (longest + 4) nextLine

/-- The help of the command, short or long. -/
def help (s : Scope) (long : Bool) : String :=
  let long := long && s.cmd.hasLongHelp
  let about := if long then s.cmd.longAbout.getD s.cmd.about else s.cmd.about
  let joinLines (ls : List String) := (if long then "\n\n" else "\n").intercalate ls
  let sections :=
    (if s.isTop then [("Commands", "\n".intercalate s.commandLines)] else []) ++
    (if s.cmd.positionals.isEmpty then [] else [("Arguments", joinLines (s.positionalLines long))]) ++
    (if s.cmd.options.isEmpty then [] else [("Options", joinLines (s.optionLines long))])
  let body := "\n\n".intercalate (sections.map fun (h, t) => h ++ ":\n" ++ t)
  let text := (if about.isEmpty then "" else about ++ "\n") ++ "\nUsage: " ++ s.plainUsage ++
    "\n\n" ++ body
  (text.trimAsciiEnd.toString) ++ "\n"

end Scope

theorem length_spaces (n : Nat) : (spaces n).length = n := by
  simp [spaces]

end CommandLine

end OledPanel
