import OledPanel.CommandLine.Help
import OledPanel.CommandLine.Similarity

/-!
# Reading a command line

The arguments are read from the left, one command at a time.

* `--` ends the options: every later argument is positional.
* `--name` and `--name=value` are long options; `-abc` is a run of short flags, read letter by
  letter. An option that takes a value and has none attached takes the next argument, unless
  that argument is itself an option or `--`.
* On the top command the first other argument names the subcommand, and the rest of the line
  belongs to it; in a subcommand the others fill its positional arguments in order.
* `help` shows the help of the subcommand named after it, or of the program.

A value is read, and an option counted, only when the option is complete: when the next
option or positional argument arrives, or the line ends. So a bad value is reported then, and
a value missing at the end of the line is reported at the end. An option given twice is
refused. After a subcommand has been read, the top command's own last option is completed and
the top command checked: an option may require another.

The first fault ends the reading, and its message names the argument, suggests what was
perhaps meant, and shows a usage line. Asking for help or the version also ends it, with the
text to print.
-/

namespace OledPanel

namespace CommandLine

/-- how reading a command line ended, other than with a run -/
inductive Failure where
  | showHelp (text : String)
  | showVersion (text : String)
  /-- an argument that is not one: hints, a similar option, and the usage line -/
  | unknownArgument (arg : String) (similarArg : Option String) (tips : List String)
      (usage : String)
  /-- a subcommand that does not exist, the similar ones that do, and the program's name -/
  | unknownSubcommand (name : String) (similar : List String) (bin usage : String)
  | invalidValue (value arg reason : String)
  | missingValue (arg : String)
  | missingArguments (missing : List String) (usage : String)
  | missingSubcommand (bin : String) (names : List String) (usage : String)
  | repeated (arg usage : String)
  | extraValue (value arg usage : String)

namespace Failure

def tryHelp : String := "\n\nFor more information, try '--help'.\n"

def hints (similarArg : Option String) (tips : List String) : String :=
  let similarText := match similarArg with
    | some s => "\n\n  tip: a similar argument exists: '" ++ s ++ "'"
    | none => ""
  let tipText := if tips.isEmpty then "" else
    (if similarArg.isSome then "" else "\n") ++ String.join (tips.map ("\n  tip: " ++ ·))
  similarText ++ tipText

/-- The names of similar subcommands as a hint, and how to pass the name as a value instead. -/
def similarSubcommands (name bin : String) (names : List String) : String :=
  let quotedNames := ", ".intercalate (names.map fun n => "'" ++ n ++ "'")
  let asValue := "\n  tip: to pass '" ++ name ++ "' as a value, use '" ++ bin ++ " -- " ++ name ++ "'"
  match names with
  | [] => ""
  | [_] => "\n\n  tip: a similar subcommand exists: " ++ quotedNames ++ asValue
  | _ => "\n\n  tip: some similar subcommands exist: " ++ quotedNames ++ asValue

def message : Failure → String
  | showHelp t | showVersion t => t
  | unknownArgument a s tips u =>
    "error: unexpected argument '" ++ a ++ "' found" ++ hints s tips ++ "\n\nUsage: " ++ u ++ tryHelp
  | unknownSubcommand n sim b u =>
    "error: unrecognized subcommand '" ++ n ++ "'" ++ similarSubcommands n b sim ++ "\n\nUsage: " ++ u ++
      tryHelp
  | invalidValue v a r => "error: invalid value '" ++ v ++ "' for '" ++ a ++ "': " ++ r ++ tryHelp
  | missingValue a => "error: a value is required for '" ++ a ++ "' but none was supplied" ++ tryHelp
  | missingArguments ms u =>
    "error: the following required arguments were not provided:" ++
      String.join (ms.map ("\n  " ++ ·)) ++ "\n\nUsage: " ++ u ++ tryHelp
  | missingSubcommand b ns u =>
    "error: '" ++ b ++ "' requires a subcommand but one was not provided\n  [subcommands: " ++
      ", ".intercalate ns ++ "]" ++ "\n\nUsage: " ++ u ++ tryHelp
  | repeated a u => "error: the argument '" ++ a ++ "' cannot be used multiple times" ++
      "\n\nUsage: " ++ u ++ tryHelp
  | extraValue v a u =>
    "error: unexpected value '" ++ v ++ "' for '" ++ a ++ "' found; no more were expected" ++
      "\n\nUsage: " ++ u ++ tryHelp

/-- Whether the failure is an answer asked for, printed as output rather than as an error. -/
def isRequested : Failure → Bool
  | showHelp _ | showVersion _ => true
  | _ => false

end Failure

/-- an argument waiting to be completed: an option, with its value if it has come, or a
positional argument with its value -/
structure Pending where
  id : String
  /-- how the argument is written in messages -/
  display : String
  read : String → Except Refusal Value
  /-- whether it may take values more than once -/
  many : Bool := false
  value : Option String

def Opt.pending (o : Opt) (value : Option String) : Pending := ⟨o.id, o.display, o.read, false, value⟩

def Positional.pending (p : Positional) (value : String) : Pending :=
  ⟨p.id, p.display p.required, p.read, p.many, some value⟩

/-- what has been read of a command so far -/
structure Pass where
  /-- the values read, by id, in the order they were completed -/
  values : List (String × Value) := []
  /-- the ids of the arguments given, in the order they were met -/
  present : List String := []
  pending : Option Pending := none
  /-- how many positional arguments are filled -/
  position : Nat := 0
  /-- whether `--` has been read -/
  trailing : Bool := false

namespace Pass

def mark (p : Pass) (id : String) : Pass :=
  if p.present.contains id then p else { p with present := p.present ++ [id] }

end Pass

def isLong (a : String) : Bool := a.startsWith "--" && a.length > 2

def isShort (a : String) : Bool := a.startsWith "-" && !a.startsWith "--" && a.length > 1

def splitLong (a : String) : String × Option String :=
  let body := (a.drop 2).toString
  match body.splitOn "=" with
  | [name] => (name, none)
  | name :: rest => (name, some ("=".intercalate rest))
  | [] => (body, none)

namespace Scope

/-- Complete an argument with its value, or a flag without one: it may not be given twice, and
its value must read. -/
def store (s : Scope) (p : Pass) (x : Pending) : Except Failure Pass :=
  if !x.many && p.values.any (·.1 = x.id) then .error (.repeated x.display s.plainUsage)
  else
    let p := p.mark x.id
    match x.value with
    | none => .ok { p with values := p.values ++ [(x.id, .flag)] }
    | some v =>
      match x.read v with
      | .ok val => .ok { p with values := p.values ++ [(x.id, val)] }
      | .error .empty => .error (.missingValue x.display)
      | .error (.invalid r) => .error (.invalidValue v x.display r)

def resolve (s : Scope) (p : Pass) : Except Failure Pass :=
  match p.pending with
  | none => .ok p
  | some x =>
    match x.value with
    | none => .error (.missingValue x.display)
    | some _ => s.store { p with pending := none } x

def settle (s : Scope) (p : Pass) : Pass :=
  match p.pending with
  | some x =>
    match x.value with
    | some _ =>
      match s.store { p with pending := none } x with
      | .ok q => q
      | .error _ => ({ p with pending := none } : Pass).mark x.id
    | none => { p with pending := none }
  | none => p

def act (s : Scope) (p : Pass) (o : Opt) (long : Bool) : Except Failure Pass := do
  let p ← s.resolve p
  match o.action with
  | .help => throw (.showHelp (s.help long))
  | .version => throw (.showVersion (s.prog.bin ++ " " ++ s.prog.version ++ "\n"))
  | _ => s.store p (o.pending none)

def shorts (s : Scope) (p : Pass) : List Char → Except Failure Pass
  | [] => .ok p
  | c :: cs =>
    match s.cmd.findShort c with
    | some o => do
      let p ← s.act p o false
      s.shorts p cs
    | none =>
      let p := s.settle p
      let tip := if !p.trailing && !s.cmd.positionals.isEmpty then
          ["to pass '-" ++ c.toString ++ "' as a value, use '-- -" ++ c.toString ++ "'"]
        else []
      .error (.unknownArgument ("-" ++ c.toString) none tip s.plainUsage)

def best (name : String) (names : List String) : Option String := (similar name names).getLast?

def unknownLong (s : Scope) (p : Pass) (name : String) (rest : List String) : Failure :=
  let p := s.settle p
  let own := best name (s.cmd.options.map (·.long))
  let elsewhere : Option (String × String) :=
    if own.isSome || !s.isTop then none
    else
      let found := s.prog.subcommands.filterMap fun c =>
        match best name (c.options.map (·.long)), rest.idxOf? c.name with
        | some l, some i => some (i, c.name, l)
        | _, _ => none
      match found.foldl (fun (acc : Option (Nat × String × String)) x =>
          match acc with
          | some a => if x.1 < a.1 then some x else acc
          | none => some x) none with
      | some (_, c, l) => some (c, l)
      | none => none
  let used := match own.bind s.cmd.findLong with
    | some o => (p.mark o.id).present
    | none => p.present
  let trailingTip := if own.isNone && elsewhere.isNone && !p.trailing && !s.cmd.positionals.isEmpty
    then ["to pass '--" ++ name ++ "' as a value, use '-- --" ++ name ++ "'"] else []
  let subTip := match elsewhere with
    | some (c, l) => ["'" ++ c ++ " --" ++ l ++ "' exists"]
    | none => []
  .unknownArgument ("--" ++ name) (own.map ("--" ++ ·)) (trailingTip ++ subTip)
    (s.usage s.cmd.requiredIds used)

def misplaced (s : Scope) (p : Pass) (a : String) : Failure :=
  if p.trailing && s.isTop && (s.prog.findSub a).isSome then
    .unknownArgument a none ["subcommand '" ++ a ++ "' exists; to use it, remove the '--' before it"]
      s.plainUsage
  else if s.isTop then .unknownSubcommand a (similar a s.prog.subNames) s.prog.bin s.plainUsage
  else .unknownArgument a none [] s.plainUsage

end Scope

/-- where reading a command stopped -/
inductive Walk where
  /-- at the end of the line -/
  | finished (p : Pass)
  /-- at a subcommand, with the arguments after it -/
  | entered (name : String) (rest : List String) (p : Pass)

namespace Scope

/-- Fill the next positional argument with `a`, or report that there is none left. -/
def fill (s : Scope) (a : String) (p : Pass) : Except Failure Pass :=
  match s.cmd.positionals[p.position]? with
  | some pos => do
    let p ← s.resolve p
    let position := if pos.many then p.position else p.position + 1
    pure { p with pending := some (pos.pending a), position }
  | none => .error (s.misplaced (s.settle p) a)

/-- Read the arguments of one command. -/
def walk (s : Scope) : List String → Pass → Except Failure Walk
  | [], p => .ok (.finished p)
  | a :: rest, p =>
    if p.trailing then do
      let p ← s.fill a p
      s.walk rest p
    else if a = "--" then s.walk rest { p with trailing := true }
    else if isLong a then
      let (name, attached) := splitLong a
      match s.cmd.findLong name with
      | none => .error (s.unknownLong p name rest)
      | some o =>
        if o.takesValue then
          match attached with
          | some v => do
            let p ← s.resolve p
            let p ← s.store p (o.pending (some v))
            s.walk rest p
          | none => do
            let p ← s.resolve p
            s.walk rest { p with pending := some (o.pending none) }
        else
          match attached with
          | some v =>
            let used := (p.present.filter fun id => !s.cmd.requiredIds.contains id) ++ [o.id]
            .error (.extraValue v o.display (s.usage s.cmd.requiredIds used))
          | none => do
            let p ← s.act p o true
            s.walk rest p
    else if isShort a then do
      let p ← s.shorts p (a.drop 1).toString.toList
      s.walk rest p
    else
      match p.pending with
      | some { value := none, .. } => s.walk rest { p with pending := p.pending.map ({ · with value := some a }) }
      | _ =>
        if s.isTop && (s.prog.findSub a).isSome then .ok (.entered a rest p)
        else do
          let p ← s.fill a p
          s.walk rest p

/-- Check a command read to its end: its last option completed, its required arguments and
those its options require all given. -/
def finish (s : Scope) (p : Pass) : Except Failure Pass := do
  let p ← s.resolve p
  let required := s.cmd.requiredIds ++ p.present.flatMap fun id =>
    match s.cmd.find id with
    | some (.opt o) => o.requires
    | _ => []
  let missing := required.filter fun id => !p.present.contains id
  if missing.isEmpty then pure p
  else
    let listedIds := (required.flatMap s.unroll ++ missing).filter fun id => !p.present.contains id
    throw (.missingArguments (s.listed listedIds true) (s.usage required (p.present ++ missing)))

end Scope

/-- what a command line asks for: the top command's values, the subcommand, and its values -/
structure Invocation where
  top : List (String × Value)
  command : String
  args : List (String × Value)

namespace Program

def helpFor (prog : Program) : Scope → List String → Failure
  | s, [] => .showHelp (s.help true)
  | s, n :: ns =>
    match (if s.isTop then prog.findSub n else none) with
    | some c => prog.helpFor (Scope.sub prog c) ns
    | none => .unknownSubcommand n [] s.prog.bin s.plainUsage
termination_by _ ns => ns.length

/-- Read a command line, the program's name left out. -/
def parse (prog : Program) (args : List String) : Except Failure Invocation := do
  let top := Scope.top prog
  match ← top.walk args {} with
  | .finished p =>
    let _ ← top.resolve p
    throw (.missingSubcommand prog.bin prog.subNames top.plainUsage)
  | .entered name rest p =>
    if name = "help" then throw (prog.helpFor top rest)
    match prog.findSub name with
    | none => throw (top.misplaced p name)
    | some c =>
      let sub := Scope.sub prog c
      let q ← match ← sub.walk rest {} with
        | .finished q => sub.finish q
        | .entered _ _ q => sub.finish q
      let p ← top.finish p
      pure ⟨p.values, name, q.values⟩

end Program

theorem parse_nil (prog : Program) :
    prog.parse [] = .error (.missingSubcommand prog.bin prog.subNames (Scope.top prog).plainUsage) := by
  rfl

end CommandLine

end OledPanel
