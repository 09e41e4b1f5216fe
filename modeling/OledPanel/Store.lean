/-!
# The file store

The library reads fonts, images and settings from files and writes rendered frames back, so
files are a value here: a store maps paths to file contents, and every directory is named by a
path that some file lies under or that was created empty.

Paths are split at `/`; empty and `.` components are dropped, so `a//b/./c` names `a/b/c`.
A lookup reports a file, a directory, a missing entry, or a path that runs through a file.
Errors carry the operating system's wording, which callers show to users.
-/

namespace OledPanel

/-- why a file operation failed -/
inductive IoError where
  | notFound
  | isDirectory
  | notDirectory
  /-- the file is not UTF-8 text where text was wanted -/
  | invalidUtf8
  deriving DecidableEq, Repr

namespace IoError

def message : IoError → String
  | notFound => "No such file or directory (os error 2)"
  | isDirectory => "Is a directory (os error 21)"
  | notDirectory => "Not a directory (os error 20)"
  | invalidUtf8 => "stream did not contain valid UTF-8"

end IoError

/-- what a path names -/
inductive Entry where
  | file (bytes : ByteArray)
  | directory
  | missing
  /-- a leading part of the path is a file -/
  | throughFile

/-- files by path, and the directories created with nothing in them -/
structure Store where
  files : List (List String × ByteArray) := []
  directories : List (List String) := []

namespace Store

/-- the components of a path -/
def split (path : String) : List String :=
  ((path.splitOn "/").filter fun c => c ≠ "" ∧ c ≠ ".")

/-- Join a name onto a directory path; an absolute name stands alone. -/
def join (dir name : String) : String :=
  if name.startsWith "/" then name
  else if dir.endsWith "/" then dir ++ name
  else dir ++ "/" ++ name

def empty : Store := {}

def fileAt? (s : Store) (cs : List String) : Option ByteArray :=
  (s.files.find? (·.1 = cs)).map (·.2)

def isDirAt (s : Store) (cs : List String) : Bool :=
  cs = [] ∨ s.directories.any (fun d => cs <+: d) ∨
    s.files.any (fun f => cs <+: f.1 ∧ cs ≠ f.1)

/-- What a path names. -/
def lookup (s : Store) (path : String) : Entry :=
  let cs := split path
  if ((List.range cs.length).map cs.take).any (fun p => (s.fileAt? p).isSome) then .throughFile
  else match s.fileAt? cs with
    | some b => .file b
    | none => if s.isDirAt cs then .directory else .missing

def read (s : Store) (path : String) : Except IoError ByteArray :=
  match s.lookup path with
  | .file b => .ok b
  | .directory => .error .isDirectory
  | .missing => .error .notFound
  | .throughFile => .error .notDirectory

/-- whether a path names a file -/
def isFile (s : Store) (path : String) : Bool :=
  match s.lookup path with
  | .file _ => true
  | _ => false

/-- Create or replace a file; its directory must exist. -/
def write (s : Store) (path : String) (bytes : ByteArray) : Except IoError Store :=
  let cs := split path
  match s.lookup path with
  | .directory => .error .isDirectory
  | .throughFile => .error .notDirectory
  | _ =>
    if s.isDirAt cs.dropLast then
      .ok { s with files := (cs, bytes) :: s.files.filter (·.1 ≠ cs) }
    else .error .notFound

def put (s : Store) (path : String) (bytes : ByteArray) : Store :=
  let cs := split path
  { s with files := (cs, bytes) :: s.files.filter (·.1 ≠ cs) }

def mkdir (s : Store) (path : String) : Store :=
  { s with directories := split path :: s.directories }

end Store

end OledPanel
