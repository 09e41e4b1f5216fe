/-!
# Settings documents

A settings document is a tree of tables. Each entry of a table has a key and is a plain value, a
table, or an array of tables. Plain values include inline arrays and inline tables, which are
complete when written and cannot be extended by later lines. Every value remembers the byte span
it was written at, so that a mismatch found while reading settings can point at its text.

Tables remember how they came to be: a table named by a header is explicit, one that exists only
because a longer header or a dotted key passes through it is implicit, and one made by a dotted
key is dotted. These flags decide which later definitions extend a table and which redefine it.
-/

namespace OledPanel

namespace Toml

/-- a half-open byte range of the document -/
structure Span where
  start : Nat
  stop : Nat
  deriving DecidableEq, Repr, Inhabited

namespace Span

def length (sp : Span) : Nat := sp.stop - sp.start

/-- from the start of one span to the end of another -/
def join (a b : Span) : Span := ⟨a.start, b.stop⟩

end Span

/-- a key: its name and where it was written, quotes included -/
structure Key where
  name : String
  span : Span
  deriving DecidableEq, Repr, Inhabited

namespace Key

def isBareLetter (c : Char) : Bool := c.isAlphanum || c = '-' || c = '_'

/-- a control character that a quoted key can hold only as an escape; the tab needs none -/
def needsEscape (c : Char) : Bool := (c.toNat < 0x20 && c ≠ '\t') || c.toNat = 0x7F

def hex4 (n : Nat) : String :=
  let ds := (Nat.toDigits 16 n).map Char.toUpper
  String.ofList (List.replicate (4 - ds.length) '0' ++ ds)

/-- A character inside double quotes: the short escapes where they exist, other control
characters as four hexadecimal digits, anything else as itself. -/
def basicChar (c : Char) : String :=
  if c = '\x08' then "\\b" else if c = '\t' then "\\t" else if c = '\n' then "\\n"
  else if c = '\x0c' then "\\f" else if c = '\r' then "\\r" else if c = '"' then "\\\""
  else if c = '\\' then "\\\\"
  else if c.toNat < 0x20 || c.toNat = 0x7F then "\\u" ++ hex4 c.toNat
  else c.toString

/-- A name in double quotes, escaped where it must be. -/
def basic (name : String) : String := "\"" ++ String.join (name.toList.map basicChar) ++ "\""

/-- How a key is written when nothing says otherwise: bare when it can be; else in double
quotes when nothing in it needs an escape; else in single quotes, which take no escapes, when
it holds no single quote; else in double quotes with escapes. -/
def written (k : Key) : String :=
  let cs := k.name.toList
  if !cs.isEmpty && cs.all isBareLetter then k.name
  else if !cs.any (fun c => needsEscape c || c = '"' || c = '\\') then basic k.name
  else if !cs.any (fun c => needsEscape c || c = '\'') then "'" ++ k.name ++ "'"
  else basic k.name

end Key

/-- a value that holds no other value -/
inductive Scalar where
  | string (s : String)
  | integer (i : Int)
  | float (f : Float)
  | boolean (b : Bool)
  /-- a date, a time or both, by its canonical text -/
  | datetime (text : String)
  deriving Inhabited

inductive Node where
  | scalar (v : Scalar) (span : Span)
  | array (items : List Node) (span : Span)
  /-- an inline table; the ones a dotted key makes inside an inline table have no span -/
  | inline (entries : List (Key × Node)) (dotted : Bool) (span : Option Span)
  | table (entries : List (Key × Node)) (implicit dotted : Bool) (span : Option Span)
  /-- an array of tables, each with the span of its header and lines -/
  | tables (items : List (List (Key × Node) × Span))
  deriving Inhabited

namespace Scalar

def typeName : Scalar → String
  | string _ => "string"
  | integer _ => "integer"
  | float _ => "float"
  | boolean _ => "boolean"
  | datetime _ => "datetime"

end Scalar

namespace Node

def span? : Node → Option Span
  | scalar _ sp => some sp
  | array _ sp => some sp
  | inline _ _ sp => sp
  | table _ _ _ sp => sp
  | tables items =>
    match items.head?, items.getLast? with
    | some (_, a), some (_, b) => some (a.join b)
    | _, _ => none

def typeName : Node → String
  | scalar v _ => v.typeName
  | array .. => "array"
  | inline .. => "inline table"
  | table .. => "table"
  | tables .. => "array of tables"

end Node

/-- The entry under a name, if any. -/
def lookup (entries : List (Key × Node)) (name : String) : Option Node :=
  (entries.find? (·.1.name = name)).map (·.2)

/-- The entries with the one under a name given a new node; its key stays. -/
def replace (entries : List (Key × Node)) (name : String) (n : Node) : List (Key × Node) :=
  entries.map fun e => if e.1.name = name then (e.1, n) else e

def erase (entries : List (Key × Node)) (name : String) : List (Key × Node) :=
  entries.filter (·.1.name ≠ name)

theorem lookup_append_of_none (entries : List (Key × Node)) (k : Key) (n : Node)
    (h : lookup entries k.name = none) : lookup (entries ++ [(k, n)]) k.name = some n := by
  unfold lookup at *
  rw [List.find?_append]
  simp only [Option.map_eq_none_iff] at h
  simp [h]

theorem lookup_erase (entries : List (Key × Node)) (name : String) :
    lookup (erase entries name) name = none := by
  unfold lookup erase
  simp only [Option.map_eq_none_iff, List.find?_eq_none, List.mem_filter]
  intro x hx
  simpa using hx.2

end Toml

end OledPanel
