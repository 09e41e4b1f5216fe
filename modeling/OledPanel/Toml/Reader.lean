/-!
# Reading bytes with located failures

A `Reader` reads a document's bytes from a position and either yields a value with the position
after it or fails. A failure remembers where reading stopped, the contexts it passed through on
the way out (innermost first), an optional cause, and whether it is final. A final failure ends
the whole parse; any other lets an enclosing choice try its next alternative.

A failure stands where the failing step gave up. Single-byte steps give up before the byte, so a
sequence fails at the first byte it could not take. `opt` and `alt` restart their alternatives
from where they began, and `tryMap` reports a rejected result at the start of what was read.

`Failure.message` writes a failure as users see it: the first label as `invalid …`, then every
expectation on one line, then the cause.
-/

namespace OledPanel

namespace Toml

/-- what a failed step wanted to see -/
inductive Expected where
  | char (c : Char)
  | literal (s : String)
  | description (s : String)
  deriving Repr, Inhabited

/-- what a failure passed through on its way out -/
inductive Context where
  | label (what : String)
  | expected (e : Expected)
  deriving Repr, Inhabited

structure Failure where
  pos : Nat
  contexts : List Context
  cause : Option String
  final : Bool
  deriving Repr, Inhabited

def hexText (n : Nat) : String := String.ofList (Nat.toDigits 16 n)

/-- A control character as an escape: the short escapes where they exist, else `\u` and the
code point in hexadecimal between braces. -/
def controlEscape (c : Char) : String :=
  if c = '\t' then "\\t" else if c = '\r' then "\\r" else if c = '\n' then "\\n"
  else if c = '\x00' then "\\0" else "\\u\x7b" ++ hexText c.toNat ++ "\x7d"

/-- How an expectation is written: a newline by name, other characters and literals quoted. -/
def Expected.text : Expected → String
  | .char c =>
    if c = '\n' then "newline"
    else if c = '`' then "'`'"
    else if c.toNat < 32 ∨ c.toNat = 127 then "`" ++ controlEscape c ++ "`"
    else "`" ++ c.toString ++ "`"
  | .literal s => "`" ++ s ++ "`"
  | .description s => s

namespace Failure

/-- a failure here with nothing said about it -/
def here (p : Nat) : Failure := ⟨p, [], none, false⟩

def label? (f : Failure) : Option String :=
  f.contexts.findSome? fun | .label l => some l | .expected _ => none

def expectations (f : Failure) : List Expected :=
  f.contexts.filterMap fun | .expected e => some e | .label _ => none

/-- The text users see: `invalid <label>`, `expected a, b`, and the cause, each on its own line
and each only when present. -/
def message (f : Failure) : String :=
  let parts :=
    (f.label?.map ("invalid " ++ ·)).toList ++
    (if f.expectations.isEmpty then []
     else ["expected " ++ ", ".intercalate (f.expectations.map Expected.text)]) ++
    f.cause.toList
  "\n".intercalate parts

end Failure

/-- a reader of a document's bytes -/
def Reader (α : Type) : Type := ByteArray → Nat → Except Failure (α × Nat)

namespace Reader

/-- read nothing and yield `a` -/
protected def pure (a : α) : Reader α := fun _ p => .ok (a, p)

/-- read with `r`, then with what its value chooses -/
protected def bind (r : Reader α) (f : α → Reader β) : Reader β := fun s p =>
  match r s p with
  | .ok (a, q) => f a s q
  | .error e => .error e

instance : Monad Reader where
  pure := Reader.pure
  bind := Reader.bind

def position : Reader Nat := fun _ p => .ok (p, p)

/-- the byte at the position, left unread -/
def peek : Reader (Option UInt8) := fun s p => .ok (s[p]?, p)

def peekSecond : Reader (Option UInt8) := fun s p => .ok (s[p + 1]?, p)

def backtrack : Reader α := fun _ p => .error (Failure.here p)

def failWith (cause : String) : Reader α := fun _ p => .error ⟨p, [], some cause, false⟩

def failWithContexts (cs : List Context) : Reader α := fun _ p => .error ⟨p, cs, none, true⟩

/-- fail at a given position -/
def failAt (q : Nat) (cause : Option String) (final : Bool) : Reader α := fun _ _ =>
  .error ⟨q, [], cause, final⟩

/-- the bytes between two positions, reading nothing -/
def bytesBetween (a b : Nat) : Reader ByteArray := fun s p => .ok (s.extract a b, p)

def next : Reader UInt8 := fun s p =>
  match s[p]? with
  | some b => .ok (b, p + 1)
  | none => .error (Failure.here p)

/-- read one byte of a class; otherwise fail before it -/
def satisfy (f : UInt8 → Bool) : Reader UInt8 := fun s p =>
  match s[p]? with
  | some b => if f b then .ok (b, p + 1) else .error (Failure.here p)
  | none => .error (Failure.here p)

def byte (b : UInt8) : Reader Unit := fun s p =>
  if s[p]? = some b then .ok ((), p + 1) else .error (Failure.here p)

def matchesAt (s : ByteArray) : Nat → List UInt8 → Bool
  | _, [] => true
  | p, b :: bs => s[p]? = some b && matchesAt s (p + 1) bs

/-- read the bytes of a literal, or fail before it -/
def literal (bs : List UInt8) : Reader Unit := fun s p =>
  if matchesAt s p bs then .ok ((), p + bs.length) else .error (Failure.here p)

/-- The end of the run of bytes of a class from `p`, looking at no more than `fuel` bytes. -/
def scanWhile (s : ByteArray) (f : UInt8 → Bool) (p : Nat) : Nat → Nat
  | 0 => p
  | n + 1 =>
    match s[p]? with
    | some b => if f b then scanWhile s f (p + 1) n else p
    | none => p

/-- Read between `lo` and `hi` bytes of a class, as many as there are; yield where they
start. Fewer than `lo` fails before the first. -/
def takeBetween (f : UInt8 → Bool) (lo hi : Nat) : Reader Nat := fun s p =>
  let q := scanWhile s f p hi
  if q - p < lo then .error (Failure.here p) else .ok (p, q)

/-- Read every byte of a class from here on, at least `lo` of them. -/
def takeWhile (f : UInt8 → Bool) (lo : Nat) : Reader Nat := fun s p =>
  takeBetween f lo (s.size - p) s p

/-- the bytes from one position to another -/
def slice (s : ByteArray) (a b : Nat) : ByteArray := s.extract a b

def atEnd : Reader Unit := fun s p =>
  if p ≥ s.size then .ok ((), p) else .error (Failure.here p)

/-- Try `r`; if it fails and the failure is not final, read with `r'` from the same start.
Of two failures the second is reported. -/
def alt (r r' : Reader α) : Reader α := fun s p =>
  match r s p with
  | .error e => if e.final then .error e else r' s p
  | .ok x => .ok x

/-- The reader `r`, or nothing from the same start when `r` fails and the failure is not final -/
def opt (r : Reader α) : Reader (Option α) := fun s p =>
  match r s p with
  | .ok (a, q) => .ok (some a, q)
  | .error e => if e.final then .error e else .ok (none, p)

/-- a failure of `r` is final -/
def cut (r : Reader α) : Reader α := fun s p =>
  match r s p with
  | .error e => .error { e with final := true }
  | .ok x => .ok x

def context (c : Context) (r : Reader α) : Reader α := fun s p =>
  match r s p with
  | .error e => .error { e with contexts := e.contexts ++ [c] }
  | .ok x => .ok x

/-- a failure of `r` passed through a label -/
def label (what : String) (r : Reader α) : Reader α := context (.label what) r

/-- a failure of `r` passed through an expectation -/
def expect (e : Expected) (r : Reader α) : Reader α := context (.expected e) r

/-- Check the value of `r`; a rejected value fails at the start of `r`, with the cause. -/
def tryMap (r : Reader α) (f : α → Except String β) : Reader β := fun s p =>
  match r s p with
  | .ok (a, q) =>
    match f a with
    | .ok b => .ok (b, q)
    | .error msg => .error ⟨p, [], some msg, false⟩
  | .error e => .error e

def rewind (r : Reader α) : Reader α := fun s p =>
  match r s p with
  | .error e => .error { e with pos := p }
  | .ok x => .ok x

def withSpan (r : Reader α) : Reader (α × Nat × Nat) := fun s p =>
  match r s p with
  | .ok (a, q) => .ok ((a, p, q), q)
  | .error e => .error e

/-- the bytes `r` read, discarding its value -/
def recognize (r : Reader α) : Reader (Nat × Nat) := fun s p =>
  match r s p with
  | .ok (_, q) => .ok ((p, q), q)
  | .error e => .error e

/-- Read with `r` as often as it succeeds; a non-final failure ends the run where that try
began. A try that reads nothing also ends it. -/
def many (r : Reader α) : Reader (List α) := fun s p =>
  go s (s.size + 1 - p) p []
where
  /-- the run from `p`, with the values so far in reverse -/
  go (s : ByteArray) : Nat → Nat → List α → Except Failure (List α × Nat)
    | 0, p, acc => .ok (acc.reverse, p)
    | fuel + 1, p, acc =>
      match r s p with
      | .ok (a, q) => if q ≤ p then .ok ((a :: acc).reverse, q) else go s fuel q (a :: acc)
      | .error e => if e.final then .error e else .ok (acc.reverse, p)

def many1 (r : Reader α) : Reader (List α) := do
  let a ← r
  let rest ← many r
  pure (a :: rest)

/-- Items of `r` between separators. After the first, a separator that fails, or one whose
item fails, ends the list before that separator; a final failure ends the parse. With `atLeastOne`
the first item is required, otherwise its non-final failure gives no items. -/
def separated (atLeastOne : Bool) (r : Reader α) (sep : Reader Unit) : Reader (List α) :=
  fun s p =>
    match r s p with
    | .error e => if e.final || atLeastOne then .error e else .ok ([], p)
    | .ok (a, q) => go s (s.size + 1 - q) q [a]
where
  /-- further items from `p`, the ones so far in reverse -/
  go (s : ByteArray) : Nat → Nat → List α → Except Failure (List α × Nat)
    | 0, p, acc => .ok (acc.reverse, p)
    | fuel + 1, p, acc =>
      match sep s p with
      | .error e => if e.final then .error e else .ok (acc.reverse, p)
      | .ok (_, q) =>
        match r s q with
        | .error e => if e.final then .error e else .ok (acc.reverse, p)
        | .ok (a, q') => if q' ≤ p then .ok ((a :: acc).reverse, q') else go s fuel q' (a :: acc)

/-- Run a reader over a whole document from a position. -/
def run (r : Reader α) (s : ByteArray) (p : Nat) : Except Failure (α × Nat) := r s p

theorem opt_not_final (r : Reader α) (s : ByteArray) (p : Nat) (e : Failure)
    (h : r s p = .error e) (hf : e.final = false) : opt r s p = .ok (none, p) := by
  simp [opt, h, hf]

theorem cut_final (r : Reader α) (s : ByteArray) (p : Nat) (e : Failure)
    (h : cut r s p = .error e) : e.final = true := by
  unfold cut at h
  split at h
  · cases h; rfl
  · cases h

end Reader

end Toml

end OledPanel
