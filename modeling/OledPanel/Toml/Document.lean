import OledPanel.Toml.Number
import OledPanel.Toml.Tree

/-!
# Reading a settings document

A document is a sequence of lines: blank lines, comments, `key = value` lines and table headers
`[a.b]` or `[[a.b]]`, each ending at a newline or the end of the text, after an optional byte
order mark. Values are strings, numbers, booleans, dates, arrays `[…]` and inline tables
`{…}`; arrays and inline tables nest at most 79 deep.

`Document.parse` yields the root table's entries in the order the tree keeps them, or a
`ParseError`: a located `Failure`, or a conflict found only when the last table joins the tree.
-/

namespace OledPanel

namespace Toml

open Reader Text

/-- why a document could not be read -/
inductive ParseError where
  | failure (f : Failure)
  /-- a conflict found after the last line, which has no place in the text -/
  | conflict (c : Conflict)
  deriving Repr

namespace Document

def depthLimit : Nat := 80

def notAValue : List Context :=
  [.label "string", .expected (.char '"'), .expected (.char '\'')]

def asValue (r : Reader α) : Reader α := fun s p =>
  match r s p with
  | .error e => .error { e with contexts := e.contexts ++ notAValue }
  | .ok x => .ok x

/-- Items between `[` and `]`, separated by commas, with blanks, newlines and comments around
them and an optional comma after the last. -/
def arrayOf (item : Reader Node) : Reader (List Node) := do
  byte (ascii '[')
  let items ← cut do
    if (← peek) = some (ascii ']') then pure []
    else
      let items ← separated false (do blankLines; let v ← item; blankLines; pure v)
        (byte (ascii ','))
      if !items.isEmpty then
        let _ ← opt (byte (ascii ','))
      blankLines
      pure items
  expect (.char ']') (label "array" (cut (byte (ascii ']'))))
  pure items

def inlinePair (val : Reader Node) : Reader (List Key × Key × Node) := do
  let ks ← key
  let v ← cut do
    expect (.char '=') (expect (.char '.') (byte (ascii '=')))
    blanks
    let v ← val
    blanks
    pure v
  pure (ks.dropLast, ks.getLast?.getD default, v)

def inlineTableOf (val : Reader Node) : Reader (List (Key × Node)) := do
  byte (ascii '{')
  let entries ← cut (tryMap (do
      let pairs ← separated false (inlinePair val) (byte (ascii ','))
      blanks
      pure pairs)
    fun pairs => (inlineEntries pairs).mapError Conflict.message)
  expect (.char '}') (label "inline table" (cut (byte (ascii '}'))))
  pure entries

/-- A value that holds no other, read by its first byte. -/
def scalar (b : UInt8) : Reader Scalar :=
  if b == ascii '+' || b == ascii '-' || Text.isDigit b then
    alt (do let t ← Number.dateTime; pure (.datetime t)) <|
    alt (do let f ← Number.float; pure (.float f))
      (do let i ← Number.integer; pure (.integer i))
  else if b == ascii '_' then
    expect (.description "leading digit") (do let i ← Number.integer; pure (.integer i))
  else if b == ascii '.' then
    expect (.description "leading digit") (do let f ← Number.float; pure (.float f))
  else if b == ascii 't' then asValue (do let v ← Number.trueWord; pure (.boolean v))
  else if b == ascii 'f' then asValue (do let v ← Number.falseWord; pure (.boolean v))
  else if b == ascii 'i' then
    asValue (do literal "inf".toUTF8.toList; pure (.float Number.infinity))
  else if b == ascii 'n' then
    asValue (do literal "nan".toUTF8.toList; pure (.float (0.0 / 0.0)))
  else asValue backtrack

/-- A value whose arrays and inline tables hold values read by `inner`; with no `inner`, an
array or inline table is one level too deep. -/
def valueWith (inner : Option (Reader Node)) : Reader Node := do
  let start ← position
  match (← peek) with
  | none => backtrack
  | some b =>
    if b == ascii '"' || b == ascii '\'' then do
      let str ← string
      let stop ← position
      pure (.scalar (.string str) ⟨start, stop⟩)
    else if b == ascii '[' || b == ascii '{' then
      match inner with
      | none => failAt start (some "recursion limit exceeded") true
      | some item =>
        if b == ascii '[' then do
          let items ← arrayOf item
          let stop ← position
          pure (.array items ⟨start, stop⟩)
        else do
          let entries ← inlineTableOf item
          let stop ← position
          pure (.inline entries false (some ⟨start, stop⟩))
    else do
      let v ← scalar b
      let stop ← position
      pure (.scalar v ⟨start, stop⟩)

/-- A value, where `depth` more arrays and inline tables may open. -/
def value : Nat → Reader Node
  | 0 => valueWith none
  | d + 1 => valueWith (some (value d))

def lineValue : Reader Node := value (depthLimit - 1)

def keyvalLine : Reader (List Key × Key × Node) := do
  let ks ← key
  let v ← cut do
    expect (.char '=') (expect (.char '.') (byte (ascii '=')))
    blanks
    let v ← lineValue
    expect (.char '#') (expect (.char '\n') lineTrailing)
    pure v
  pure (ks.dropLast, ks.getLast?.getD default, v)

def headerLine (openBr closeBr : List UInt8) (closeText : String) : Reader (List Key × Span) := do
  let start ← position
  literal openBr
  let ks ← cut key
  expect (.literal closeText) (expect (.char '.') (cut (literal closeBr)))
  let stop ← position
  expect (.char '#') (expect (.char '\n') (cut lineTrailing))
  pure (ks, ⟨start, stop⟩)

def blanksEnd (s : ByteArray) (p : Nat) : Nat := scanWhile s isBlank p (s.size - p)

def conflictAt (p : Nat) (c : Conflict) (contexts : List Context) : Failure :=
  ⟨p, contexts, some c.message, true⟩

/-- One line of the document from `p`, added to the tree. -/
def line (s : ByteArray) (p : Nat) (b : Builder) (first : UInt8) :
    Except Failure (Builder × Nat) :=
  if first == ascii '#' then
    match cut (do comment; lineEnding) s p with
    | .ok (_, q) => .ok (b, q)
    | .error e => .error e
  else if first == ascii '[' ∧ s.size < p + 2 then .error ⟨p, [.label "table header"], none, true⟩
  else if first == ascii '[' then
    let isArray := s[p + 1]? = some (ascii '[')
    let header := if isArray then headerLine [0x5B, 0x5B] [0x5D, 0x5D] "]]"
      else headerLine [0x5B] [0x5D] "]"
    match cut (label "table header" header) s p with
    | .error e => .error e
    | .ok ((path, span), q) =>
      let added := if isArray then b.startArrayTable path span else b.startTable path span
      match added with
      | .ok b => .ok (b, q)
      | .error c => .error (conflictAt p c [.label "table header"])
  else if first == 0x0A || first == 0x0D then
    match newline s p with
    | .ok (_, q) => .ok (b, q)
    | .error e => .error e
  else
    match cut keyvalLine s p with
    | .error e => .error e
    | .ok ((path, k, v), q) =>
      match b.addKeyval path k v with
      | .ok b => .ok (b, q)
      | .error c => .error (conflictAt p c [])

/-- Lines from `p` to the end of the document. A newline that is not one ends the lines; the
document must end there. -/
def lines (s : ByteArray) : Nat → Nat → Builder → Except Failure Builder
  | 0, p, b => if p ≥ s.size then .ok b else .error (Failure.here p)
  | fuel + 1, p, b =>
    match s[p]? with
    | none => .ok b
    | some first =>
      match line s p b first with
      | .ok (b', q) => if q ≤ p then .error (Failure.here p) else lines s fuel (blanksEnd s q) b'
      | .error e => if e.final then .error e else .error (Failure.here p)

def byteOrderMark : List UInt8 := [0xEF, 0xBB, 0xBF]

/-- Read a document into the entries of its root table. -/
def parse (s : ByteArray) : Except ParseError (List (Key × Node)) :=
  let p := if matchesAt s 0 byteOrderMark then 3 else 0
  match lines s (s.size + 1) (blanksEnd s p) Builder.empty with
  | .error f => .error (.failure f)
  | .ok b =>
    match b.finalize with
    | .ok b => .ok b.root
    | .error c => .error (.conflict c)

end Document

end Toml

end OledPanel
