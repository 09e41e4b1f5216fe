import OledPanel.Toml.Value
import OledPanel.Toml.Reader

/-!
# Blanks, comments, strings and keys

The lexical layer of settings documents: blanks are spaces and tabs, a newline is a line feed or
a carriage return before one, and a comment runs from `#` to the end of its line over tabs,
printable ASCII and any non-ASCII byte.

Strings come in four forms. Basic strings (`"…"`) take escapes; literal strings (`'…'`) take
their text as written; both have multi-line forms between three quotes, where a newline right
after the opening quotes is dropped and a carriage return before a line feed is read as a line
feed alone. A key is a bare word of letters, digits, `-` and `_`, or a quoted string, and a
dotted key joins such parts with `.`.
-/

namespace OledPanel

namespace Toml

open Reader

/-- the byte of an ASCII character -/
def ascii (c : Char) : UInt8 := c.toNat.toUInt8

namespace Text

def isBlank (b : UInt8) : Bool := b == 0x20 || b == 0x09

def isNonAscii (b : UInt8) : Bool := b ≥ 0x80

/-- what a basic string holds unescaped: blanks, printable ASCII but `"` and `\`, non-ASCII -/
def isBasicUnescaped (b : UInt8) : Bool :=
  isBlank b || b == 0x21 || (0x23 ≤ b && b ≤ 0x5B) || (0x5D ≤ b && b ≤ 0x7E) || isNonAscii b

def isLiteralChar (b : UInt8) : Bool :=
  b == 0x09 || (0x20 ≤ b && b ≤ 0x26) || (0x28 ≤ b && b ≤ 0x7E) || isNonAscii b

def isCommentChar (b : UInt8) : Bool := b == 0x09 || (0x20 ≤ b && b ≤ 0x7E) || isNonAscii b

def isDigit (b : UInt8) : Bool := 0x30 ≤ b && b ≤ 0x39

def isHexDigit (b : UInt8) : Bool :=
  isDigit b || (0x41 ≤ b && b ≤ 0x46) || (0x61 ≤ b && b ≤ 0x66)

def isBareKeyChar (b : UInt8) : Bool :=
  (0x41 ≤ b && b ≤ 0x5A) || (0x61 ≤ b && b ≤ 0x7A) || isDigit b || b == 0x2D || b == 0x5F

def utf8 (bs : ByteArray) : String := (String.fromUTF8? bs).getD ""

/-- Read a run of at least `lo` bytes of a class and yield them. -/
def run (f : UInt8 → Bool) (lo : Nat) : Reader ByteArray := fun s p =>
  match takeWhile f lo s p with
  | .ok (a, q) => .ok (s.extract a q, q)
  | .error e => .error e

def blanks : Reader Unit := do
  let _ ← takeWhile isBlank 0
  pure ()

/-- a line feed, or a carriage return and a line feed -/
def newline : Reader Unit := alt (byte 0x0A) (do byte 0x0D; byte 0x0A)

/-- A comment: `#` and the rest of its line -/
def comment : Reader Unit := do
  byte (ascii '#')
  let _ ← takeWhile isCommentChar 0
  pure ()

def lineEnding : Reader Unit := alt newline atEnd

def lineTrailing : Reader Unit := do
  blanks
  let _ ← opt comment
  lineEnding

/-- Blanks, newlines and comments that end at a newline, as many as follow. A comment
that does not end at a newline fails. -/
def blankLines : Reader Unit := fun s p => go s (s.size + 1) p
where
  /-- from `p`, with fuel for one round per byte -/
  go (s : ByteArray) : Nat → Nat → Except Failure (Unit × Nat)
    | 0, p => .ok ((), p)
    | fuel + 1, p =>
      let q := scanWhile s isBlank p (s.size - p)
      let more (step : Except Failure (Unit × Nat)) : Except Failure (Unit × Nat) :=
        match step with
        | .ok (_, r) => if r ≤ p then .ok ((), r) else go s fuel r
        | .error e => .error e
      match s[q]? with
      | some 0x23 => more ((do comment; newline) s q)
      | some 0x0A => more (newline s q)
      | some 0x0D => more (newline s q)
      | _ => .ok ((), q)

def lineFeed : ByteArray := ByteArray.mk #[0x0A]

def charBytes (c : Char) : ByteArray := c.toString.toUTF8

/-- The character of a code point, if it is one: not a surrogate and below `0x110000`. -/
def codePoint? (n : Nat) : Option Char :=
  if n.isValidChar then some (Char.ofNat n) else none

def hexValue (bs : ByteArray) : Nat :=
  bs.foldl (fun n b =>
    let d := if b ≤ 0x39 then b.toNat - 0x30 else if b ≤ 0x46 then b.toNat - 0x37 else b.toNat - 0x57
    16 * n + d) 0

/-- Exactly `n` hexadecimal digits naming a character. Too few digits fail where the digits
begin; a number that is no character fails there with the cause. -/
def hexEscape (n : Nat) : Reader Char := fun s p =>
  let q := scanWhile s isHexDigit p n
  if q - p ≠ n then .error (Failure.here p)
  else match codePoint? (hexValue (s.extract p q)) with
    | some c => .ok (c, q)
    | none => .error ⟨p, [], some "value is out of range", false⟩

def escapeLetters : List Char := ['b', 'f', 'n', 'r', 't', 'u', 'U', '\\', '"']

def escapeChar : Reader Char := do
  let b ← next
  if b == ascii 'b' then pure '\x08'
  else if b == ascii 'f' then pure '\x0c'
  else if b == ascii 'n' then pure '\n'
  else if b == ascii 'r' then pure '\r'
  else if b == ascii 't' then pure '\t'
  else if b == ascii 'u' then label "unicode 4-digit hex code" (cut (hexEscape 4))
  else if b == ascii 'U' then label "unicode 8-digit hex code" (cut (hexEscape 8))
  else if b == ascii '\\' then pure '\\'
  else if b == ascii '"' then pure '"'
  else failWithContexts (.label "escape sequence" :: escapeLetters.map (.expected ∘ .char))

def escaped : Reader ByteArray := do
  byte (ascii '\\')
  let c ← escapeChar
  pure (charBytes c)

def concat (parts : List ByteArray) : ByteArray := parts.foldl (· ++ ·) ByteArray.empty

def basicString : Reader ByteArray := do
  byte (ascii '"')
  let parts ← many (alt (run isBasicUnescaped 1) escaped)
  label "basic string" (cut (byte (ascii '"')))
  pure (concat parts)

def tripleQuote : List UInt8 := [0x22, 0x22, 0x22]

def tripleApostrophe : List UInt8 := [0x27, 0x27, 0x27]

def lookahead (r : Reader α) : Reader α := fun s p =>
  match r s p with
  | .ok (a, _) => .ok (a, p)
  | .error e => .error { e with pos := p }

def quotesBefore (q : UInt8) (term : Reader Unit) : Reader ByteArray :=
  alt (do literal [q, q]; lookahead term; pure (ByteArray.mk #[q, q]))
    (do byte q; lookahead term; pure (ByteArray.mk #[q]))

def noneOf (q : UInt8) : Reader Unit := do
  let _ ← satisfy (· != q)
  pure ()

def blanksAndNewlines : Reader Unit := do
  let _ ← many (alt newline (do let _ ← takeWhile isBlank 1; pure ()))
  pure ()

/-- A backslash at the end of a line: it, the rest of the line's blanks and every blank and
newline after them are dropped. -/
def escapedNewline : Reader Unit := do
  let _ ← many1 (do byte (ascii '\\'); blanks; newline; blanksAndNewlines)
  pure ()

def multiBasicPiece : Reader ByteArray :=
  alt (run isBasicUnescaped 1) <|
  alt (do escapedNewline; pure ByteArray.empty) <|
  alt escaped (do newline; pure lineFeed)

/-- The body of a multi-line basic string: pieces, with one or two quotes allowed among them
and before the closing quotes. -/
def multiBasicBody : Reader ByteArray := fun s p =>
  match many multiBasicPiece s p with
  | .error e => .error e
  | .ok (first, q) => quoted s (s.size + 1) q (concat first)
where
  /-- runs of quotes followed by pieces, then quotes that end the body -/
  quoted (s : ByteArray) : Nat → Nat → ByteArray → Except Failure (ByteArray × Nat)
    | 0, p, acc => closing s p acc
    | fuel + 1, p, acc =>
      match opt (quotesBefore 0x22 (noneOf 0x22)) s p with
      | .error e => .error e
      | .ok (none, _) => closing s p acc
      | .ok (some qs, q) =>
        match opt multiBasicPiece s q with
        | .error e => .error e
        | .ok (none, _) => closing s q acc
        | .ok (some c, r) =>
          match many multiBasicPiece s r with
          | .error e => .error e
          | .ok (more, t) => quoted s fuel t (acc ++ qs ++ c ++ concat more)
  /-- one or two quotes right before the closing three -/
  closing (s : ByteArray) (p : Nat) (acc : ByteArray) : Except Failure (ByteArray × Nat) :=
    match opt (quotesBefore 0x22 (literal tripleQuote)) s p with
    | .error e => .error e
    | .ok (none, _) => .ok (acc, p)
    | .ok (some qs, q) => .ok (acc ++ qs, q)

def multiBasicString : Reader ByteArray :=
  label "multiline basic string" do
    literal tripleQuote
    let _ ← opt newline
    let body ← cut multiBasicBody
    cut (literal tripleQuote)
    pure body

def literalString : Reader ByteArray :=
  label "literal string" do
    byte 0x27
    let body ← cut (run isLiteralChar 0)
    cut (byte 0x27)
    pure body

def multiLiteralPiece : Reader Unit :=
  alt (do let _ ← satisfy isLiteralChar; pure ()) newline

def multiLiteralBody : Reader (Nat × Nat) :=
  recognize do
    let _ ← many multiLiteralPiece
    let _ ← many (do
      let _ ← quotesBefore 0x27 (noneOf 0x27)
      let _ ← many1 multiLiteralPiece
      pure ())
    let _ ← opt (quotesBefore 0x27 (literal tripleApostrophe))
    pure ()

/-- A multi-line literal string `'''…'''`; a carriage return before a line feed is dropped. -/
def multiLiteralString : Reader ByteArray :=
  label "multiline literal string" do
    literal tripleApostrophe
    let _ ← opt newline
    let (a, b) ← cut multiLiteralBody
    cut (literal tripleApostrophe)
    let bs ← bytesBetween a b
    pure ((utf8 bs).replace "\r\n" "\n").toUTF8

/-- A string in any of its four forms. -/
def string : Reader String := do
  let bs ← alt multiBasicString (alt basicString (alt multiLiteralString literalString))
  pure (utf8 bs)

def simpleKey : Reader Key := do
  let start ← position
  let bs ← match (← peek) with
    | some 0x22 => basicString
    | some 0x27 => literalString
    | _ => run isBareKeyChar 1
  let stop ← position
  pure ⟨utf8 bs, ⟨start, stop⟩⟩

def keyDepthLimit : Nat := 80

/-- A dotted key: parts with blanks around them, joined by `.`. Too many parts fail at the
key's start. -/
def key : Reader (List Key) :=
  tryMap (label "key" (separated true (do blanks; let k ← simpleKey; blanks; pure k)
      (byte (ascii '.'))))
    fun ks => if ks.length < keyDepthLimit then .ok ks else .error "recursion limit exceeded"

end Text

end Toml

end OledPanel
