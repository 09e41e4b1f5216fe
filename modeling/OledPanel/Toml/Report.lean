import OledPanel.Toml.Document

/-!
# Reports of bad documents

A report points at the text it is about:

```text
TOML parse error at line 2, column 8
  |
2 | size = "x"
  |        ^^^
invalid type: string "x", expected f32
```

Lines count from one and columns from one in characters; a column after text that is not whole
characters is counted in bytes instead, as is the width of the caret run. A failure inside a
character of several bytes points at the whole character. The carets cover the span,
cut at the end of its line, and are never fewer than one. A report with no place in the text is
its message alone.
-/

namespace OledPanel

namespace Toml

namespace Report

def isContinuation (b : UInt8) : Bool := 0x80 ≤ b && b < 0xC0

def charWidth (b : UInt8) : Nat :=
  if b < 0x80 then 1 else if b < 0xE0 then 2 else if b < 0xF0 then 3 else 4

/-- The start of the character that holds an offset: the offset itself unless it falls inside
a character of several bytes. -/
def charStart (src : ByteArray) : Nat → Nat
  | 0 => 0
  | i + 1 =>
    match src[i + 1]? with
    | some b => if isContinuation b then charStart src i else i + 1
    | none => i + 1

def charSpan (src : ByteArray) (offset : Nat) : Span :=
  let start := charStart src offset
  match src[start]? with
  | some b => ⟨start, min src.size (start + charWidth b)⟩
  | none => ⟨start, start⟩

def lineStart (src : ByteArray) (i : Nat) : Nat :=
  ((List.range i).filter (fun j => src[j]? = some 0x0A)).getLast?.map (· + 1) |>.getD 0

def lineColumn (src : ByteArray) (index : Nat) : Nat × Nat :=
  if src.size = 0 then (0, index)
  else
    let safe := min index (src.size - 1)
    let beyond := index - safe
    let start := lineStart src safe
    let line := ((List.range start).filter (fun j => src[j]? = some 0x0A)).length
    let column := match String.fromUTF8? (src.extract start (safe + 1)) with
      | some text => text.length - 1
      | none => safe - start
    (line, column + beyond)

def spaces (n : Nat) : String := String.ofList (List.replicate n ' ')

/-- The report of a message about a span of a text. -/
def render (src : ByteArray) (span : Option Span) (message : String) : String :=
  match span with
  | none => message ++ "\n"
  | some sp =>
    let (line, column) := lineColumn src sp.start
    let lineNo := toString (line + 1)
    let gutter := lineNo.length
    let text := (String.fromUTF8? src).getD ""
    let content := ((text.splitOn "\n")[line]?).getD ""
    let width := min sp.length (content.utf8ByteSize - column)
    "TOML parse error at line " ++ lineNo ++ ", column " ++ toString (column + 1) ++ "\n" ++
      spaces (gutter + 1) ++ "|\n" ++
      lineNo ++ " | " ++ content ++ "\n" ++
      spaces (gutter + 1) ++ "|" ++ spaces (column + 1) ++
        String.ofList (List.replicate (max width 1) '^') ++ "\n" ++
      message ++ "\n"

def ofParseError (src : ByteArray) : ParseError → String
  | .failure f => render src (some (charSpan src f.pos)) f.message
  | .conflict c => render src none c.message

end Report

end Toml

end OledPanel
