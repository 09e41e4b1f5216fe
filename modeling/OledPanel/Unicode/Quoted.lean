import OledPanel.Unicode.GraphemeExtend
import OledPanel.Unicode.Unprintable

/-!
# Quoted literals

Messages show a name the user wrote, such as a file extension or a settings value, as a quoted
literal, so that every character of it can be seen and told apart. Inside the quotes a quote
and a backslash take a backslash, tab, carriage return, line feed and NUL their short escapes,
and a character without a visible form, or one that would attach to the character before it,
its code point in hexadecimal between braces after `\u`. Everything else stands as itself.
-/

namespace OledPanel

/-- whether a character is shown as an escape inside a quoted literal -/
def escapedInQuotes (c : Char) : Bool := Unicode.isUnprintable c || Unicode.isGraphemeExtend c

def hexDigits (n : Nat) : String := String.ofList (Nat.toDigits 16 n)

/-- A character as it stands inside a quoted literal. -/
def quotedChar (c : Char) : String :=
  if c = '"' then "\\\"" else if c = '\\' then "\\\\"
  else if c = '\t' then "\\t" else if c = '\r' then "\\r" else if c = '\n' then "\\n"
  else if c = '\x00' then "\\0"
  else if escapedInQuotes c then "\\u\x7b" ++ hexDigits c.toNat ++ "\x7d"
  else c.toString

/-- The text of a name as a quoted literal. -/
def quoted (s : String) : String :=
  "\"" ++ String.join (s.toList.map quotedChar) ++ "\""

end OledPanel
