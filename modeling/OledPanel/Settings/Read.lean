import OledPanel.Settings
import OledPanel.Error
import OledPanel.Toml.Report
import OledPanel.Decimal.Text

/-!
# Reading settings from a document

Settings are read from a settings document's root table, entry by entry in the order the tree
keeps them; the first entry that does not fit its field stops the reading. Entries with other
names are ignored, and fields without an entry keep their defaults.

* Paths and service names must be strings.
* Sizes are numbers; integers are rounded to the nearest single, floats narrowed.
* The icon size is an integer from 0 to `2 ^ 32 - 1`.
* `fonts` is a table of fonts. A font is a table with optional `path` and `size`, or an array
  giving them in that order; a date stands for a font with neither.

A mismatch says what was found and what the field wanted, and points at the value, or at its
key when the value has no place of its own.
-/

namespace OledPanel

open Toml

/-- what a settings field found instead of what it wanted -/
inductive Unexpected where
  | boolean (b : Bool)
  | integer (i : Int)
  | float (f : Float)
  | string (s : String)
  | map
  | sequence

def floatWithPoint (f : Float) : String :=
  let t := Float.text f
  if f.isFinite && !t.contains '.' then t ++ ".0" else t

/-- how a mismatch names what it found -/
def Unexpected.text : Unexpected → String
  | .boolean b => "boolean `" ++ (if b then "true" else "false") ++ "`"
  | .integer i => "integer `" ++ toString i ++ "`"
  | .float f => "floating point `" ++ floatWithPoint f ++ "`"
  | .string s => "string " ++ quoted s
  | .map => "map"
  | .sequence => "sequence"

/-- a value that does not fit its field, and where it was written -/
structure Mismatch where
  message : String
  span : Option Span

namespace Toml.Node

/-- what a field reading the entry finds: dates read as maps -/
def found : Node → Unexpected
  | .scalar (.string s) _ => .string s
  | .scalar (.integer i) _ => .integer i
  | .scalar (.float f) _ => .float f
  | .scalar (.boolean b) _ => .boolean b
  | .scalar (.datetime _) _ => .map
  | .array .. => .sequence
  | .tables _ => .sequence
  | .inline .. => .map
  | .table .. => .map

def entries? : Node → Option (List (Key × Node))
  | .inline es _ _ => some es
  | .table es _ _ _ => some es
  | _ => none

def items? : Node → Option (List Node)
  | .array items _ => some items
  | .tables items => some (items.map fun (es, sp) => .table es false false (some sp))
  | _ => none

end Toml.Node

namespace Mismatch

def wrongType (n : Node) (expected : String) : Mismatch :=
  ⟨"invalid type: " ++ n.found.text ++ ", expected " ++ expected, n.span?⟩

def placeAt (sp : Option Span) (r : Except Mismatch α) : Except Mismatch α :=
  match r with
  | .error m => .error (if m.span.isSome then m else { m with span := sp })
  | .ok a => .ok a

end Mismatch

namespace SettingsReader

open Mismatch

/-- A mismatch of an entry's value with no place yet is placed at the value, or else at its key. -/
def placeEntry (k : Key) (v : Node) (r : Except Mismatch α) : Except Mismatch α :=
  placeAt (v.span? <|> some k.span) r

def path (n : Node) : Except Mismatch String :=
  match n with
  | .scalar (.string s) _ => .ok s
  | _ => .error (wrongType n "path string")

/-- a service name -/
def text (n : Node) : Except Mismatch String :=
  match n with
  | .scalar (.string s) _ => .ok s
  | _ => .error (wrongType n "a string")

/-- a size in single precision -/
def single (n : Node) : Except Mismatch Float32 :=
  match n with
  | .scalar (.integer i) _ => .ok (Decimal.single (i < 0) i.natAbs 0)
  | .scalar (.float f) _ => .ok f.toFloat32
  | _ => .error (wrongType n "f32")

/-- an unsigned 32-bit count -/
def count (n : Node) : Except Mismatch Nat :=
  match n with
  | .scalar (.integer i) sp =>
    if 0 ≤ i ∧ i < Int.pow 2 32 then .ok i.toNat
    else .error ⟨"invalid value: integer `" ++ toString i ++ "`, expected u32", some sp⟩
  | _ => .error (wrongType n "u32")

def names (n : Node) : Except Mismatch (List String) :=
  match n.items? with
  | some items => items.mapM fun item => placeAt item.span? (text item)
  | none => .error (wrongType n "a sequence")

def font (n : Node) : Except Mismatch FontSpec :=
  match n with
  | .scalar (.datetime _) _ => .ok FontSpec.empty
  | _ =>
    match n.entries?, n.items? with
    | some es, _ =>
      es.foldlM (fun (spec : FontSpec) (k, v) =>
        if k.name = "path" then do
          let p ← placeEntry k v (path v)
          pure { spec with path := some p }
        else if k.name = "size" then do
          let z ← placeEntry k v (single v)
          pure { spec with size := z }
        else pure spec) FontSpec.empty
    | none, some items => do
      let p ← match items[0]? with
        | some v => do let p ← placeAt v.span? (path v); pure (some p)
        | none => pure none
      let z ← match items[1]? with
        | some v => placeAt v.span? (single v)
        | none => pure FontSpec.defaultSize
      pure ⟨p, z⟩
    | none, none => .error (wrongType n "struct FontSpec")

def fonts (n : Node) : Except Mismatch (List (String × FontSpec)) :=
  match n with
  | .scalar (.datetime t) sp =>
    .error ⟨"invalid type: string " ++ quoted t ++ ", expected struct FontSpec", some sp⟩
  | _ =>
    match n.entries? with
    | some es =>
      es.foldlM (fun m (k, v) => do
        let spec ← placeEntry k v (font v)
        pure (Settings.insertFont m k.name spec)) []
    | none => .error (wrongType n "a map")

/-- One entry of the root table, applied to the settings so far. -/
def field (c : Settings) (k : Key) (v : Node) : Except Mismatch Settings :=
  match k.name with
  | "icon_dir" => do let p ← placeEntry k v (path v); pure { c with iconDir := p }
  | "fonts" => do let f ← placeEntry k v (fonts v); pure { c with fonts := f }
  | "logo_path" => do let p ← placeEntry k v (path v); pure { c with logoPath := some p }
  | "ready_gif_path" => do let p ← placeEntry k v (path v); pure { c with readyGifPath := some p }
  | "services" => do let s ← placeEntry k v (names v); pure { c with services := s }
  | "icon_size" => do let z ← placeEntry k v (count v); pure { c with iconSize := z }
  | "logo_duration_secs" => do let z ← placeEntry k v (single v); pure { c with logoDurationSecs := z }
  | _ => .ok c

def ofEntries (es : List (Key × Node)) : Except Mismatch Settings :=
  es.foldlM (fun c (k, v) => field c k v) Settings.default

end SettingsReader

namespace Settings

/-- Settings from the text of a settings document; a bad document or value is a
configuration error with its report. -/
def parse (text : String) : Except PanelError Settings :=
  let src := text.toUTF8
  match Document.parse src with
  | .error e => .error (.config (Report.ofParseError src e))
  | .ok es =>
    match SettingsReader.ofEntries es with
    | .ok c => .ok c
    | .error m => .error (.config (Report.render src m.span m.message))

/-- Settings from a file of the store: it must be readable UTF-8 text and parse. -/
def load (s : Store) (path : String) : Except PanelError Settings :=
  match s.read path with
  | .error e => .error (.io e)
  | .ok bytes =>
    match String.fromUTF8? bytes with
    | none => .error (.io .invalidUtf8)
    | some text => parse text

/-- Settings from a file, or the defaults when it cannot be loaded. -/
def loadOrDefault (s : Store) (path : String) : Settings :=
  match load s path with
  | .ok c => c
  | .error _ => default

end Settings

end OledPanel
