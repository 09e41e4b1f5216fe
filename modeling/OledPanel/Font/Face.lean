import OledPanel.Font.CharMap
import OledPanel.Font.Kerning

/-!
# Font faces

A face is what text layout needs from a TrueType file: the em size, the ascender and descender,
the character map, advance widths, pair kerning and the outline data of each glyph.

`Face.parse` accepts a file exactly when its table directory is readable and its `head`, `hhea`
and `maxp` tables are well formed: `head` is at least 54 bytes with an em size in `16..16384` and
a known offset format, `hhea` is at least 36 bytes, and `maxp` has a known version and at least
one glyph. A collection file (`ttcf`) is read at its first face. Every other table is optional and
is dropped when malformed, so a damaged `cmap`, `hmtx`, `kern`, `loca` or `glyf` only loses the
feature it carries.

A character's glyph is the answer of the first Unicode character map subtable that has one, and a
pair's kerning that of the first kerning subtable that has one. Sorted records are searched by
halving, so records out of order miss entries the same way as any reader that trusts the order.
-/

namespace OledPanel

open Bytes

/-- the metrics, character map, kerning and glyph data of a font -/
structure Face where
  unitsPerEm : Nat
  ascender : Int
  descender : Int
  glyphCount : Nat
  /-- advance widths; glyphs past the list use the last one -/
  advances : Option (Array Nat)
  /-- the Unicode character map subtables, in order -/
  charMaps : Array CharMap
  /-- the kerning subtables that apply along the line, in order -/
  kerning : Array KernTable
  /-- glyph data ranges, one more than the glyphs they bound -/
  locations : Option (Array Nat)
  glyphData : ByteArray

namespace Face

/-- The directory entry for `tag`: the last record carrying it, with its bytes if they lie in
the file. -/
def table? (data : ByteArray) (records : List (List Nat × Nat × Nat)) (tag : String) :
    Option (Option ByteArray) :=
  match (records.filter fun r => r.1 = tagOf tag).getLast? with
  | none => none
  | some (_, off, len) => some (slice? data off len)

def directory? (data : ByteArray) (start : Nat) : Option (List (List Nat × Nat × Nat)) := do
  let count ← u16? data start
  (List.range count).mapM fun k => do
    let at_ := start + 8 + 16 * k
    let tag ← tag? data at_
    let off ← u32? data (at_ + 8)
    let len ← u32? data (at_ + 12)
    pure (tag, off, len)

/-- The offset of the face's table directory: 0 for a single font, the first face of a
collection, `none` for an unknown signature. -/
def faceStart? (data : ByteArray) : Option Nat := do
  let known (m : Nat) : Bool := m = 0x00010000 ∨ m = 0x74727565 ∨ m = 0x4F54544F
  let magic ← u32? data 0
  if known magic then pure 4
  else if magic = 0x74746366 then
    let faces ← u32? data 8
    let listEnd := 12 + 4 * faces
    if faces = 0 ∨ listEnd > data.size then none
    let off ← u32? data 12
    if off < listEnd then none
    let inner ← u32? data off
    if known inner then pure (off + 4) else none
  else none

def head? (t : ByteArray) : Option (Nat × Bool) := do
  if t.size < 54 then none
  let upem ← u16? t 18
  let fmt ← u16? t 50
  if upem < 16 ∨ upem > 16384 then none
  if fmt = 0 then pure (upem, false) else if fmt = 1 then pure (upem, true) else none

def hhea? (t : ByteArray) : Option (Int × Int × Nat) := do
  if t.size < 36 then none
  pure (← i16? t 4, ← i16? t 6, ← u16? t 34)

def maxp? (t : ByteArray) : Option Nat := do
  let version ← u32? t 0
  if version ≠ 0x00005000 ∧ version ≠ 0x00010000 then none
  let n ← u16? t 4
  if n = 0 then none else pure n

def hmtx? (t : ByteArray) (metrics : Nat) : Option (Array Nat) := do
  if metrics = 0 then none
  ((List.range metrics).mapM fun k => u16? t (4 * k)).map List.toArray

def loca? (t : ByteArray) (glyphs : Nat) (long : Bool) : Option (Array Nat) := do
  let wanted := if glyphs = 65535 then glyphs else glyphs + 1
  let present := if long then t.size / 4 else t.size / 2
  if present > 65535 then none
  let total := min wanted present
  let read (k : Nat) : Option Nat :=
    if long then u32? t (4 * k) else (u16? t (2 * k)).map (· * 2)
  ((List.range total).mapM read).map List.toArray

/-- Parse a font file; `none` when it is not one. -/
def parse (data : ByteArray) : Option Face := do
  let start ← faceStart? data
  let records ← directory? data start
  let raw (tag : String) : Option ByteArray := (table? data records tag).bind id
  let (upem, long) ← head? ((raw "head").getD ByteArray.empty)
  let (asc, desc, metrics) ← hhea? ((raw "hhea").getD ByteArray.empty)
  let glyphs ← maxp? ((raw "maxp").getD ByteArray.empty)
  pure {
    unitsPerEm := upem
    ascender := asc
    descender := desc
    glyphCount := glyphs
    advances := (raw "hmtx").bind (hmtx? · metrics)
    charMaps := ((raw "cmap").map CharMap.unicodeMaps).getD #[]
    kerning := ((raw "kern").map kernTables).getD #[]
    locations := (raw "loca").bind (loca? · glyphs long)
    glyphData := (raw "glyf").getD ByteArray.empty }

/-- The glyph of a character: the first Unicode subtable that maps it, else glyph 0. -/
def glyphOf (f : Face) (c : Char) : Nat :=
  (f.charMaps.findSome? (·.lookup c.toNat)).getD 0

/-- The advance width of a glyph in font units: the last width serves glyphs past the list,
and glyphs past the glyph count have none. -/
def advance (f : Face) (g : Nat) : Nat :=
  match f.advances with
  | none => 0
  | some a => if g ≥ f.glyphCount then 0 else (a[g]? <|> a.back?).getD 0

/-- The kerning between two glyphs in font units, zero without a pair. -/
def kern (f : Face) (left right : Nat) : Int :=
  (f.kerning.findSome? (·.value? left right)).getD 0

def glyphBytes (f : Face) (g : Nat) : Option ByteArray := do
  let loc ← f.locations
  if g = 65535 ∨ g + 1 ≥ loc.size then none
  let a ← loc[g]?
  let b ← loc[g + 1]?
  if a ≥ b then none
  slice? f.glyphData a (b - a)

end Face

end OledPanel
