import OledPanel.Bytes

/-!
# Character maps

A `cmap` table maps characters to glyphs through a list of subtables, each tagged with a
platform and an encoding and laid out in one of several formats. Only the subtables for Unicode
take part: those of the Unicode platform, Windows subtables for the basic plane, and Windows
subtables for the full repertoire in the grouped format. A character's glyph is the answer of
the first of them that has one, so a subtable that maps the character to glyph 0 outright hides
the later ones, while one that leaves a gap lets them answer.

The list of subtables is read in order and ends early at the first subtable whose platform or
format is unknown or whose data does not fit the table; a record list that does not fit leaves
the face without a character map.
-/

namespace OledPanel

open Bytes

/-- one segment of a segmented character map: codes `start..stop` map by `delta` or through the
glyph index array at `rangePos` -/
structure Segment where
  stop : Nat
  start : Nat
  delta : Int
  rangeOffset : Nat
  rangePos : Nat

/-- one sub-header of a high-byte character map: low bytes `first..first + count` of its codes
map through the glyph index array `rangeOffset` bytes past the field itself -/
structure SubHeader where
  first : Nat
  count : Nat
  delta : Int
  rangeOffset : Nat

/-- a run of codes `first..last` starting at glyph `glyph` -/
structure CodeGroup where
  first : Nat
  last : Nat
  glyph : Nat

/-- the layouts a character map subtable may have -/
inductive CharLayout where
  /-- one byte of glyph id for each of the codes below 256 -/
  | byteTable (ids : ByteArray)
  /-- codes of one or two bytes, sent by their high byte to a sub-header; the sub-headers start
  at `headersAt` of the subtable's data -/
  | highByte (data : ByteArray) (keys : Array Nat) (headersAt : Nat) (headers : Array SubHeader)
  /-- sorted segments of codes below `0x10000` -/
  | segmented (data : ByteArray) (segments : Array Segment)
  /-- one glyph id for each code from `first` on; `wide` lets codes pass 16 bits -/
  | trimmed (first : Nat) (ids : Array Nat) (wide : Bool)
  /-- sorted groups of codes mapped to consecutive glyphs -/
  | sequential (groups : Array CodeGroup)
  /-- groups of codes that each map to one glyph -/
  | manyToOne (groups : Array CodeGroup)
  /-- a layout that maps no character on its own: mixed 16/32-bit coverage and variation
  sequences -/
  | silent

/-- a character map subtable with its platform and encoding -/
structure CharMap where
  platform : Nat
  encoding : Nat
  layout : CharLayout

namespace CharMap

def words? (d : ByteArray) (pos count : Nat) : Option (Array Nat) :=
  if pos + 2 * count > d.size then none
  else ((List.range count).mapM fun k => u16? d (pos + 2 * k)).map List.toArray

def groups? (d : ByteArray) (pos count : Nat) : Option (Array CodeGroup) :=
  if pos + 12 * count > d.size then none
  else ((List.range count).mapM fun k => do
    let at_ := pos + 12 * k
    pure (⟨← u32? d at_, ← u32? d (at_ + 4), ← u32? d (at_ + 8)⟩ : CodeGroup)).map List.toArray

def segmented? (sub : ByteArray) : Option CharLayout := do
  let segX2 ← u16? sub 6
  if segX2 < 2 then none
  let n := segX2 / 2
  let ends := 14
  let starts := ends + 2 * n + 2
  let deltas := starts + 2 * n
  let ranges := deltas + 2 * n
  let segs ← (List.range n).mapM fun k => do
    pure ⟨← u16? sub (ends + 2 * k), ← u16? sub (starts + 2 * k), ← i16? sub (deltas + 2 * k),
      ← u16? sub (ranges + 2 * k), ranges + 2 * k⟩
  pure (.segmented sub segs.toArray)

def highByte? (sub : ByteArray) : Option CharLayout := do
  let keys ← words? sub 6 256
  let count := (keys.foldl (fun m k => max m (k / 8)) 0) + 1
  let at_ := 6 + 512
  if at_ + 8 * count > sub.size then none
  let headers ← (List.range count).mapM fun k => do
    let p := at_ + 8 * k
    pure (⟨← u16? sub p, ← u16? sub (p + 2), ← i16? sub (p + 4), ← u16? sub (p + 6)⟩ : SubHeader)
  pure (.highByte sub keys at_ headers.toArray)

/-- The layout of the subtable at the start of `sub`, if its format is known and its data fits. -/
def layout? (sub : ByteArray) : Option CharLayout := do
  let format ← u16? sub 0
  match format with
  | 0 => if 6 + 256 > sub.size then none else pure (.byteTable (sub.extract 6 (6 + 256)))
  | 2 => highByte? sub
  | 4 => segmented? sub
  | 6 => do
    let first ← u16? sub 6
    let count ← u16? sub 8
    pure (.trimmed first (← words? sub 10 count) false)
  | 8 => pure .silent
  | 10 => do
    let first ← u32? sub 12
    let count ← u32? sub 16
    pure (.trimmed first (← words? sub 20 count) true)
  | 12 => do
    let count ← u32? sub 12
    pure (.sequential (← groups? sub 16 count))
  | 13 => do
    let count ← u32? sub 12
    pure (.manyToOne (← groups? sub 16 count))
  | 14 => do
    let count ← u32? sub 6
    if 10 + 11 * count > sub.size then none else pure .silent
  | _ => none

def isUnicode (m : CharMap) : Bool :=
  m.platform = 0 || (m.platform = 3 && m.encoding = 1) ||
    (m.platform = 3 && m.encoding = 10 && match m.layout with | .sequential _ => true | _ => false)

def readAll (t : ByteArray) : List CharMap :=
  match u16? t 2 with
  | none => []
  | some count =>
    if 4 + 8 * count > t.size then [] else
    let rec go : List Nat → List CharMap
      | [] => []
      | k :: ks =>
        let rec_ := 4 + 8 * k
        match u16? t rec_, u16? t (rec_ + 2), u32? t (rec_ + 4) with
        | some platform, some encoding, some off =>
          if platform > 4 then [] else
          match (tail? t off).bind layout? with
          | some layout => ⟨platform, encoding, layout⟩ :: go ks
          | none => []
        | _, _, _ => []
    go (List.range count)

def unicodeMaps (t : ByteArray) : Array CharMap := ((readAll t).filter isUnicode).toArray

def segmentedGlyph (data : ByteArray) (segments : Array Segment) (code : Nat) : Option Nat :=
  if code ≥ 65536 then none else
  let rec search (fuel lo hi : Nat) : Option Nat :=
    match fuel with
    | 0 => none
    | fuel + 1 =>
      if hi ≤ lo then none else
      let mid := (lo + hi) / 2
      match segments[mid]? with
      | none => none
      | some s =>
        if s.stop ≥ code then
          if s.start > code then search fuel lo mid
          else if s.rangeOffset = 0 then some ((code + s.delta) % 65536).toNat
          else if s.rangeOffset = 0xFFFF then none
          else if 2 * (code - s.start) ≥ 65536 then none
          else
            let pos := ((s.rangePos % 65536 + 2 * (code - s.start)) % 65536 + s.rangeOffset) % 65536
            match u16? data pos with
            | none => none
            | some 0 => none
            | some v =>
              let g := signed16 ((v + s.delta) % 65536).toNat
              if g < 0 then none else some g.toNat
        else search fuel (mid + 1) hi
  search (segments.size + 1) 0 segments.size

/-- The glyph for a code in a high-byte subtable: codes below `0xFF` use the first sub-header,
others the one their high byte names. -/
def highByteGlyph (data : ByteArray) (keys : Array Nat) (headersAt : Nat)
    (headers : Array SubHeader) (code : Nat) : Option Nat := do
  if code ≥ 65536 then none
  let low := code % 256
  let i ← if code < 0xFF then some 0 else (keys[code / 256]?).map (· / 8)
  let h ← headers[i]?
  if h.first + h.count ≥ 65536 ∨ low < h.first ∨ low ≥ h.first + h.count then none
  let pos := headersAt + 8 * (i + 1) - 2 + h.rangeOffset + 2 * (low - h.first)
  let g ← u16? data pos
  if g = 0 then none
  let v := (g : Int) + h.delta
  if v < 0 then none else some (v.toNat % 65536)

/-- The glyph a subtable gives a code point, if it gives one. -/
def lookup (m : CharMap) (code : Nat) : Option Nat :=
  match m.layout with
  | .byteTable ids =>
    match ids[code]? with
    | some g => if g = 0 then none else some g.toNat
    | none => none
  | .highByte data keys at_ headers => highByteGlyph data keys at_ headers code
  | .segmented data segments => segmentedGlyph data segments code
  | .trimmed first ids wide =>
    if !wide ∧ code ≥ 65536 then none
    else if code < first then none
    else ids[code - first]?
  | .sequential groups =>
    match groups[lastNotAbove (groups.map (·.first)) code]? with
    | some g =>
      if g.first ≤ code ∧ code ≤ g.last then
        let id := g.glyph + code - g.first
        if g.glyph + code ≥ Nat.pow 2 32 ∨ id ≥ 65536 then none else some id
      else none
    | none => none
  | .manyToOne groups =>
    match groups.toList.find? (fun g => g.first ≤ code ∧ code ≤ g.last) with
    | some g => if g.glyph ≥ 65536 then none else some g.glyph
    | none => none
  | .silent => none

end CharMap

end OledPanel
