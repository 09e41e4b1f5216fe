import OledPanel.Font.Face

/-!
# Glyph outlines

A simple TrueType glyph stores its contours as points, each on or off the curve, with
coordinates as deltas. `Outline.ofGlyph` decodes the points and turns each contour into straight
segments and quadratic arcs: two off-curve points in a row imply an on-curve point halfway
between them, and a contour that starts off the curve starts at such a midpoint, or waits for its
first on-curve point.

A composite glyph is a list of other glyphs, each placed by an affine map: an offset, and a
uniform scale, two scales or a two-by-two matrix in 2.14 fixed point. The maps compose down the
nesting, which may be at most 32 levels deep. A component placed by matching point numbers
instead of an offset is drawn unmoved, and its two arguments are not skipped, so the words after
its glyph number are read as its scale and as the next component. A component whose glyph is
empty or missing is left out; one that is malformed spoils the whole glyph.

The bounding box is taken over every point the curves pass through or are pulled towards,
control points included, after placement, and is truncated to whole font units. A glyph whose
box has no area, or does not fit in 16 bits, has no outline.
-/

namespace OledPanel

open Bytes

/-- a point of the plane in single precision -/
structure Vec2 where
  x : Float32
  y : Float32

namespace Vec2

def lerp (a b : Vec2) (t : Float32) : Vec2 := ⟨a.x + t * (b.x - a.x), a.y + t * (b.y - a.y)⟩

end Vec2

/-- the affine map `(x, y) ↦ (a·x + c·y + e, b·x + d·y + f)` -/
structure Affine where
  a : Float32 := 1
  b : Float32 := 0
  c : Float32 := 0
  d : Float32 := 1
  e : Float32 := 0
  f : Float32 := 0

namespace Affine

/-- the image of a point -/
def apply (t : Affine) (p : Vec2) : Vec2 :=
  ⟨t.a * p.x + t.c * p.y + t.e, t.b * p.x + t.d * p.y + t.f⟩

def comp (t u : Affine) : Affine :=
  ⟨t.a * u.a + t.c * u.b, t.b * u.a + t.d * u.b, t.a * u.c + t.c * u.d, t.b * u.c + t.d * u.d,
    t.a * u.e + t.c * u.f + t.e, t.b * u.e + t.d * u.f + t.f⟩

def isIdentity (t : Affine) : Bool :=
  t.a == 1 && t.b == 0 && t.c == 0 && t.d == 1 && t.e == 0 && t.f == 0

/-- The image of a point, left as it is under the identity. -/
def place (t : Affine) (p : Vec2) : Vec2 := if t.isIdentity then p else t.apply p

end Affine

inductive Curve where
  | line (p0 p1 : Vec2)
  | quad (p0 p1 p2 : Vec2)

/-- one stored point of a glyph contour; `last` closes its contour -/
structure ContourPoint where
  x : Int
  y : Int
  onCurve : Bool
  last : Bool

def wrap16 (v : Int) : Int := Bytes.signed16 (v % 65536).toNat

/-- The coordinate lengths in bytes of the x and y streams for `total` points, walking the
flags from `pos`; `none` when a repeat runs past the points or the flags run out. -/
def coordLengths (g : ByteArray) (pos total : Nat) : Option (Nat × Nat × Nat) :=
  let rec go (fuel pos left xl yl : Nat) : Option (Nat × Nat × Nat) :=
    match fuel with
    | 0 => some (pos, xl, yl)
    | fuel + 1 =>
      if left = 0 then some (pos, xl, yl) else do
      let f ← u8? g pos
      let (pos, reps) ← if f &&& 0x08 ≠ 0 then (u8? g (pos + 1)).map fun r => (pos + 2, r + 1)
        else some (pos + 1, 1)
      if reps > left then none
      let xl := xl + (if f &&& 0x02 ≠ 0 then reps else if f &&& 0x10 = 0 then 2 * reps else 0)
      let yl := yl + (if f &&& 0x04 ≠ 0 then reps else if f &&& 0x20 = 0 then 2 * reps else 0)
      go fuel pos (left - reps) xl yl
  go total pos total 0 0

/-- The state of the point walk: the contour counter, the flag stream with its pending repeats,
and the two coordinate streams with their running values. -/
structure PointWalk where
  endIndex : Nat
  left : Nat
  flagPos : Nat
  flag : Nat
  repeats : Nat
  xPos : Nat
  x : Int
  yPos : Nat
  y : Int

def contourPoints? (glyph : ByteArray) : Option (List ContourPoint) := do
  let contours ← i16? glyph 0
  if contours ≤ 0 then return []
  let n := contours.toNat
  let body ← tail? glyph 10
  let ends ← (List.range n).mapM fun k => u16? body (2 * k)
  let lastEnd ← ends.getLast?
  let total := lastEnd + 1
  if total ≥ 65536 then none
  if total = 1 then return []
  let insLen ← u16? body (2 * n)
  let flagsAt := 2 * n + 2 + insLen
  let (xAt, xLen, yLen) ← coordLengths body flagsAt total
  let flagData ← if flagsAt ≤ xAt then slice? body flagsAt (xAt - flagsAt) else none
  let xData ← slice? body xAt xLen
  let yData ← slice? body (xAt + xLen) yLen
  let endAt (k : Nat) : Option Nat := ends[k]?
  let byte (d : ByteArray) (i : Nat) : Nat := (u8? d i).getD 0
  let coord (d : ByteArray) (pos : Nat) (short same : Bool) : Nat × Int :=
    if short then
      let v : Int := byte d pos
      (pos + 1, if same then v else -v)
    else if same then (pos, 0)
    else (pos + 2, (i16? d pos).getD 0)
  let step (acc : PointWalk × List ContourPoint) (_ : Nat) : PointWalk × List ContourPoint :=
    let (w, out) := acc
    -- the contour counter
    let (isLast, endIndex, left) :=
      if w.left = 0 then
        let left := match endAt w.endIndex with
          | some e => (e - (endAt (w.endIndex - 1)).getD 0) - 1
          | none => 0
        (true, w.endIndex + 1, left)
      else (false, w.endIndex, w.left - 1)
    -- the flag stream
    let (flagPos, flag, repeats) :=
      if w.repeats = 0 then
        let f := byte flagData w.flagPos
        if f &&& 0x08 ≠ 0 then (w.flagPos + 2, f, byte flagData (w.flagPos + 1))
        else (w.flagPos + 1, f, 0)
      else (w.flagPos, w.flag, w.repeats - 1)
    let (xPos, dx) := coord xData w.xPos (flag &&& 0x02 ≠ 0) (flag &&& 0x10 ≠ 0)
    let (yPos, dy) := coord yData w.yPos (flag &&& 0x04 ≠ 0) (flag &&& 0x20 ≠ 0)
    let x := wrap16 (w.x + dx)
    let y := wrap16 (w.y + dy)
    (⟨endIndex, left, flagPos, flag, repeats, xPos, x, yPos, y⟩,
      ⟨x, y, flag &&& 0x01 ≠ 0, isLast⟩ :: out)
  let start : PointWalk := ⟨1, ends.headD 0, 0, 0, 0, 0, 0, 0, 0⟩
  pure ((List.range total).foldl step (start, [])).2.reverse

/-- the running bounds `(xMin, yMin, xMax, yMax)` of the points seen -/
abbrev Bounds := Option (Float32 × Float32 × Float32 × Float32)

/-- Widen bounds to cover a point. -/
def Bounds.cover (b : Bounds) (p : Vec2) : Bounds :=
  match b with
  | none => some (p.x, p.y, p.x, p.y)
  | some (x0, y0, x1, y1) =>
    some (if p.x < x0 then p.x else x0, if p.y < y0 then p.y else y0,
      if p.x > x1 then p.x else x1, if p.y > y1 then p.y else y1)

/-- The contour builder: the placement of the glyph being drawn, where its contour started,
its first pending off-curve point, the last pending off-curve point, the pen position, the start
of the open contour, and the curves and bounds so far. -/
structure Pen where
  transform : Affine := {}
  firstOn : Option Vec2 := none
  firstOff : Option Vec2 := none
  lastOff : Option Vec2 := none
  last : Vec2 := ⟨0, 0⟩
  lastMove : Option Vec2 := none
  curves : Array Curve := #[]
  bounds : Bounds := none

namespace Pen

def moveTo (s : Pen) (p : Vec2) : Pen :=
  let p := s.transform.place p
  { s with last := p, lastMove := some p, bounds := s.bounds.cover p }

def lineTo (s : Pen) (p : Vec2) : Pen :=
  let p := s.transform.place p
  { s with curves := s.curves.push (.line s.last p), last := p, bounds := s.bounds.cover p }

def quadTo (s : Pen) (c p : Vec2) : Pen :=
  let c := s.transform.place c
  let p := s.transform.place p
  { s with curves := s.curves.push (.quad s.last c p), last := p,
           bounds := (s.bounds.cover c).cover p }

/-- close the open contour with a segment back to its start -/
def close (s : Pen) : Pen :=
  match s.lastMove with
  | some m => { s with curves := s.curves.push (.line s.last m), lastMove := none }
  | none => s

def finish (s : Pen) : Pen :=
  let s := match s.firstOff, s.lastOff with
    | some o1, some o2 => { s with lastOff := none }.quadTo o2 (o2.lerp o1 0.5)
    | _, _ => s
  let s := match s.firstOn, s.firstOff, s.lastOff with
    | some p, some o1, _ => s.quadTo o1 p
    | some p, none, some o2 => s.quadTo o2 p
    | some p, none, none => s.lineTo p
    | none, _, _ => s
  { s with firstOn := none, firstOff := none, lastOff := none }.close

/-- Feed one stored point. -/
def push (s : Pen) (pt : ContourPoint) : Pen :=
  let p : Vec2 := ⟨Float32.ofInt pt.x, Float32.ofInt pt.y⟩
  let s := match s.firstOn with
    | none =>
      if pt.onCurve then { s with firstOn := some p }.moveTo p
      else match s.firstOff with
        | some o =>
          let mid := o.lerp p 0.5
          { s with firstOn := some mid, lastOff := some p }.moveTo mid
        | none => { s with firstOff := some p }
    | some _ =>
      match s.lastOff, pt.onCurve with
      | some o, true => { s with lastOff := none }.quadTo o p
      | some o, false => { s with lastOff := some p }.quadTo o (o.lerp p 0.5)
      | none, true => s.lineTo p
      | none, false => { s with lastOff := some p }
  if pt.last then s.finish else s

end Pen

/-- one component of a composite glyph: the glyph and its placement -/
structure Component where
  glyph : Nat
  transform : Affine

def signed8 (v : Nat) : Int := if v < 128 then v else (v : Int) - 256

def f2dot14? (d : ByteArray) (pos : Nat) : Option Float32 :=
  (i16? d pos).map fun v => Float32.ofInt v / 16384

def readComponent (d : ByteArray) (pos : Nat) : Option (Component × Bool × Nat) := do
  let flags ← u16? d pos
  let glyph ← u16? d (pos + 2)
  let pos := pos + 4
  let (e, f, pos) ←
    if flags &&& 0x02 = 0 then pure ((0 : Float32), (0 : Float32), pos)
    else if flags &&& 0x01 ≠ 0 then do
      pure (Float32.ofInt (← i16? d pos), Float32.ofInt (← i16? d (pos + 2)), pos + 4)
    else do
      pure (Float32.ofInt (signed8 (← u8? d pos)), Float32.ofInt (signed8 (← u8? d (pos + 1))),
        pos + 2)
  let (a, b, c, dd, pos) ←
    if flags &&& 0x80 ≠ 0 then do
      pure (← f2dot14? d pos, ← f2dot14? d (pos + 2), ← f2dot14? d (pos + 4),
        ← f2dot14? d (pos + 6), pos + 8)
    else if flags &&& 0x40 ≠ 0 then do
      pure (← f2dot14? d pos, (0 : Float32), (0 : Float32), ← f2dot14? d (pos + 2), pos + 4)
    else if flags &&& 0x08 ≠ 0 then do
      let k ← f2dot14? d pos
      pure (k, 0, 0, k, pos + 2)
    else pure (1, 0, 0, 1, pos)
  pure (⟨glyph, ⟨a, b, c, dd, e, f⟩⟩, flags &&& 0x20 ≠ 0, pos)

/-- The components of a composite glyph's body, up to the one that says none follows or the
first that cannot be read. -/
def components (body : ByteArray) : List Component :=
  let rec go (fuel pos : Nat) : List Component :=
    match fuel with
    | 0 => []
    | fuel + 1 =>
      match readComponent body pos with
      | none => []
      | some (c, more, next) => c :: (if more then go fuel next else [])
  go body.size 0

/-- Draw a glyph's data with a pen, through at most `depth` levels of components; `none` when
the data is malformed or nests deeper. Each component starts its contours afresh, under its
placement composed with the pen's, and hands back the curves and bounds it drew. -/
def Pen.drawGlyph (face : Face) : Nat → ByteArray → Pen → Option Pen
  | 0, _, _ => none
  | depth + 1, data, pen => do
    let contours ← i16? data 0
    if contours > 0 then
      let pts ← contourPoints? data
      pure (pts.foldl Pen.push pen)
    else if contours < 0 then
      let body ← tail? data 10
      (components body).foldlM (fun outer comp =>
        match face.glyphBytes comp.glyph with
        | none => pure outer
        | some inner => do
          let fresh : Pen := { outer with
            transform := outer.transform.comp comp.transform
            firstOn := none, firstOff := none, lastOff := none }
          let drawn ← Pen.drawGlyph face depth inner fresh
          pure { drawn with
            transform := outer.transform
            firstOn := outer.firstOn, firstOff := outer.firstOff, lastOff := outer.lastOff })
        pen
    else pure pen

/-- A bound in whole font units, truncated toward zero; `none` outside the 16-bit range. -/
def fontUnit? (v : Float32) : Option Int :=
  if v ≥ -32768 ∧ v < 32768 then some v.toInt64.toInt else none

/-- a glyph outline: its curves and its box `(xMin, yMin, xMax, yMax)` in font units -/
structure Outline where
  curves : Array Curve
  xMin : Int
  yMin : Int
  xMax : Int
  yMax : Int

namespace Outline

/-- The outline of a glyph of a face, if it has one with a box of positive area. -/
def ofGlyph (f : Face) (g : Nat) : Option Outline := do
  let bytes ← f.glyphBytes g
  let pen := (← Pen.drawGlyph f 32 bytes {}).close
  let (x0, y0, x1, y1) ← pen.bounds
  let xMin ← fontUnit? x0
  let yMin ← fontUnit? y0
  let xMax ← fontUnit? x1
  let yMax ← fontUnit? y1
  if xMin < xMax ∧ yMin < yMax then pure ⟨pen.curves, xMin, yMin, xMax, yMax⟩ else none

end Outline

end OledPanel
