import OledPanel.Font.Outline

/-!
# Coverage accumulation

Anti-aliased glyphs are rasterised by signed area accumulation. Every segment of an outline adds,
on each pixel row it crosses, the area it sweeps to its right as signed deltas into a buffer;
the running sum of the buffer along the rows is then the coverage of each pixel, taken in
absolute value and capped at 1. A closed outline adds as much as it takes away on every row, so
the running sum returns to zero past the outline's right edge.

Quadratic arcs are flattened into straight segments first: an arc whose control point lies close
to its chord is one segment, otherwise `1 + ⌊(3 · dev²)^(1/4)⌋` equal steps of the parameter,
where `dev` measures how far the control point pulls the arc.

All arithmetic is single precision and follows one fixed order of operations, so the same
outline always gives the same coverage bit for bit.
-/

namespace OledPanel

def fmin (a b : Float32) : Float32 :=
  if a.isNaN then b else if b.isNaN then a else if b < a then b else a

def fmax (a b : Float32) : Float32 :=
  if a.isNaN then b else if b.isNaN then a else if b > a then b else a

/-- A float as a non-negative index: truncated, with negatives and non-numbers giving 0 and
large values saturating. -/
def Float32.index (v : Float32) : Nat := v.toUInt64.toNat

/-- A float as a signed integer: truncated, non-numbers giving 0. -/
def Float32.whole (v : Float32) : Int := v.toInt64.toInt

/-- the signed-area buffer of a `width × height` pixel grid, with four cells of slack -/
structure Coverage where
  width : Nat
  height : Nat
  cells : Array Float32

namespace Coverage

def empty (w h : Nat) : Coverage := ⟨w, h, Array.replicate (w * h + 4) 0⟩

def bump (c : Coverage) (i : Int) (v : Float32) : Coverage :=
  if i < 0 then c else { c with cells := c.cells.modify i.toNat (· + v) }

/-- the cells that one row of a segment touches, from `x` to `xnext` with signed height `d` -/
def row (c : Coverage) (linestart : Nat) (x xnext d : Float32) : Option Coverage :=
  let (x0, x1) := if x < xnext then (x, xnext) else (xnext, x)
  let x0floor := x0.floor
  let x0i := Float32.whole x0floor
  let x1ceil := x1.ceil
  let x1i := Float32.whole x1ceil
  let start : Int := linestart + x0i
  if start < 0 then none
  else if x1i ≤ x0i + 1 then
    let xmf := 0.5 * (x + xnext) - x0floor
    some ((c.bump start (d - d * xmf)).bump (start + 1) (d * xmf))
  else
    let s := 1 / (x1 - x0)
    let x0f := x0 - x0floor
    let a0 := 0.5 * s * (1 - x0f) * (1 - x0f)
    let x1f := x1 - x1ceil + 1
    let am := 0.5 * s * x1f * x1f
    let c := c.bump start (d * a0)
    let c :=
      if x1i = x0i + 2 then c.bump (start + 1) (d * (1 - a0 - am))
      else
        let a1 := s * (1.5 - x0f)
        let c := c.bump (start + 1) (d * (a1 - a0))
        let inner := (List.range (x1i - x0i - 3).toNat).map fun (k : Nat) => x0i + 2 + k
        let c := inner.foldl (fun c xi => c.bump (linestart + xi) (d * s)) c
        let a2 := a1 + Float32.ofInt (x1i - x0i - 3) * s
        c.bump (linestart + x1i - 1) (d * (1 - a2 - am))
    some (c.bump (linestart + x1i) (d * am))

/-- Accumulate a straight segment. Rows above the grid are skipped by moving the start of the
segment down to the first row; a row that would start before the buffer is skipped whole. -/
def line (c : Coverage) (p q : Vec2) : Coverage :=
  if (p.y - q.y).abs ≤ Float32.ofBits 0x34000000 then c else
  let (dir, p0, p1) : Float32 × Vec2 × Vec2 := if p.y < q.y then (1, p, q) else (-1, q, p)
  let dxdy := (p1.x - p0.x) / (p1.y - p0.y)
  let x := if p0.y < 0 then p0.x - p0.y * dxdy else p0.x
  let y0 := Float32.index p0.y
  let y1 := min c.height (Float32.index p1.y.ceil)
  let step (acc : Coverage × Float32) (y : Nat) : Coverage × Float32 :=
    let (c, x) := acc
    let dy := fmin (Float32.ofNat (y + 1)) p1.y - fmax (Float32.ofNat y) p0.y
    let xnext := x + dxdy * dy
    match c.row (y * c.width) x xnext (dy * dir) with
    | some c => (c, xnext)
    | none => (c, x)
  ((List.range (y1 - y0)).map (y0 + ·) |>.foldl step (c, x)).1

/-- Accumulate a quadratic arc from `p0` pulled towards `p1` ending at `p2`. -/
def quad (c : Coverage) (p0 p1 p2 : Vec2) : Coverage :=
  let devx := p0.x - 2 * p1.x + p2.x
  let devy := p0.y - 2 * p1.y + p2.y
  let devsq := devx * devx + devy * devy
  if devsq < Float32.ofBits 0x3eaa7efa then c.line p0 p2 else
  let n := 1 + Float32.index (3 * devsq).sqrt.sqrt.floor
  let nrecip := 1 / Float32.ofNat n
  let at_ (t : Float32) : Vec2 := (p0.lerp p1 t).lerp (p1.lerp p2 t) t
  let step (acc : Coverage × Vec2 × Float32) (_ : Nat) : Coverage × Vec2 × Float32 :=
    let (c, p, t) := acc
    let t := t + nrecip
    let q := at_ t
    (c.line p q, q, t)
  let (c, p, _) := (List.range (n - 1)).foldl step (c, p0, 0)
  c.line p p2

/-- The coverage of each pixel in row-major order: the running sum of the cells, in absolute
value, capped at 1. -/
def levels (c : Coverage) : Array Float32 :=
  let n := c.width * c.height
  let step (acc : Float32 × Array Float32) (v : Float32) : Float32 × Array Float32 :=
    let s := acc.1 + v
    let a := s.abs
    (s, acc.2.push (if a < 1 then a else 1))
  ((c.cells.extract 0 n).foldl step (0, Array.emptyWithCapacity n)).2

end Coverage

end OledPanel
