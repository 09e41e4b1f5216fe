import OledPanel.Bytes

/-!
# Pair kerning

A `kern` table holds subtables that each give adjustments for pairs of glyphs. Two layouts of
the table exist: one whose first word is 0, with a 16-bit subtable count and six-byte subtable
headers, and one for any other first word, with a 32-bit count and eight-byte headers. Their
subtables come as sorted pair lists, as class tables, as a class-index matrix, or as state
machines, which give no pair values.

Only subtables that kern along the line and do not vary take part, and a pair's adjustment is
the answer of the first of them that has one. The subtables are read in order up to the first
one whose format is unknown or whose data does not fit.
-/

namespace OledPanel

open Bytes

/-- one kerning pair, keyed by `left * 65536 + right` -/
structure KernPair where
  key : Nat
  value : Int

inductive KernTable where
  /-- a list of pairs sorted by key -/
  | pairs (ps : Array KernPair)
  /-- left and right class tables indexing an array of values; offsets count from the start of
  the subtable, `headerLen` bytes before `data` -/
  | classes (data : ByteArray) (headerLen : Nat)
  /-- classes of left and right glyphs indexing a matrix of value indices -/
  | matrix (data : ByteArray)
  /-- a state machine, which kerns no pair on its own -/
  | stateMachine

namespace KernTable

def pairs? (data : ByteArray) : Option KernTable := do
  let n ← u16? data 0
  if 8 + 6 * n > data.size then none
  let list ← (List.range n).mapM fun k => do
    let l ← u16? data (8 + 6 * k)
    let r ← u16? data (10 + 6 * k)
    let v ← i16? data (12 + 6 * k)
    pure (⟨l * 65536 + r, v⟩ : KernPair)
  pure (.pairs list.toArray)

/-- A state-machine subtable, if its class table, state array, entry table and action data
lie in it. -/
def stateMachine? (data : ByteArray) : Option KernTable := do
  let classAt ← u16? data 2
  let statesAt ← u16? data 4
  let entriesAt ← u16? data 6
  let glyphs ← u16? data (classAt + 2)
  if classAt + 4 + glyphs > data.size then none
  let actionsAt ← u16? data 8
  if statesAt > data.size ∨ entriesAt > data.size ∨ actionsAt > data.size then none
  pure .stateMachine

def matrix? (data : ByteArray) : Option KernTable := do
  let glyphs ← u16? data 0
  let values ← u8? data 2
  let lefts ← u8? data 3
  let rights ← u8? data 4
  if 6 + 2 * values + 2 * glyphs + lefts * rights > data.size then none
  pure (.matrix data)

/-- The class of a glyph in the class table at `off`: glyphs before the first or past the list
have none. -/
def classOf (data : ByteArray) (off glyph : Nat) : Option Nat := do
  let first ← u16? data off
  let n ← u16? data (off + 2)
  if off + 4 + 2 * n > data.size then none
  if glyph < first ∨ glyph - first ≥ n then none
  u16? data (off + 4 + 2 * (glyph - first))

def value? (t : KernTable) (left right : Nat) : Option Int :=
  match t with
  | .pairs ps =>
    let key := left * 65536 + right
    match ps[lastNotAbove (ps.map (·.key)) key]? with
    | some p => if p.key = key then some p.value else none
    | none => none
  | .classes data headerLen => do
    let leftAt ← u16? data 2
    let rightAt ← u16? data 4
    let arrayAt ← u16? data 6
    if leftAt < headerLen ∨ rightAt < headerLen ∨ arrayAt < headerLen then none
    let lc := (classOf data (leftAt - headerLen) left).getD 0
    let rc := (classOf data (rightAt - headerLen) right).getD 0
    if lc < arrayAt - headerLen then none
    if lc + rc < headerLen then none
    i16? data (lc + rc - headerLen)
  | .matrix data => do
    let glyphs ← u16? data 0
    let values ← u8? data 2
    let lefts ← u8? data 3
    let rights ← u8? data 4
    let leftClasses := 6 + 2 * values
    let rightClasses := leftClasses + glyphs
    let indices := rightClasses + glyphs
    let lc := if left < glyphs then (u8? data (leftClasses + left)).getD 0 else 0
    let rc := if right < glyphs then (u8? data (rightClasses + right)).getD 0 else 0
    if lc > lefts ∨ rc > rights then none
    let i := lc * rights + rc
    if i ≥ lefts * rights then none
    let v ← u8? data (indices + i)
    if v ≥ values then none
    i16? data (6 + 2 * v)
  | .stateMachine => none

end KernTable

/-- The subtables of a `kern` table that kern along the line without varying, in order, up to
the first that cannot be read. -/
def kernTables (t : ByteArray) : Array KernTable :=
  let wide := u16? t 0 ≠ some 0
  let count := if wide then u32? t 4 else u16? t 2
  let start := if wide then 8 else 4
  let headerLen := if wide then 8 else 6
  -- a subtable's header fields: its length, format and coverage
  let header (pos : Nat) : Option (Nat × Nat × Nat) :=
    if wide then do pure (← u32? t pos, ← u8? t (pos + 5), ← u8? t (pos + 4))
    else do pure (← u16? t (pos + 2), ← u8? t (pos + 4), ← u8? t (pos + 5))
  let rec walk (fuel pos left : Nat) (out : Array KernTable) : Array KernTable :=
    match fuel with
    | 0 => out
    | fuel + 1 =>
      if left = 0 ∨ pos ≥ t.size then out else
      match header pos with
      | none => out
      | some (len, format, coverage) =>
        let known := if wide then format ≤ 3 else format = 0 ∨ format = 2
        if !known then out else
        let dataLen : Option Nat :=
          if !wide ∧ count = some 1 then some (t.size - (pos + headerLen))
          else if len < headerLen then none else some (len - headerLen)
        match dataLen.bind (slice? t (pos + headerLen)) with
        | none => out
        | some data =>
          let table : Option KernTable :=
            if format = 0 then KernTable.pairs? data
            else if format = 1 then KernTable.stateMachine? data
            else if format = 2 then some (.classes data headerLen)
            else KernTable.matrix? data
          match table with
          | none => out
          | some tb =>
            let horizontal := if wide then coverage &&& 0x80 = 0 else coverage &&& 0x01 ≠ 0
            let varies := wide ∧ coverage &&& 0x20 ≠ 0
            let out := if horizontal ∧ !varies then out.push tb else out
            walk fuel (pos + headerLen + data.size) (left - 1) out
  match count with
  | none => #[]
  | some n => walk n start n #[]

end OledPanel
