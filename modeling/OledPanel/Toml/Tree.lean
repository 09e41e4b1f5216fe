import OledPanel.Toml.Value

/-!
# Assembling the table tree

Statements are added to the tree one at a time. Key-value lines go into the table of the
latest header, the current table, which joins the tree when the next header starts or the
document ends. Every addition is checked against what is there:

* a key may be defined once in its table;
* a dotted key may pass through tables it made itself, and not through a table that a header
  defined or any other value;
* a header may define a table that so far exists only as a step of longer headers, and no
  other existing entry;
* an array-of-tables header appends a table to an array of tables, creating it if needed.

A conflict is a `Conflict`, whose `message` names the key and the table it is in.
-/

namespace OledPanel

namespace Toml

/-- why a definition conflicts with the document so far -/
inductive Conflict where
  /-- the key is defined already; the table is named when the check knows it -/
  | duplicateKey (key : String) (table : Option (List String))
  /-- a dotted path runs into a value that is not a table -/
  | extendsValue (path : List String) (actual : String)
  deriving DecidableEq, Repr

def Conflict.message : Conflict → String
  | .duplicateKey k none => "duplicate key `" ++ k ++ "`"
  | .duplicateKey k (some []) => "duplicate key `" ++ k ++ "` in document root"
  | .duplicateKey k (some t) => "duplicate key `" ++ k ++ "` in table `" ++ ".".intercalate t ++ "`"
  | .extendsValue p a =>
    "dotted key `" ++ ".".intercalate p ++ "` attempted to extend non-table type (" ++ a ++ ")"

def Conflict.redefined (path : List Key) (i : Nat) : Conflict :=
  .duplicateKey ((path[i]?.map Key.written).getD "") (some ((path.take i).map (·.name)))

/-- a change to the entries of a table that also yields a result -/
abbrev Edit (α : Type) := List (Key × Node) → Bool → Except Conflict (List (Key × Node) × α)

/-- Walk down a path of keys from a table of the document and edit the table reached. Missing
steps become implicit tables, dotted when `dotted`; through an array of tables the walk takes
its last table. The flag passed on is whether the table reached is dotted. -/
def descend (dotted : Bool) (whole : List Key) (f : Edit α) :
    Nat → List Key → List (Key × Node) → Bool → Except Conflict (List (Key × Node) × α)
  | _, [], es, d => f es d
  | i, k :: ks, es, _ =>
    let fresh : Node := .table [] true dotted none
    let (es, node) : List (Key × Node) × Node :=
      match lookup es k.name with
      | some n => (es, n)
      | none => (es ++ [(k, fresh)], fresh)
    match node with
    | .table inner imp dot sp => do
      if dotted && !imp then .error (.duplicateKey k.name none)
      let (inner, a) ← descend dotted whole f (i + 1) ks inner dot
      pure (replace es k.name (.table inner imp dot sp), a)
    | .tables items =>
      match items.reverse with
      | (inner, sp) :: before => do
        let (inner, a) ← descend dotted whole f (i + 1) ks inner false
        pure (replace es k.name (.tables ((inner, sp) :: before).reverse), a)
      | [] => do
        let (inner, a) ← descend dotted whole f (i + 1) ks [] false
        pure (replace es k.name (.table inner true dotted none), a)
    | n => .error (.extendsValue ((whole.take (i + 1)).map (·.name)) n.typeName)

/-- Walk down a path inside an inline table and edit the inline table reached; missing steps
become dotted inline tables. -/
def descendInline (whole : List Key) (f : Edit α) :
    Nat → List Key → List (Key × Node) → Bool → Except Conflict (List (Key × Node) × α)
  | _, [], es, d => f es d
  | i, k :: ks, es, _ =>
    let fresh : Node := .inline [] true none
    let (es, node) : List (Key × Node) × Node :=
      match lookup es k.name with
      | some n => (es, n)
      | none => (es ++ [(k, fresh)], fresh)
    match node with
    | .inline inner dot sp => do
      let (inner, a) ← descendInline whole f (i + 1) ks inner dot
      pure (replace es k.name (.inline inner dot sp), a)
    | n => .error (.extendsValue ((whole.take (i + 1)).map (·.name)) n.typeName)

/-- Add `key = value` under a dotted path: the table reached must be dotted exactly when the
path is not empty, and must not hold the key yet. -/
def place (path : List Key) (k : Key) (v : Node) (table : Option (List String)) : Edit Unit :=
  fun es dotted =>
    if dotted == path.isEmpty then .error (.duplicateKey k.name none)
    else if (lookup es k.name).isSome then .error (.duplicateKey k.name table)
    else .ok (es ++ [(k, v)], ())

def inlineEntries (pairs : List (List Key × Key × Node)) : Except Conflict (List (Key × Node)) :=
  pairs.foldlM (fun es (path, k, v) => do
    let (es, _) ← descendInline path (place path k v none) 0 path es false
    pure es) []

/-- the document so far and the table whose lines are being read -/
structure Builder where
  root : List (Key × Node)
  current : List (Key × Node)
  currentSpan : Option Span
  /-- whether the current table is the next table of an array of tables -/
  currentIsArray : Bool
  /-- the header's path; empty for the lines before the first header -/
  currentPath : List Key
  deriving Inhabited

namespace Builder

/-- before the first line: the current table is the root, spanning nothing so far -/
def empty : Builder := ⟨[], [], some ⟨0, 0⟩, false, []⟩

/-- Add a key-value line to the current table; the table's span grows to the value's end. -/
def addKeyval (b : Builder) (path : List Key) (k : Key) (v : Node) : Except Conflict Builder := do
  let span := match b.currentSpan, v.span? with
    | some cs, some vs => some (cs.join vs)
    | cs, _ => cs
  let (current, _) ← descend true path (place path k v (some (b.currentPath.map (·.name))))
    0 path b.current false
  pure { b with current, currentSpan := span }

def finalize (b : Builder) : Except Conflict Builder :=
  let rest : Builder := ⟨b.root, [], none, false, []⟩
  match b.currentPath.getLast? with
  | none => .ok { rest with root := b.root ++ b.current }
  | some k =>
    let parents := b.currentPath.dropLast
    let sp := b.currentSpan.getD ⟨0, 0⟩
    let dup := Conflict.redefined b.currentPath (b.currentPath.length - 1)
    let edit : Edit Unit := fun es _ =>
      if b.currentIsArray then
        match lookup es k.name with
        | none => .ok (es ++ [(k, .tables [(b.current, sp)])], ())
        | some (.tables items) => .ok (replace es k.name (.tables (items ++ [(b.current, sp)])), ())
        | some _ => .error dup
      else
        match lookup es k.name with
        | none => .ok (es ++ [(k, .table b.current false false b.currentSpan)], ())
        | some (.table _ true _ _) =>
          .ok (replace es k.name (.table b.current false false b.currentSpan), ())
        | some _ => .error dup
    match descend false parents edit 0 parents b.root false with
    | .ok (root, _) => .ok { rest with root }
    | .error c => .error c

/-- Start the table of a `[header]`: a table so far only implicit, and not dotted, is taken
out of the tree with its entries and becomes current; any other entry under the name
conflicts. -/
def startTable (b : Builder) (path : List Key) (span : Span) : Except Conflict Builder := do
  let b ← b.finalize
  match path.getLast? with
  | none => pure b
  | some k =>
    let parents := path.dropLast
    let edit : Edit (List (Key × Node)) := fun es _ =>
      match lookup es k.name with
      | none => .ok (es, [])
      | some (.table inner true false _) => .ok (erase es k.name, inner)
      | some _ => .error (Conflict.redefined path (path.length - 1))
    let (root, adopted) ← descend false parents edit 0 parents b.root false
    pure ⟨root, adopted, some span, false, path⟩

def startArrayTable (b : Builder) (path : List Key) (span : Span) : Except Conflict Builder := do
  let b ← b.finalize
  match path.getLast? with
  | none => pure b
  | some k =>
    let parents := path.dropLast
    let edit : Edit Unit := fun es _ =>
      match lookup es k.name with
      | none => .ok (es ++ [(k, .tables [])], ())
      | some (.tables _) => .ok (es, ())
      | some _ => .error (Conflict.redefined path (path.length - 1))
    let (root, _) ← descend false parents edit 0 parents b.root false
    pure ⟨root, [], some span, true, path⟩

end Builder

theorem place_fresh (k : Key) (v : Node) (es : List (Key × Node)) (t : Option (List String))
    (h : lookup es k.name = none) : place [] k v t es false = .ok (es ++ [(k, v)], ()) := by
  simp [place, h]

theorem place_duplicate (k : Key) (v w : Node) (es : List (Key × Node)) (t : Option (List String))
    (h : lookup es k.name = some w) :
    place [] k v t es false = .error (.duplicateKey k.name t) := by
  simp [place, h]

end Toml

end OledPanel
