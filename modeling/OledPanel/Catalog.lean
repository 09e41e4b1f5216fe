/-!
# Catalogs

A catalog holds values under names, in name order, each name once: the shape of the panel's
font table and its icon cache. Adding under a name that is there replaces its value, so the
order of additions decides only which value a repeated name keeps: the last.
-/

namespace OledPanel

/-- values by name, in name order, each name once -/
abbrev Catalog (α : Type) := List (String × α)

namespace Catalog

/-- Add a value under a name, keeping names in order; a name given again is replaced. -/
def insert {α : Type} : Catalog α → String → α → Catalog α
  | [], k, v => [(k, v)]
  | (k', v') :: rest, k, v =>
    if k = k' then (k, v) :: rest
    else if k < k' then (k, v) :: (k', v') :: rest
    else (k', v') :: insert rest k v

def get? {α : Type} (c : Catalog α) (k : String) : Option α :=
  (c.find? (·.1 = k)).map (·.2)

def contains {α : Type} (c : Catalog α) (k : String) : Bool := (c.get? k).isSome

def keys {α : Type} (c : Catalog α) : List String := c.map (·.1)

theorem get?_insert_self {α : Type} (c : Catalog α) (k : String) (v : α) :
    (c.insert k v).get? k = some v := by
  induction c with
  | nil => simp [insert, get?]
  | cons e rest ih =>
    obtain ⟨k', v'⟩ := e
    unfold insert
    by_cases h : k = k'
    · simp [h, get?]
    · by_cases hl : k < k'
      · simp [h, hl, get?]
      · have hne : ¬ (k' = k) := fun e => h e.symm
        simp only [h, hl, if_false]
        simpa [get?, hne] using ih

end Catalog

end OledPanel
