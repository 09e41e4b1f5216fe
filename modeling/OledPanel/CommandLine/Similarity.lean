/-!
# Similar names

A mistyped name is answered with the known names that look like it, by the Jaro similarity
of the two texts. Characters match when they are equal and no further apart than half the
longer text less one; each character matches at most once, the first free one in order.
With `m` matches, of which `t` pairs stand in a different order, the similarity of texts of
lengths `a` and `b` is `(m / a + m / b + (m - t / 2) / m) / 3`, computed in double precision.

Names whose similarity is above 0.7 are suggested, least similar first.
-/

namespace OledPanel

namespace CommandLine

/-- Match the characters of `a` against `b` within `range`: the flags of `b` that were taken
and, in order, the characters of `a` that found a match. -/
def matchAll (a b : Array Char) (range : Nat) : Array Bool × List Char :=
  (List.range a.size).foldl (fun (acc : Array Bool × List Char) i =>
    let c := a[i]?.getD ' '
    let lo := i - range
    let hi := min b.size (i + range + 1)
    match (List.range (hi - lo)).find? (fun k => b[lo + k]? = some c ∧ acc.1[lo + k]? = some false) with
    | some k => (acc.1.set! (lo + k) true, c :: acc.2)
    | none => acc) (Array.replicate b.size false, [])

def jaro (x y : String) : Float :=
  let a := x.toList.toArray
  let b := y.toList.toArray
  if a.size = 0 ∧ b.size = 0 then 1.0
  else if a.size = 0 ∨ b.size = 0 then 0.0
  else
    let range := max a.size b.size / 2 - 1
    let (taken, fromA) := matchAll a b range
    let fromB := (List.range b.size).filterMap fun j =>
      if taken[j]?.getD false then b[j]? else none
    let m := fromA.length
    let t := ((fromA.reverse.zip fromB).filter fun (p, q) => p ≠ q).length / 2
    if m = 0 then 0.0
    else
      (m.toFloat / a.size.toFloat + m.toFloat / b.size.toFloat + (m - t).toFloat / m.toFloat) / 3.0

/-- The names similar to `x`, least similar first; equally similar names keep their order. -/
def similar (x : String) (names : List String) : List String :=
  let scored := (names.map fun n => (jaro x n, n)).filter fun p => p.1 > 0.7
  (scored.mergeSort fun p q => p.1 ≤ q.1).map (·.2)

theorem similar_subset (x : String) (names : List String) : similar x names ⊆ names := by
  intro n h
  simp only [similar, List.mem_map] at h
  obtain ⟨p, hp, rfl⟩ := h
  have hp' := (List.mem_mergeSort).1 hp
  simp only [List.mem_filter, List.mem_map] at hp'
  obtain ⟨⟨n', hn', rfl⟩, _⟩ := hp'
  exact hn'

end CommandLine

end OledPanel
