/-!
# Ranges of code points

A class of characters from the Unicode tables is written as a list of inclusive ranges of code
points, in increasing order and with a gap between neighbours, so that each class has one
written form. Membership is a scan of the list; in a well-formed list the first range that does
not end before a code point decides it (`contains_eq_find?`), which is what a search of the
table reads.
-/

namespace OledPanel

namespace Unicode

/-- a class of code points as inclusive ranges -/
abbrev CodeRanges := List (Nat × Nat)

namespace CodeRanges

/-- whether a code point lies in one of the ranges -/
def contains (rs : CodeRanges) (n : Nat) : Bool := rs.any fun r => r.1 ≤ n && n ≤ r.2

/-- whether the ranges are well formed: each one non-empty, and each ending before the gap
that precedes the next -/
def Ordered : CodeRanges → Prop
  | [] => True
  | [r] => r.1 ≤ r.2
  | r :: s :: rest => r.1 ≤ r.2 ∧ r.2 + 1 < s.1 ∧ Ordered (s :: rest)

instance decOrdered : (rs : CodeRanges) → Decidable (Ordered rs)
  | [] => inferInstanceAs (Decidable True)
  | [r] => inferInstanceAs (Decidable (r.1 ≤ r.2))
  | r :: s :: rest =>
    have := decOrdered (s :: rest)
    inferInstanceAs (Decidable (r.1 ≤ r.2 ∧ r.2 + 1 < s.1 ∧ Ordered (s :: rest)))

/-- the number of code points in the ranges -/
def count (rs : CodeRanges) : Nat := (rs.map fun r => r.2 + 1 - r.1).foldr (· + ·) 0

@[simp] theorem contains_nil (n : Nat) : contains [] n = false := rfl

@[simp] theorem contains_cons (r : Nat × Nat) (rs : CodeRanges) (n : Nat) :
    contains (r :: rs) n = ((r.1 ≤ n && n ≤ r.2) || contains rs n) := rfl

theorem contains_iff (rs : CodeRanges) (n : Nat) :
    contains rs n = true ↔ ∃ r ∈ rs, r.1 ≤ n ∧ n ≤ r.2 := by
  simp [contains]

theorem Ordered.tail {r : Nat × Nat} {rs : CodeRanges} (h : Ordered (r :: rs)) : Ordered rs := by
  cases rs with
  | nil => trivial
  | cons s rest => exact h.2.2

theorem contains_eq_false_of_lt {r : Nat × Nat} {rs : CodeRanges} (h : Ordered (r :: rs)) {n : Nat}
    (hn : n < r.1) : contains (r :: rs) n = false := by
  have hfirst : ¬ r.1 ≤ n := Nat.not_le.2 hn
  induction rs generalizing r with
  | nil => simp [hfirst]
  | cons s rest ih =>
    obtain ⟨hr, hgap, hs⟩ := h
    rw [contains_cons, ih hs (by omega) (by omega)]
    simp [hfirst]

/-- **Range search.** In well-formed ranges a code point is decided by the first range that does
not end before it: it is in the class exactly when that range starts at or before it. A search
may stop at that range. -/
theorem contains_eq_find? {rs : CodeRanges} (h : Ordered rs) (n : Nat) :
    contains rs n = ((rs.find? fun r => n ≤ r.2).any fun r => r.1 ≤ n) := by
  induction rs with
  | nil => rfl
  | cons r rs ih =>
    by_cases hn : n ≤ r.2
    · rw [List.find?_cons_of_pos (by simpa using hn)]
      by_cases hr : r.1 ≤ n
      · simp [hr, hn]
      · -- the code point falls in the gap before this range
        rw [contains_eq_false_of_lt h (Nat.not_le.1 hr)]
        simp [hr]
    · rw [List.find?_cons_of_neg (by simpa using hn), contains_cons, ih h.tail]
      simp [hn]

end CodeRanges

end Unicode

end OledPanel
