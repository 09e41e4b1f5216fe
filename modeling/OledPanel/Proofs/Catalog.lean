import OledPanel.Catalog
import Mathlib.Data.Finset.Card

/-!
# Catalogs

A catalog keeps its names in increasing order (`Sorted`), and adding under a name keeps that order:
a name already there is replaced in place, a new one goes where the order puts it. So each name is
there once, and a catalog built by adding names in turn holds exactly those names, each with the
value it was last added with.

- `mem_keys_insert`, `get?_insert`, `sorted_insert`: one addition.
- `build`: adding each of a list of names with its value under a function.
- `mem_keys_build`, `get?_build`, `length_build`: a built catalog holds each of the names once, with
  its value, and as many entries as there are distinct names.
-/

namespace OledPanel

namespace Catalog

variable {α : Type}

@[simp] theorem keys_nil : keys ([] : Catalog α) = [] := rfl

@[simp] theorem keys_cons (k : String) (v : α) (c : Catalog α) : keys ((k, v) :: c) = k :: keys c := rfl

/-- names in strictly increasing order, so each once -/
def Sorted (c : Catalog α) : Prop := c.keys.Pairwise (· < ·)

theorem mem_keys_insert (c : Catalog α) (k : String) (v : α) (n : String) :
    n ∈ (c.insert k v).keys ↔ n = k ∨ n ∈ c.keys := by
  induction c with
  | nil => simp [insert]
  | cons e rest ih =>
    obtain ⟨k', v'⟩ := e
    unfold insert
    by_cases h : k = k'
    · subst h
      simp
    · by_cases hl : k < k'
      · simp [h, hl]
      · simp only [h, hl, if_false, keys_cons, List.mem_cons, ih]
        tauto

theorem sorted_insert {c : Catalog α} (hc : c.Sorted) (k : String) (v : α) : (c.insert k v).Sorted := by
  induction c with
  | nil => simp [insert, Sorted]
  | cons e rest ih =>
    obtain ⟨k', v'⟩ := e
    unfold Sorted at hc
    rw [keys_cons, List.pairwise_cons] at hc
    obtain ⟨hlt, hrest⟩ := hc
    unfold insert
    by_cases h : k = k'
    · subst h
      rw [if_pos rfl]
      exact List.pairwise_cons.2 ⟨hlt, hrest⟩
    · by_cases hl : k < k'
      · simp only [h, hl, if_true, if_false, Sorted, keys_cons, List.pairwise_cons, List.mem_cons]
        refine ⟨?_, hlt, hrest⟩
        rintro n (rfl | hn)
        · exact hl
        · exact String.lt_trans hl (hlt n hn)
      · -- the name goes after `k'`, which is below it
        have hk'k : k' < k := String.not_le.1 fun hle => h (String.le_antisymm hle (String.not_lt.1 hl))
        simp only [h, hl, if_false, Sorted, keys_cons, List.pairwise_cons]
        refine ⟨fun n hn => ?_, ih hrest⟩
        rcases (mem_keys_insert rest k v n).1 hn with rfl | hn
        · exact hk'k
        · exact hlt n hn

theorem get?_insert_of_ne (c : Catalog α) {k n : String} (h : n ≠ k) (v : α) :
    (c.insert k v).get? n = c.get? n := by
  induction c with
  | nil => simp [insert, get?, Ne.symm h]
  | cons e rest ih =>
    obtain ⟨k', v'⟩ := e
    unfold insert
    by_cases hk : k = k'
    · subst hk
      simp [get?, Ne.symm h]
    · by_cases hl : k < k'
      · simp [hk, hl, get?, Ne.symm h]
      · by_cases hn : k' = n
        · subst hn
          simp [hk, hl, get?]
        · simpa [hk, hl, get?, hn] using ih

theorem get?_insert (c : Catalog α) (k : String) (v : α) (n : String) :
    (c.insert k v).get? n = if n = k then some v else c.get? n := by
  by_cases h : n = k
  · subst h
    rw [if_pos rfl, get?_insert_self]
  · rw [if_neg h, get?_insert_of_ne c h]

/-! ## Catalogs built from a list of names -/

/-- The catalog that adds each name in turn with its value under `f`. -/
def build (f : String → α) (names : List String) (c : Catalog α) : Catalog α :=
  names.foldl (fun c n => c.insert n (f n)) c

theorem mem_keys_build (f : String → α) (names : List String) (c : Catalog α) (n : String) :
    n ∈ keys (build f names c) ↔ n ∈ names ∨ n ∈ keys c := by
  induction names generalizing c with
  | nil => simp [build]
  | cons m ms ih =>
    simp only [build, List.foldl_cons] at ih ⊢
    rw [ih, mem_keys_insert, List.mem_cons]
    tauto

theorem sorted_build (f : String → α) (names : List String) {c : Catalog α} (hc : c.Sorted) :
    (build f names c).Sorted := by
  induction names generalizing c with
  | nil => exact hc
  | cons m ms ih => exact ih (sorted_insert hc m (f m))

theorem get?_build (f : String → α) (names : List String) (c : Catalog α) (n : String) :
    (build f names c).get? n = if n ∈ names then some (f n) else c.get? n := by
  induction names generalizing c with
  | nil => simp [build]
  | cons m ms ih =>
    simp only [build, List.foldl_cons] at ih ⊢
    rw [ih, get?_insert]
    by_cases hm : n = m
    · subst hm
      by_cases hms : n ∈ ms <;> simp [hms]
    · by_cases hms : n ∈ ms <;> simp [hm, hms]

/-- **A catalog built from names** holds each name once, so as many entries as distinct names. -/
theorem length_build (f : String → α) (names : List String) :
    (build f names []).length = names.toFinset.card := by
  have hnodup : (keys (build f names [])).Nodup :=
    (sorted_build f names (show Sorted ([] : Catalog α) from List.Pairwise.nil)).imp fun h => String.ne_of_lt h
  have hkeys : (keys (build f names [])).toFinset = names.toFinset := by
    ext n
    simp [mem_keys_build]
  rw [← hkeys, List.toFinset_card_of_nodup hnodup, keys, List.length_map]

end Catalog

end OledPanel
