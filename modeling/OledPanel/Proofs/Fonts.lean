import OledPanel.FontSet
import OledPanel.Proofs.Catalog

/-!
# Font sets

A font set is built from the font table, a catalog that names each font once, and never fails: it
holds exactly the table's names. A name holds an outline face at its configured size exactly when
its font names a file that is there and whose bytes parse as a font; every other name of the
table, and every name not in it, gets the built-in face.

- `Catalog.insertAll`: a catalog built from the entries of another, each value mapped.
- `typefaceOf_cases`, `typefaceOf_outline_iff`, `typefaceOf_fixed_iff`: the face of one font.
- `FontSet.Loaded`: what a font set built from a table holds.
- `load_fonts`: every table that names each font once is loaded so.
-/

namespace OledPanel

namespace Catalog

variable {α β : Type}

theorem isSome_get?_iff (c : Catalog α) (k : String) : (c.get? k).isSome ↔ k ∈ keys c := by
  simp [get?, keys, List.find?_isSome]

/-- The catalog that adds each entry of `es` in turn, with its value under `g`. -/
def insertAll (g : β → α) (es : Catalog β) (c : Catalog α) : Catalog α :=
  es.foldl (fun c e => c.insert e.1 (g e.2)) c

theorem insertAll_cons (g : β → α) (e : String × β) (es : Catalog β) (c : Catalog α) :
    insertAll g (e :: es) c = insertAll g es (c.insert e.1 (g e.2)) := rfl

theorem mem_keys_insertAll (g : β → α) (es : Catalog β) (c : Catalog α) (n : String) :
    n ∈ keys (insertAll g es c) ↔ n ∈ keys es ∨ n ∈ keys c := by
  induction es generalizing c with
  | nil => simp [insertAll]
  | cons e es ih =>
    obtain ⟨k, v⟩ := e
    rw [insertAll_cons, ih, mem_keys_insert, keys_cons, List.mem_cons]
    tauto

theorem sorted_insertAll (g : β → α) (es : Catalog β) {c : Catalog α} (hc : c.Sorted) :
    (insertAll g es c).Sorted := by
  induction es generalizing c with
  | nil => exact hc
  | cons e es ih => exact ih (sorted_insert hc e.1 (g e.2))

theorem get?_insertAll_of_not_mem (g : β → α) {es : Catalog β} (c : Catalog α) {n : String}
    (hn : n ∉ keys es) : (insertAll g es c).get? n = c.get? n := by
  induction es generalizing c with
  | nil => rfl
  | cons e es ih =>
    obtain ⟨k, v⟩ := e
    rw [keys_cons, List.mem_cons, not_or] at hn
    rw [insertAll_cons, ih _ hn.2, get?_insert_of_ne c hn.1]

theorem get?_insertAll_of_mem (g : β → α) {es : Catalog β} (hes : (keys es).Nodup) (c : Catalog α)
    {n : String} {v : β} (hv : (n, v) ∈ es) : (insertAll g es c).get? n = some (g v) := by
  induction es generalizing c with
  | nil => simp at hv
  | cons e es ih =>
    obtain ⟨k, w⟩ := e
    rw [keys_cons, List.nodup_cons] at hes
    rw [insertAll_cons]
    rcases List.mem_cons.1 hv with h | hv
    · -- the entry is the first one, and no later entry has its name
      obtain ⟨rfl, rfl⟩ := Prod.mk.inj h
      rw [get?_insertAll_of_not_mem g _ hes.1, get?_insert_self]
    · exact ih hes.2 _ hv

theorem length_insertAll (g : β → α) {es : Catalog β} (hes : (keys es).Nodup) :
    (insertAll g es []).length = es.length := by
  have hnodup : (keys (insertAll g es [])).Nodup :=
    (sorted_insertAll g es (show Sorted ([] : Catalog α) from List.Pairwise.nil)).imp fun h => String.ne_of_lt h
  have hkeys : (keys (insertAll g es [])).toFinset = (keys es).toFinset := by
    ext n
    simp [mem_keys_insertAll]
  have hlen := congrArg Finset.card hkeys
  rw [List.toFinset_card_of_nodup hnodup, List.toFinset_card_of_nodup hes, keys, keys, List.length_map,
    List.length_map] at hlen
  exact hlen

end Catalog

/-- The font file of a spec holds `face`: its path is given, names a file, and the file's bytes
parse as that face. -/
def FontSpec.Parses (s : Store) (spec : FontSpec) (face : Face) : Prop :=
  ∃ path data, spec.path = some path ∧ s.isFile path = true ∧ s.read path = .ok data ∧ Face.parse data = some face

theorem FontSpec.Parses.unique {s : Store} {spec : FontSpec} {face face' : Face} (h : spec.Parses s face)
    (h' : spec.Parses s face') : face = face' := by
  obtain ⟨path, data, hpath, -, hread, hparse⟩ := h
  obtain ⟨path', data', hpath', -, hread', hparse'⟩ := h'
  rw [hpath] at hpath'
  cases hpath'
  rw [hread] at hread'
  cases hread'
  rw [hparse] at hparse'
  exact Option.some.inj hparse'

namespace FontSet

open Catalog

/-- A font is an outline face at its configured size when its file holds one, and the built-in face
when it holds none: no path, no such file, a file that cannot be read, or bytes that do not parse. -/
theorem typefaceOf_cases (s : Store) (spec : FontSpec) :
    (∃ face, spec.Parses s face ∧ typefaceOf s spec = .outline face spec.size) ∨
      ((∀ face, ¬ spec.Parses s face) ∧ typefaceOf s spec = .fixed) := by
  obtain ⟨path, size⟩ := spec
  cases path with
  | none =>
    refine .inr ⟨?_, rfl⟩
    rintro face ⟨_, _, ⟨⟩, -⟩
  | some path =>
    by_cases hf : s.isFile path = true
    · cases hr : s.read path with
      | error e =>
        refine .inr ⟨?_, by simp [typefaceOf, hf, Typeface.load, hr]⟩
        rintro face ⟨_, _, ⟨⟩, -, h, -⟩
        rw [hr] at h
        cases h
      | ok data =>
        cases hp : Face.parse data with
        | none =>
          refine .inr ⟨?_, by simp [typefaceOf, hf, Typeface.load, hr, Typeface.ofBytes?, hp]⟩
          rintro face ⟨_, _, ⟨⟩, -, h, hparse⟩
          rw [hr] at h
          cases h
          rw [hp] at hparse
          cases hparse
        | some face =>
          exact .inl ⟨face, ⟨path, data, rfl, hf, hr, hp⟩, by simp [typefaceOf, hf, Typeface.load, hr, Typeface.ofBytes?, hp]⟩
    · refine .inr ⟨?_, by simp [typefaceOf, hf]⟩
      rintro face ⟨_, _, ⟨⟩, h, -⟩
      exact hf h

theorem typefaceOf_outline_iff (s : Store) (spec : FontSpec) (face : Face) :
    typefaceOf s spec = .outline face spec.size ↔ spec.Parses s face := by
  rcases typefaceOf_cases s spec with ⟨face', hp, heq⟩ | ⟨hnone, heq⟩
  · rw [heq]
    constructor
    · rintro ⟨⟩
      exact hp
    · intro h
      rw [FontSpec.Parses.unique hp h]
  · rw [heq]
    exact ⟨nofun, fun h => absurd h (hnone face)⟩

theorem typefaceOf_fixed_iff (s : Store) (spec : FontSpec) :
    typefaceOf s spec = .fixed ↔ ∀ face, ¬ spec.Parses s face := by
  rcases typefaceOf_cases s spec with ⟨face', hp, heq⟩ | ⟨hnone, heq⟩
  · rw [heq]
    exact ⟨nofun, fun h => absurd hp (h face')⟩
  · rw [heq]
    exact ⟨fun _ => hnone, fun _ => rfl⟩

theorem load_eq (s : Store) (specs : Catalog FontSpec) : load s specs = ⟨insertAll (typefaceOf s) specs []⟩ := rfl

theorem contains_load (s : Store) (specs : Catalog FontSpec) (k : String) :
    (load s specs).contains k = true ↔ k ∈ specs.keys := by
  rw [load_eq, contains, Catalog.contains, isSome_get?_iff, mem_keys_insertAll]
  simp

theorem length_load (s : Store) {specs : Catalog FontSpec} (hmap : specs.keys.Nodup) :
    (load s specs).length = specs.length := by
  rw [load_eq, length, length_insertAll _ hmap]

theorem get_load_of_mem (s : Store) {specs : Catalog FontSpec} (hmap : specs.keys.Nodup) {k : String}
    {spec : FontSpec} (h : (k, spec) ∈ specs) : (load s specs).get k = typefaceOf s spec := by
  rw [load_eq, get, get?_insertAll_of_mem _ hmap _ h]
  rfl

theorem get_load_of_not_mem (s : Store) (specs : Catalog FontSpec) {k : String} (h : k ∉ specs.keys) :
    (load s specs).get k = .fixed := by
  rw [load_eq, get, get?_insertAll_of_not_mem _ _ h]
  rfl

/-- `set` is the font set of the table `specs` over the files of `s`: it holds the table's names
and no other, one entry each; a name of the table holds its font's face, an outline face at the
configured size exactly when the font's file holds one and the built-in face otherwise; every other
name gets the built-in face -/
structure Loaded (s : Store) (specs : Catalog FontSpec) (set : FontSet) : Prop where
  contains_iff : ∀ k, set.contains k = true ↔ k ∈ specs.keys
  length_eq : set.length = specs.length
  get_of_mem : ∀ k spec, (k, spec) ∈ specs → set.get k = typefaceOf s spec
  outline_iff : ∀ k spec, (k, spec) ∈ specs → ∀ face, set.get k = .outline face spec.size ↔ spec.Parses s face
  fixed_iff : ∀ k spec, (k, spec) ∈ specs → (set.get k = .fixed ↔ ∀ face, ¬ spec.Parses s face)
  get_of_not_mem : ∀ k, k ∉ specs.keys → set.get k = .fixed

/-- **Loading fonts** from a table that names each font once never fails and gives its font set:
exactly the table's names, each with its font's face, an outline face at the configured size when
the font's file is there and parses and the built-in face otherwise, and the built-in face for
every other name. -/
theorem load_fonts (s : Store) (specs : Catalog FontSpec) (hmap : specs.keys.Nodup) :
    Loaded s specs (load s specs) where
  contains_iff := contains_load s specs
  length_eq := length_load s hmap
  get_of_mem _ _ h := get_load_of_mem s hmap h
  outline_iff _ spec h face := by rw [get_load_of_mem s hmap h, typefaceOf_outline_iff]
  fixed_iff _ spec h := by rw [get_load_of_mem s hmap h, typefaceOf_fixed_iff]
  get_of_not_mem _ h := get_load_of_not_mem s specs h

/-- A font file with only the tables a face needs: `head` with 1000 units to the em, `hhea`, and
`maxp` with one glyph. -/
def bareFont : ByteArray := ⟨#[0x00, 0x01, 0x00, 0x00, 0x00, 0x03, 0, 0, 0, 0, 0, 0,
  0x68, 0x65, 0x61, 0x64, 0, 0, 0, 0, 0, 0, 0, 60, 0, 0, 0, 54,
  0x68, 0x68, 0x65, 0x61, 0, 0, 0, 0, 0, 0, 0, 114, 0, 0, 0, 36,
  0x6D, 0x61, 0x78, 0x70, 0, 0, 0, 0, 0, 0, 0, 150, 0, 0, 0, 6] ++
  (Array.replicate 18 0 ++ #[0x03, 0xE8] ++ Array.replicate 34 0) ++
  (#[0, 1, 0, 0, 0x03, 0x20, 0xFF, 0x38] ++ Array.replicate 26 0 ++ #[0, 1]) ++
  #[0, 0, 0x50, 0, 0, 1]⟩

/-- a store holding one font file -/
def clockStore : Store := { files := [(["fonts", "clock.ttf"], bareFont)] }

/-- a font table of three fonts: the built-in one, one whose file is in `clockStore`, and one
whose file is not -/
def panelFonts : Catalog FontSpec :=
  [("menu_font", { path := none, size := 12 }), ("clock_font", { path := some "fonts/clock.ttf", size := 24 }),
    ("title_font", { path := some "fonts/title.ttf", size := 16 })]

/-- Three fonts loaded over a store that holds the file of one of them, whose bytes parse. -/
theorem load_fonts_menu :
    (Face.parse bareFont).isSome = true ∧ (keys panelFonts).Nodup ∧ Loaded clockStore panelFonts (load clockStore panelFonts) := by
  have hmap : (keys panelFonts).Nodup := by decide
  exact ⟨by decide +kernel, hmap, load_fonts clockStore panelFonts hmap⟩

end FontSet

end OledPanel
