import OledPanel.Typeface
import OledPanel.Settings

/-!
# Font sets

A font set binds every configured font name to a typeface. A font whose file is given, is a
regular file, and parses is an outline face at its size; every other font, and every name the
set was not built for, is the built-in face.
-/

namespace OledPanel

/-- typefaces by font name -/
structure FontSet where
  fonts : Catalog Typeface

namespace FontSet

/-- The typeface of one configured font. -/
def typefaceOf (s : Store) (spec : FontSpec) : Typeface :=
  match spec.path with
  | some path =>
    if s.isFile path then
      match Typeface.load s path spec.size with
      | .ok tf => tf
      | .error _ => .fixed
    else .fixed
  | none => .fixed

/-- Load every configured font. -/
def load (s : Store) (specs : Catalog FontSpec) : FontSet :=
  ⟨specs.foldl (fun c (k, spec) => c.insert k (typefaceOf s spec)) []⟩

/-- the typeface of a font name, the built-in face for names not configured -/
def get (set : FontSet) (key : String) : Typeface := (set.fonts.get? key).getD .fixed

def contains (set : FontSet) (key : String) : Bool := set.fonts.contains key

def length (set : FontSet) : Nat := set.fonts.length

theorem typefaceOf_none (s : Store) (size : Float32) : typefaceOf s ⟨none, size⟩ = .fixed := rfl

end FontSet

end OledPanel
