import OledPanel.Image.Still
import OledPanel.Resample
import OledPanel.Catalog

/-!
# Icon sets

An icon set holds a square RGB icon for every service it was built for, read from
`<dir>/<name>.png`, flattened over black and scaled to the set's size. Building never fails:

* the fallback is the `default` icon, or a grey square when that cannot be read;
* a service whose icon cannot be read, and the service named `default`, get the fallback.

Looking up a service the set was not built for gives the fallback too.
-/

namespace OledPanel

/-- icons by service name, all of one size, and the icon for everything else -/
structure IconSet where
  icons : Catalog Raster
  fallback : Raster
  size : Nat

namespace IconSet

def defaultName : String := "default"

def placeholderGrey : Rgb := ⟨128, 128, 128⟩

def placeholder (size : Nat) : Raster := Raster.filled size size placeholderGrey

def iconPath (dir name : String) : String := Store.join dir (name ++ ".png")

def loadIcon (s : Store) (path : String) (size : Nat) : Except ImageError Raster := do
  let pic ← Picture.ofFile s path
  pure (pic.flatten.resample size size)

/-- Build the icons of the named services from a directory, at a size. -/
def load (s : Store) (dir : String) (names : List String) (size : Nat) : IconSet :=
  let fallback := match loadIcon s (iconPath dir defaultName) size with
    | .ok r => r
    | .error _ => placeholder size
  let icon (name : String) : Raster :=
    if name = defaultName then fallback
    else match loadIcon s (iconPath dir name) size with
      | .ok r => r
      | .error _ => fallback
  ⟨names.foldl (fun c name => c.insert name (icon name)) [], fallback, size⟩

/-- the icon of a service, or the fallback -/
def get (set : IconSet) (name : String) : Raster := (set.icons.get? name).getD set.fallback

def contains (set : IconSet) (name : String) : Bool := set.icons.contains name

def length (set : IconSet) : Nat := set.icons.length

/-- the services, in name order -/
def names (set : IconSet) : List String := set.icons.keys

theorem get_of_not_contains (set : IconSet) (name : String) :
    set.contains name = false → set.get name = set.fallback := by
  intro h
  unfold contains Catalog.contains at h
  simp only [Option.isSome_eq_false_iff, Option.isNone_iff_eq_none] at h
  simp [get, h]

end IconSet

end OledPanel
