import OledPanel.Duration
import OledPanel.Catalog

/-!
# Panel settings

The settings of the panel service: where icons and the boot animations live, which fonts to
load at which size, which services get icons, how large icons are and how long the logo shows.
Every field has a default, the appliance's own layout.

Paths compare as paths, component by component: repeated and trailing separators and inner
`.` components make no difference, so a path written `/a//b/` is the default's `/a/b`.
Settings compare field by field, and sizes and durations as numbers, so a not-a-number value
equals nothing.
-/

namespace OledPanel

/-- a font to load: a file, or none for the built-in face, and an em size in pixels -/
structure FontSpec where
  path : Option String
  size : Float32
  deriving Inhabited

/-- the settings of the panel service -/
structure Settings where
  iconDir : String
  /-- fonts by name, in name order, each name once -/
  fonts : Catalog FontSpec
  logoPath : Option String
  readyGifPath : Option String
  services : List String
  iconSize : Nat
  logoDurationSecs : Float32
  deriving Inhabited

namespace FontSpec

def defaultSize : Float32 := Float32.ofBits 0x41400000

/-- a font with neither file nor size: the built-in face at the default size -/
def empty : FontSpec := ⟨none, defaultSize⟩

end FontSpec

namespace Settings

def defaultIconDir : String := "/home/volumio/Quadify/src/assets/images/menus"

def defaultServices : List String :=
  ["stream", "library", "playlists", "qobuz", "tidal", "airplay", "spop", "spotify", "webradio",
    "motherearthradio", "radio_paradise", "mpd", "default", "nas", "usb", "back", "config",
    "irremote", "volume", "displaysettings", "clocksettings", "screensaversettings",
    "systeminfo", "systemupdate"]

def defaultIconSize : Nat := 35

def defaultLogoSecs : Float32 := Float32.ofBits 0x40A00000

/-- the appliance's settings -/
def default : Settings :=
  ⟨defaultIconDir, [], none, none, defaultServices, defaultIconSize, defaultLogoSecs⟩

def logoDuration (c : Settings) : Duration := Duration.ofSecsOrZero c.logoDurationSecs

def insertFont (fonts : Catalog FontSpec) (k : String) (v : FontSpec) : Catalog FontSpec :=
  fonts.insert k v

end Settings

/-- The components of a path: the root, a leading `.`, and the names, without empty and inner
`.` components. -/
def pathComponents (p : String) : List String :=
  let parts := p.splitOn "/"
  let names (xs : List String) := xs.filter fun c => c ≠ "" ∧ c ≠ "."
  if p.startsWith "/" then "/" :: names parts
  else match parts with
    | "." :: rest => "." :: names rest
    | _ => names parts

def samePath (a b : String) : Bool := pathComponents a == pathComponents b

def sameOptionalPath : Option String → Option String → Bool
  | none, none => true
  | some a, some b => samePath a b
  | _, _ => false

namespace FontSpec

/-- same file and an equal size -/
def same (a b : FontSpec) : Bool := sameOptionalPath a.path b.path && a.size == b.size

end FontSpec

namespace Settings

def sameFonts : List (String × FontSpec) → List (String × FontSpec) → Bool
  | [], [] => true
  | (k, v) :: r, (k', v') :: r' => k == k' && v.same v' && sameFonts r r'
  | _, _ => false

/-- whether two settings agree field by field -/
def same (a b : Settings) : Bool :=
  samePath a.iconDir b.iconDir && sameFonts a.fonts b.fonts &&
    sameOptionalPath a.logoPath b.logoPath && sameOptionalPath a.readyGifPath b.readyGifPath &&
    a.services == b.services && a.iconSize == b.iconSize && a.logoDurationSecs == b.logoDurationSecs

def isDefault (c : Settings) : Bool := c.same default

end Settings

end OledPanel
