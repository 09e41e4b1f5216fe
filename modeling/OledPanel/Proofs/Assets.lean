import OledPanel.Proofs.Pixels
import OledPanel.Proofs.Catalog

/-!
# Assets read from files

Icons and animations are read from image files, flattened over black, and scaled where asked.

Flattening keeps a picture's size. A picture without alpha becomes its RGB view; in one with alpha
each channel of a pixel is scaled by the pixel's coverage and rounded down (`OverBlack`). The
product of a channel and a coverage is below `2 ^ 16`, so computing it in 32 bits loses nothing,
and the quotient fits a byte.

An icon set is built for a list of service names and never fails: its fallback is the `default`
icon of the directory, or a grey square when that does not decode, and each name holds its own
file's icon, or the fallback when it is `default` or its file does not decode (`fileIcon`). It holds
each name once, and every icon it gives, the fallback included, is a square of its size.

An animation opened from a file is the decoder's frames flattened, each showing for some time:
those of a GIF or an animated PNG with their delays (`AnimatedSource`), or the one image of another
PNG (`StillSource`); no other name opens. Fitting an animation to a size scales each frame that
is not of it, so fitting twice is fitting once.

- `flatten_over_black`: flattening, all of it.
- `load_icons`: the icon set, all of it.
- `ofFile_ok`, `ofFile_frames_shown`: what an opened animation is made of.
- `fitted_eq_map_resample`, `fitted_fitted`: fitting to a size.
- `animations_hold_frames`: the animations, all of it.
-/

namespace OledPanel

namespace Raster

theorem valid_filled (w h : Nat) (c : Rgb) : (filled w h c).Valid := by
  simp [Valid, filled, ByteArray.size]

end Raster

namespace Picture

theorem valid_flatten (p : Picture) : p.flatten.Valid := by
  unfold flatten
  split
  · exact valid_tabulate _ _ _
  · exact valid_tabulate _ _ _

/-! ## Compositing over black -/

theorem mul_toNat_le (c a : UInt8) : c.toNat * a.toNat ≤ 255 * 255 :=
  Nat.mul_le_mul (Nat.le_of_lt_succ c.toNat_lt) (Nat.le_of_lt_succ a.toNat_lt)

theorem toNat_cover (c a : UInt8) : (cover c a).toNat = c.toNat * a.toNat / 255 := by
  have hlt : c.toNat * a.toNat / 255 < 256 := by have := mul_toNat_le c a; omega
  simp only [cover, Nat.toUInt8_eq, UInt8.toNat_ofNat', Nat.mod_eq_of_lt hlt]

/-- The same channel computed in 32 bits and narrowed to a byte: the product never wraps. -/
theorem cover_eq_u32 (c a : UInt8) : cover c a = (c.toUInt32 * a.toUInt32 / 255).toUInt8 := by
  have hle := mul_toNat_le c a
  have hprod : c.toNat * a.toNat < 2 ^ 32 := Nat.lt_of_le_of_lt hle (by decide)
  apply UInt8.toNat_inj.mp
  rw [toNat_cover]
  simp only [UInt32.toNat_toUInt8, UInt32.toNat_div, UInt32.toNat_mul, UInt8.toNat_toUInt32,
    Nat.mod_eq_of_lt hprod, UInt32.reduceToNat]
  omega

theorem cover_le_coverage (c a : UInt8) : (cover c a).toNat ≤ a.toNat := by
  rw [toNat_cover]
  have h : c.toNat * a.toNat ≤ 255 * a.toNat := Nat.mul_le_mul_right _ (Nat.le_of_lt_succ c.toNat_lt)
  exact Nat.div_le_of_le_mul h

theorem cover_full (c : UInt8) : cover c 255 = c := by
  apply UInt8.toNat_inj.mp
  rw [toNat_cover]
  exact Nat.mul_div_cancel _ (by decide)

theorem cover_clear (c : UInt8) : cover c 0 = 0 := by
  apply UInt8.toNat_inj.mp
  rw [toNat_cover]
  simp

/-- `d` is colour `c` of coverage `a` laid over black: each channel is `⌊channel * a / 255⌋`, as
the 32-bit product divided and narrowed to a byte gives it, with no wrap and no loss; so a fully
covering colour is kept, a clear one is black, and no channel exceeds its colour or the coverage -/
structure OverBlack (c : Rgb) (a : UInt8) (d : Rgb) : Prop where
  narrowed : d = ⟨(c.r.toUInt32 * a.toUInt32 / 255).toUInt8, (c.g.toUInt32 * a.toUInt32 / 255).toUInt8,
    (c.b.toUInt32 * a.toUInt32 / 255).toUInt8⟩
  value : d.r.toNat = c.r.toNat * a.toNat / 255 ∧ d.g.toNat = c.g.toNat * a.toNat / 255 ∧
    d.b.toNat = c.b.toNat * a.toNat / 255
  full : a = 255 → d = c
  clear : a = 0 → d = Rgb.black
  le_min : d.r.toNat ≤ min c.r.toNat a.toNat ∧ d.g.toNat ≤ min c.g.toNat a.toNat ∧
    d.b.toNat ≤ min c.b.toNat a.toNat

theorem overBlack_cover (c : Rgb) (a : UInt8) : OverBlack c a ⟨cover c.r a, cover c.g a, cover c.b a⟩ where
  narrowed := by rw [cover_eq_u32, cover_eq_u32, cover_eq_u32]
  value := ⟨toNat_cover _ _, toNat_cover _ _, toNat_cover _ _⟩
  full := by
    rintro rfl
    rw [cover_full, cover_full, cover_full]
  clear := by
    rintro rfl
    rw [cover_clear, cover_clear, cover_clear]
    rfl
  le_min := ⟨Nat.le_min.2 ⟨cover_le _ _, cover_le_coverage _ _⟩, Nat.le_min.2 ⟨cover_le _ _, cover_le_coverage _ _⟩,
    Nat.le_min.2 ⟨cover_le _ _, cover_le_coverage _ _⟩⟩

theorem width_flatten (p : Picture) : p.flatten.width = p.width := by
  unfold flatten
  split <;> rfl

theorem height_flatten (p : Picture) : p.flatten.height = p.height := by
  unfold flatten
  split <;> rfl

theorem flatten_of_hasAlpha_false {p : Picture} (h : p.channels.hasAlpha = false) : p.flatten = p.toRaster := by
  rw [flatten, if_neg (by rw [h]; decide)]

/-- With alpha, each pixel is its colour laid over black by its coverage. -/
theorem pixel_flatten {p : Picture} (h : p.channels.hasAlpha = true) {x y : Nat} (hx : x < p.width)
    (hy : y < p.height) :
    p.flatten.pixel x y = ⟨cover (p.rgba8 x y).1.r (p.rgba8 x y).2, cover (p.rgba8 x y).1.g (p.rgba8 x y).2,
      cover (p.rgba8 x y).1.b (p.rgba8 x y).2⟩ := by
  rw [flatten, if_pos h, pixel_tabulate _ _ _ hx hy]

/-- **Flattening** keeps the size and gives three bytes a pixel. A picture without alpha becomes
its RGB view; in one with alpha each pixel is its colour laid over black by its coverage, each
channel scaled and rounded down in 32 bits with no wrap and no loss (`OverBlack`). -/
theorem flatten_over_black (p : Picture) :
    p.flatten.width = p.width ∧ p.flatten.height = p.height ∧ p.flatten.Valid ∧
    (p.channels.hasAlpha = false → p.flatten = p.toRaster) ∧
    (p.channels.hasAlpha = true → ∀ x y, x < p.width → y < p.height →
      OverBlack (p.rgba8 x y).1 (p.rgba8 x y).2 (p.flatten.pixel x y)) := by
  refine ⟨width_flatten p, height_flatten p, valid_flatten p, flatten_of_hasAlpha_false, ?_⟩
  intro h x y hx hy
  rw [pixel_flatten h hx hy]
  exact overBlack_cover _ _

end Picture

namespace IconSet

open Catalog

variable {s : Store} {path : String} {size : Nat}

theorem loadIcon_ok {p : Picture} (h : Picture.ofFile s path = .ok p) :
    loadIcon s path size = .ok (p.flatten.resample size size) := by
  simp [loadIcon, h]

theorem loadIcon_error {e : ImageError} (h : Picture.ofFile s path = .error e) :
    loadIcon s path size = .error e := by
  simp [loadIcon, h]

/-- The icon a file gives: the image flattened over black and scaled to a `size` square, or
`fallback` when the file cannot be opened or decoded. -/
def fileIcon (s : Store) (path : String) (size : Nat) (fallback : Raster) : Raster :=
  match Picture.ofFile s path with
  | .ok p => p.flatten.resample size size
  | .error _ => fallback

theorem fileIcon_eq (fallback : Raster) :
    (match loadIcon s path size with | .ok r => r | .error _ => fallback) = fileIcon s path size fallback := by
  unfold fileIcon
  cases h : Picture.ofFile s path with
  | ok p => rw [loadIcon_ok h]
  | error e => rw [loadIcon_error h]

theorem fileIcon_square {fallback : Raster} (hf : fallback.size = (size, size) ∧ fallback.Valid) :
    (fileIcon s path size fallback).size = (size, size) ∧ (fileIcon s path size fallback).Valid := by
  unfold fileIcon
  cases Picture.ofFile s path with
  | ok p => exact ⟨Raster.size_resample _ _ _, Raster.valid_resample (Picture.valid_flatten p) _ _⟩
  | error e => exact hf

/-- The fallback is the default icon, or a grey square when that does not decode. -/
theorem fallback_load (s : Store) (dir : String) (names : List String) (size : Nat) :
    (load s dir names size).fallback =
      fileIcon s (Store.join dir "default.png") size (Raster.filled size size ⟨128, 128, 128⟩) :=
  fileIcon_eq (placeholder size)

theorem fallback_square (s : Store) (dir : String) (names : List String) (size : Nat) :
    (load s dir names size).fallback.size = (size, size) ∧ (load s dir names size).fallback.Valid := by
  rw [fallback_load]
  exact fileIcon_square ⟨rfl, Raster.valid_filled _ _ _⟩

theorem icons_load (s : Store) (dir : String) (names : List String) (size : Nat) :
    (load s dir names size).icons = build (fun name =>
      if name = "default" then (load s dir names size).fallback
      else fileIcon s (Store.join dir (name ++ ".png")) size (load s dir names size).fallback) names [] := by
  unfold load build
  dsimp only
  congr 1
  funext c name
  congr 1
  exact if_congr Iff.rfl rfl (fileIcon_eq _)

theorem get?_icons_load (s : Store) (dir : String) (names : List String) (size : Nat) (n : String) :
    (load s dir names size).icons.get? n = if n ∈ names then
      some (if n = "default" then (load s dir names size).fallback
        else fileIcon s (Store.join dir (n ++ ".png")) size (load s dir names size).fallback)
    else none := by
  rw [icons_load, get?_build]
  rfl

theorem get_load_of_mem (s : Store) (dir : String) {names : List String} (size : Nat) {n : String} (h : n ∈ names) :
    (load s dir names size).get n = if n = "default" then (load s dir names size).fallback
      else fileIcon s (Store.join dir (n ++ ".png")) size (load s dir names size).fallback := by
  rw [get, get?_icons_load, if_pos h]
  rfl

theorem get_load_of_not_mem (s : Store) (dir : String) {names : List String} (size : Nat) {n : String} (h : n ∉ names) :
    (load s dir names size).get n = (load s dir names size).fallback := by
  rw [get, get?_icons_load, if_neg h]
  rfl

theorem contains_load (s : Store) (dir : String) (names : List String) (size : Nat) (n : String) :
    (load s dir names size).contains n = true ↔ n ∈ names := by
  rw [contains, Catalog.contains, get?_icons_load]
  by_cases h : n ∈ names <;> simp [h]

theorem length_load (s : Store) (dir : String) (names : List String) (size : Nat) :
    (load s dir names size).length = names.toFinset.card := by
  rw [length, icons_load, length_build]

theorem get_load_square (s : Store) (dir : String) (names : List String) (size : Nat) (n : String) :
    ((load s dir names size).get n).size = (size, size) ∧ ((load s dir names size).get n).Valid := by
  by_cases h : n ∈ names
  · rw [get_load_of_mem s dir size h]
    split
    · exact fallback_square s dir names size
    · exact fileIcon_square (fallback_square s dir names size)
  · rw [get_load_of_not_mem s dir size h]
    exact fallback_square s dir names size

/-- **Loading an icon set** never fails. Its fallback is the default icon read from the directory,
or a grey square; it holds exactly the names it was built for, each once; each holds the fallback
when it is `default` or its file does not decode, and its file's icon otherwise; every other name
gets the fallback; and every icon is a square of the set's size. -/
theorem load_icons (s : Store) (dir : String) (names : List String) (size : Nat) :
    let set := load s dir names size
    set.fallback = fileIcon s (Store.join dir "default.png") size (Raster.filled size size ⟨128, 128, 128⟩) ∧
    set.length = names.toFinset.card ∧
    (∀ n, set.contains n = true ↔ n ∈ names) ∧
    (∀ n ∈ names, set.get n =
      if n = "default" then set.fallback else fileIcon s (Store.join dir (n ++ ".png")) size set.fallback) ∧
    (∀ n, n ∉ names → set.get n = set.fallback) ∧
    (∀ n, (set.get n).size = (size, size) ∧ (set.get n).Valid) :=
  ⟨fallback_load s dir names size, length_load s dir names size, contains_load s dir names size,
    fun _ h => get_load_of_mem s dir size h, fun _ h => get_load_of_not_mem s dir size h,
    get_load_square s dir names size⟩

end IconSet

namespace Animation

/-- The composed frames of an animation file, each with its own delay: a GIF, or a PNG with an
animation control. -/
def AnimatedSource (s : Store) (path : String) (ls : List (Layer × Duration)) : Prop :=
  ∃ bytes, readImageFile s path = .ok bytes ∧
    ((ImageFormat.ofPath path = .ok .gif ∧ Gif.decode bytes = .ok ls) ∨
     (ImageFormat.ofPath path = .ok .png ∧ ∃ info, Png.readInfo bytes = .ok info ∧ info.animated = true ∧
       Png.decodeAnimation bytes info = .ok ls))

/-- The one image of a PNG file without an animation control. -/
def StillSource (s : Store) (path : String) (pic : Picture) : Prop :=
  ∃ bytes, readImageFile s path = .ok bytes ∧ ImageFormat.ofPath path = .ok .png ∧
    ∃ info, Png.readInfo bytes = .ok info ∧ info.animated = false ∧ Png.decodeStill bytes = .ok pic

theorem ofFrames_ok_iff (v : List AnimationFrame) (a : Animation) : ofFrames v = .ok a ↔ v ≠ [] ∧ a.frames = v := by
  unfold ofFrames
  split
  · rename_i hv
    simp [hv]
  · rename_i hv
    constructor
    · rintro ⟨⟩
      exact ⟨hv, rfl⟩
    · rintro ⟨-, rfl⟩
      rfl

theorem ofFrames_error_iff (v : List AnimationFrame) : ofFrames v = .error .emptyAnimation ↔ v = [] := by
  unfold ofFrames
  split
  · rename_i hv
    simp [hv]
  · rename_i hv
    simp [hv]

theorem bind_eq_ok {ε α β : Type} {x : Except ε α} {f : α → Except ε β} {b : β} :
    x >>= f = .ok b ↔ ∃ a, x = .ok a ∧ f a = .ok b := by
  cases x <;> simp [bind, Except.bind]

/-- The frames of a PNG stream are its composed frames when it is animated, and its image for the
default delay otherwise. -/
theorem pngFrames_ok {bytes : ByteArray} {frames : List AnimationFrame} (h : pngFrames bytes = .ok frames) :
    ∃ info, Png.readInfo bytes = .ok info ∧
      ((info.animated = true ∧ ∃ ls, Png.decodeAnimation bytes info = .ok ls ∧ frames = framesOfLayers ls) ∨
       (info.animated = false ∧ ∃ pic, Png.decodeStill bytes = .ok pic ∧ frames = [⟨pic.flatten, defaultDelay⟩])) := by
  unfold pngFrames at h
  obtain ⟨info, hinfo, h⟩ := bind_eq_ok.1 h
  refine ⟨info, hinfo, ?_⟩
  cases hanim : info.animated
  · simp only [hanim, Bool.false_eq_true, if_false] at h
    obtain ⟨pic, hpic, h⟩ := bind_eq_ok.1 h
    exact .inr ⟨rfl, pic, hpic, (Except.ok.inj h).symm⟩
  · simp only [hanim, if_true] at h
    obtain ⟨ls, hls, h⟩ := bind_eq_ok.1 h
    exact .inl ⟨rfl, ls, hls, (Except.ok.inj h).symm⟩

/-- **An opened animation** is the decoder's frames, flattened: the composed frames of a GIF or an
animated PNG with zero delays replaced, or the image of another PNG for the default delay. Other
names never open. -/
theorem ofFile_ok {s : Store} {path : String} {a : Animation} (h : ofFile s path = .ok a) :
    (∃ ls, AnimatedSource s path ls ∧ a.frames = framesOfLayers ls) ∨
    (∃ pic, StillSource s path pic ∧ a.frames = [⟨pic.flatten, defaultDelay⟩]) := by
  unfold ofFile at h
  split at h
  case h_1 hgif =>
    obtain ⟨bytes, hread, h⟩ := bind_eq_ok.1 h
    split at h
    case h_1 ls hls => exact .inl ⟨ls, ⟨bytes, hread, .inl ⟨hgif, hls⟩⟩, ((ofFrames_ok_iff _ a).1 h).2⟩
    case h_2 => cases h
  case h_2 hpng =>
    obtain ⟨bytes, hread, h⟩ := bind_eq_ok.1 h
    split at h
    case h_1 frames hframes =>
      have ha := ((ofFrames_ok_iff _ a).1 h).2
      obtain ⟨info, hinfo, ⟨hanim, ls, hls, rfl⟩ | ⟨hanim, pic, hpic, rfl⟩⟩ := pngFrames_ok hframes
      · exact .inl ⟨ls, ⟨bytes, hread, .inr ⟨hpng, info, hinfo, hanim, hls⟩⟩, ha⟩
      · exact .inr ⟨pic, ⟨bytes, hread, hpng, info, hinfo, hanim, hpic⟩, ha⟩
    case h_2 => cases h
  case h_3 =>
    -- every other name is refused, whatever the file holds
    exfalso
    repeat' split at h
    all_goals cases h

theorem ext_frames {a b : Animation} (h : a.frames = b.frames) : a = b := by
  obtain ⟨fa, _⟩ := a
  obtain ⟨fb, _⟩ := b
  cases h
  rfl

theorem toNanos_nonZero_pos (d : Duration) : 0 < (nonZero d).toNanos := by
  unfold nonZero
  split
  · decide
  · rename_i hd
    obtain ⟨secs, nanos⟩ := d
    have : secs ≠ 0 ∨ nanos ≠ 0 := by
      by_contra hz
      exact hd (by simp_all [Duration.zero])
    unfold Duration.toNanos Duration.nanosPerSec
    dsimp only
    omega

theorem isAnimated_iff (a : Animation) : a.isAnimated = true ↔ 2 ≤ a.length := by
  simp only [isAnimated, decide_eq_true_eq]
  omega

theorem totalDuration_eq (a : Animation) :
    a.totalDuration.toNanos = (a.frames.map (·.delay.toNanos)).foldr (· + ·) 0 ∧
      a.totalDuration.nanos < Duration.nanosPerSec := by
  unfold totalDuration Duration.ofNanos Duration.toNanos
  exact ⟨Nat.div_add_mod' _ _, Nat.mod_lt _ (by decide)⟩

/-- The frames of composed layers, written out: each layer flattened over black, a delay of zero
shown for a tenth of a second. -/
theorem framesOfLayers_eq (ls : List (Layer × Duration)) :
    framesOfLayers ls = ls.map fun (l, d) =>
      ⟨l.toPicture.flatten, if d = Duration.zero then Duration.ofMillis 100 else d⟩ := rfl

theorem ofFile_frames_shown {s : Store} {path : String} {a : Animation} (h : ofFile s path = .ok a) :
    ∀ f ∈ a.frames, 0 < f.delay.toNanos ∧ f.image.Valid := by
  intro f hf
  rcases ofFile_ok h with ⟨ls, -, hframes⟩ | ⟨pic, -, hframes⟩
  · rw [hframes, framesOfLayers, List.mem_map] at hf
    obtain ⟨⟨l, d⟩, -, rfl⟩ := hf
    exact ⟨toNanos_nonZero_pos d, Picture.valid_flatten _⟩
  · rw [hframes, List.mem_singleton] at hf
    subst hf
    exact ⟨show 0 < defaultDelay.toNanos by decide, Picture.valid_flatten pic⟩

/-! ## Fitting to a screen -/

theorem length_fitted (a : Animation) (w h : Nat) : (a.fitted w h).length = a.length := by
  simp [fitted, length]

theorem delays_fitted (a : Animation) (w h : Nat) :
    (a.fitted w h).frames.map (·.delay) = a.frames.map (·.delay) := by
  simp only [fitted, List.map_map]
  refine List.map_congr_left fun f _ => ?_
  simp only [Function.comp]
  split <;> rfl

theorem getElem?_fitted_of_size (a : Animation) {w h i : Nat} {f : AnimationFrame} (hf : a.frames[i]? = some f)
    (hs : f.image.size = (w, h)) : (a.fitted w h).frames[i]? = some f := by
  simp only [fitted, List.getElem?_map, hf, Option.map_some]
  rw [if_pos (Raster.size_eq_iff.1 hs)]

/-- Fitting frames of well-formed rasters is scaling each to the size. -/
theorem fitted_eq_map_resample {a : Animation} (hv : ∀ f ∈ a.frames, f.image.Valid) (w h : Nat) :
    (a.fitted w h).frames = a.frames.map fun f => { f with image := f.image.resample w h } := by
  refine List.map_congr_left fun f hf => ?_
  split
  · rename_i hs
    rw [Raster.resample_of_size (hv f hf) hs.1 hs.2]
  · rfl

theorem fitted_fitted (a : Animation) (w h : Nat) : (a.fitted w h).fitted w h = a.fitted w h := by
  apply ext_frames
  show ((a.fitted w h).frames.map _) = _
  refine (List.map_congr_left fun f hf => ?_).trans (List.map_id _)
  rw [if_pos (Raster.size_eq_iff.1 (size_fitted a w h f hf))]
  rfl

/-- **Animations.** An opened animation has at least one frame, each showing for some time, and
its frames are the decoder's: the composed frames of a GIF or an animated PNG, each flattened over
black, with a delay of zero shown for a tenth of a second, or the one image of another PNG,
flattened, for a tenth of a second. Frames make an animation exactly when there is one. Fitting
to a size keeps the frames' number, order and delays, brings every image to the size, keeps those
already of it, scales well-formed ones, and fitting again changes nothing. An animation is
animated when it has two frames or more, and one pass lasts the sum of the delays. -/
theorem animations_hold_frames (s : Store) (path : String) :
    (match ofFile s path with
      | .ok a => 0 < a.length ∧ (∀ f ∈ a.frames, 0 < f.delay.toNanos ∧ f.image.Valid) ∧
        ((∃ ls, AnimatedSource s path ls ∧ a.frames = ls.map fun (l, d) =>
            ⟨l.toPicture.flatten, if d = Duration.zero then Duration.ofMillis 100 else d⟩) ∨
          (∃ pic, StillSource s path pic ∧ a.frames = [⟨pic.flatten, Duration.ofMillis 100⟩]))
      | .error _ => True) ∧
    (∀ v, (ofFrames v = .error .emptyAnimation ↔ v = []) ∧ ∀ a, ofFrames v = .ok a ↔ v ≠ [] ∧ a.frames = v) ∧
    (∀ (a : Animation) (w h : Nat),
      (a.fitted w h).length = a.length ∧
      (a.fitted w h).frames.map (·.delay) = a.frames.map (·.delay) ∧
      (∀ f ∈ (a.fitted w h).frames, f.image.size = (w, h)) ∧
      (∀ (i : Nat) (f : AnimationFrame), a.frames[i]? = some f → f.image.size = (w, h) →
        (a.fitted w h).frames[i]? = some f) ∧
      ((∀ f ∈ a.frames, f.image.Valid) →
        (a.fitted w h).frames = a.frames.map fun f => { f with image := f.image.resample w h }) ∧
      (a.fitted w h).fitted w h = a.fitted w h) ∧
    (∀ a : Animation, (a.isAnimated = true ↔ 2 ≤ a.length) ∧
      a.totalDuration.toNanos = (a.frames.map (·.delay.toNanos)).foldr (· + ·) 0 ∧
      a.totalDuration.nanos < Duration.nanosPerSec) := by
  refine ⟨?_, fun v => ⟨ofFrames_error_iff v, ofFrames_ok_iff v⟩,
    fun a w h => ⟨length_fitted a w h, delays_fitted a w h, size_fitted a w h,
      fun _ _ hf hs => getElem?_fitted_of_size a hf hs, fun hv => fitted_eq_map_resample hv w h,
      fitted_fitted a w h⟩,
    fun a => ⟨isAnimated_iff a, totalDuration_eq a⟩⟩
  split
  · rename_i a h
    exact ⟨List.length_pos_iff.2 a.nonempty, ofFile_frames_shown h, ofFile_ok h⟩
  · trivial

end Animation

end OledPanel
