import OledPanel.Display.Ssd1306
import OledPanel.Proofs.Layout

/-!
# What a panel puts on the bus

An SSD1306 panel is a two-state machine: it shows nothing until a start succeeds, and a start that
fails leaves it as it was. Showing a frame checks, before any traffic, that the panel is started
and that the frame is 128 × 64. It then clears the controller's buffer, lights in it each pixel the
frame lights, and sends the address window and the whole buffer. The buffer is cleared first, so
it ends holding exactly the frame's lit pixels: pixel `(x, y)` is bit `y % 8` of byte
`y / 8 * 128 + x`, and nothing of an earlier frame is left in it.

- `Bus.writeAll_taken`, `Bus.writeAll_fst_iff`: transactions in a row go through exactly when the bus
  takes every one of them, and are then recorded as sent.
- `testBit_setPixel`: lighting a pixel sets its bit of the buffer and no other (the step lemma);
  `testBit_drawRows`: drawing rows of a frame sets the bits of the pixels it lights (the run
  lemma); `drawFrame_blank`: drawn into a clear buffer, a frame gives its pages (`frameBuffer`).
- `flushWrites_frameBuffer`: flushing those pages sends the frame's transactions (`frameWrites`).
- `display_uninitialized`, `display_misfit`, `display_fit`, `start_failed`: one call.
- `initialized_performAll`: the run lemma of calls; a panel is started after some calls exactly
  when it was before or one of the starts among them succeeded.
- `testBit_displayData`: the data bytes of a frame hold its lit pixels.
- `panel_traffic`: all of it.
-/

namespace OledPanel

namespace Bus

/-- the bus takes its next `n` transactions: it refuses none of their numbers -/
def Takes (b : Bus) (n : Nat) : Prop := ∀ i < n, b.log.size + 1 + i ∉ b.refusals

theorem write_taken (b : Bus) (a : Nat) (w : List UInt8) (h : b.log.size + 1 ∉ b.refusals) :
    b.write a w = (true, { b with log := b.log.push ⟨a, some w⟩ }) := by
  simp [write, h]

theorem write_refused (b : Bus) (a : Nat) (w : List UInt8) (h : b.log.size + 1 ∈ b.refusals) :
    (b.write a w).1 = false := by
  simp [write, h]

theorem takes_push {b : Bus} (e : BusWrite) (n : Nat) (h : b.log.size + 1 ∉ b.refusals) :
    Takes { b with log := b.log.push e } n ↔ b.Takes (n + 1) := by
  constructor
  · intro hn i hi
    cases i with
    | zero => exact h
    | succ i =>
      have := hn i (by omega)
      simp only [Array.size_push] at this
      rwa [Nat.add_right_comm, Nat.add_assoc] at this
  · intro hn i hi
    have := hn (i + 1) (by omega)
    simp only [Array.size_push]
    rwa [Nat.add_right_comm, Nat.add_assoc]

theorem writeAll_taken (b : Bus) (a : Nat) (ws : List (List UInt8)) (h : b.Takes ws.length) :
    b.writeAll a ws = (true, { b with log := b.log ++ (ws.map fun w => ⟨a, some w⟩).toArray }) := by
  induction ws generalizing b with
  | nil => simp [writeAll]
  | cons w ws ih =>
    have h0 : b.log.size + 1 ∉ b.refusals := by simpa using h 0 (by simp)
    have hrest := (takes_push ⟨a, some w⟩ ws.length h0).2 h
    rw [writeAll, write_taken b a w h0]
    simp only
    rw [ih _ hrest]
    simp

/-- Transactions in a row go through exactly when the bus takes every one of them. -/
theorem writeAll_fst_iff (b : Bus) (a : Nat) (ws : List (List UInt8)) :
    (b.writeAll a ws).1 = true ↔ b.Takes ws.length := by
  refine ⟨fun h => ?_, fun h => by rw [writeAll_taken b a ws h]⟩
  induction ws generalizing b with
  | nil => intro i hi; simp at hi
  | cons w ws ih =>
    by_cases h0 : b.log.size + 1 ∈ b.refusals
    · -- the first is refused and the run stops there
      rw [writeAll] at h
      split at h
      · rename_i b' hw
        have := write_refused b a w h0
        rw [hw] at this
        cases this
      · cases h
    · rw [writeAll, write_taken b a w h0] at h
      exact (takes_push ⟨a, some w⟩ ws.length h0).1 (ih _ h)

end Bus

namespace Ssd1306

/-! ## Bits of a byte -/

theorem testBit_or_bit (acc : UInt8) {b : Nat} (hb : b < 8) (j : Nat) :
    (acc ||| (1 <<< b.toUInt8)).toNat.testBit j = (acc.toNat.testBit j || decide (b = j)) := by
  have hmod : b.toUInt8.toNat % 8 = b := by simp [Nat.toUInt8]; omega
  have hbit : ((1 : UInt8) <<< b.toUInt8).toNat = 2 ^ b := by
    rw [UInt8.toNat_shiftLeft, hmod, UInt8.toNat_one, Nat.one_shiftLeft]
    exact Nat.mod_eq_of_lt (Nat.pow_lt_pow_right (by decide) hb)
  rw [UInt8.toNat_or, Nat.testBit_or, hbit, Nat.testBit_two_pow]

/-- Setting the bits `bs` where `L` holds: bit `j` is set when it was, or `j` is one of them and
`L j` holds. -/
theorem testBit_foldl_bits (L : Nat → Bool) (bs : List Nat) (hbs : ∀ b ∈ bs, b < 8) (acc : UInt8) (j : Nat) :
    (bs.foldl (fun acc b => if L b then acc ||| (1 <<< b.toUInt8) else acc) acc).toNat.testBit j =
      (acc.toNat.testBit j || (decide (j ∈ bs) && L j)) := by
  induction bs generalizing acc with
  | nil => simp
  | cons b bs ih =>
    rw [List.foldl_cons, ih (fun b' hb' => hbs b' (List.mem_cons_of_mem b hb'))]
    by_cases hL : L b
    · rw [if_pos hL, testBit_or_bit acc (hbs b List.mem_cons_self)]
      by_cases hbj : b = j
      · subst hbj
        simp [hL]
      · simp [hbj, Ne.symm hbj]
    · rw [if_neg hL]
      by_cases hbj : b = j
      · subst hbj
        simp [hL]
      · simp [Ne.symm hbj]

theorem testBit_pageByte (f : Frame) (page x : Nat) {j : Nat} (hj : j < 8) :
    (pageByte f page x).toNat.testBit j = lit f x (8 * page + j) := by
  unfold pageByte
  rw [testBit_foldl_bits _ _ (fun b hb => List.mem_range.1 hb)]
  simp [hj]

/-! ## The controller's buffer -/

theorem and_not_or_self (b m : UInt8) : b &&& ~~~m ||| m = b ||| m := by
  apply UInt8.toBitVec_inj.mp
  simp only [UInt8.toBitVec_or, UInt8.toBitVec_and, UInt8.toBitVec_not]
  ext i
  simp only [BitVec.getElem_or, BitVec.getElem_and, BitVec.getElem_not]
  cases b.toBitVec[i] <;> cases m.toBitVec[i] <;> rfl

theorem testBit_toNat_of_le (b : UInt8) {j : Nat} (hj : 8 ≤ j) : b.toNat.testBit j = false :=
  Nat.testBit_lt_two_pow (Nat.lt_of_lt_of_le b.toNat_lt (Nat.pow_le_pow_right (by decide) hj))

/-- the buffer that shows a frame: byte `x` of page `p` at `p * 128 + x` -/
def frameBuffer (f : Frame) : Vector UInt8 1024 := Vector.ofFn fun i => pageByte f (i.val / 128) (i.val % 128)

theorem getElem_frameBuffer (f : Frame) {i : Nat} (hi : i < 1024) :
    (frameBuffer f)[i] = pageByte f (i / 128) (i % 128) := by
  simp [frameBuffer]

/-- **Step lemma.** Lighting pixel `(x, y)` sets bit `y % 8` of byte `y / 8 * 128 + x` and no
other bit of the buffer. -/
theorem testBit_setPixel (buf : Vector UInt8 1024) (x y : Nat) {i : Nat} (hi : i < 1024) (j : Nat) :
    (setPixel buf x y true)[i].toNat.testBit j =
      (buf[i].toNat.testBit j || decide (i = y / 8 * 128 + x ∧ j = y % 8)) := by
  unfold setPixel width
  dsimp only
  split
  · by_cases he : i = y / 8 * 128 + x
    · subst he
      rw [Vector.getElem_set_self, show (true).toUInt8 = 1 from rfl, and_not_or_self,
        testBit_or_bit _ (Nat.mod_lt y (by decide))]
      simp [eq_comm]
    · rw [Vector.getElem_set_ne _ _ (Ne.symm he)]
      simp [he]
  · -- a pixel whose byte is past the end sets nothing
    have he : i ≠ y / 8 * 128 + x := by omega
    simp [he]

theorem testBit_drawRow (f : Frame) (y : Nat) (xs : List Nat) (buf : Vector UInt8 1024) {i : Nat} (hi : i < 1024)
    (j : Nat) :
    (xs.foldl (fun buf x => if lit f x y then setPixel buf x y true else buf) buf)[i].toNat.testBit j =
      (buf[i].toNat.testBit j || decide (∃ x ∈ xs, lit f x y ∧ i = y / 8 * 128 + x ∧ j = y % 8)) := by
  induction xs generalizing buf with
  | nil => simp
  | cons x xs ih =>
    rw [List.foldl_cons, ih]
    by_cases hl : lit f x y
    · rw [if_pos hl, testBit_setPixel _ _ _ hi]
      simp [hl, Bool.or_assoc]
    · rw [if_neg hl]
      simp [hl]

/-- **Run lemma.** Drawing the rows `ys` of a frame sets the bits of the pixels of those rows that
it lights, and leaves the others. -/
theorem testBit_drawRows (f : Frame) (ys : List Nat) (buf : Vector UInt8 1024) {i : Nat} (hi : i < 1024) (j : Nat) :
    (ys.foldl (fun buf y => (List.range width).foldl
        (fun buf x => if lit f x y then setPixel buf x y true else buf) buf) buf)[i].toNat.testBit j =
      (buf[i].toNat.testBit j ||
        decide (∃ y ∈ ys, ∃ x ∈ List.range width, lit f x y ∧ i = y / 8 * 128 + x ∧ j = y % 8)) := by
  induction ys generalizing buf with
  | nil => simp
  | cons y ys ih =>
    rw [List.foldl_cons, ih, testBit_drawRow f y _ _ hi]
    simp [Bool.or_assoc]

/-- Bit `j < 8` of byte `i` of the buffer belongs to one pixel of the panel,
`(i % 128, 8 * (i / 128) + j)`. -/
theorem lit_of_bit (f : Frame) {i j : Nat} (hi : i < 1024) (hj : j < 8) :
    (∃ y ∈ List.range height, ∃ x ∈ List.range width, lit f x y ∧ i = y / 8 * 128 + x ∧ j = y % 8) ↔
      lit f (i % 128) (8 * (i / 128) + j) := by
  constructor
  · rintro ⟨y, hy, x, hx, hl, rfl, rfl⟩
    simp only [List.mem_range, width, height] at hx hy
    have hx' : (y / 8 * 128 + x) % 128 = x := by omega
    have hy' : 8 * ((y / 8 * 128 + x) / 128) + y % 8 = y := by omega
    rw [hx', hy']
    exact hl
  · intro hl
    refine ⟨8 * (i / 128) + j, List.mem_range.2 (by simp only [height]; omega), i % 128,
      List.mem_range.2 (by simp only [width]; omega), hl, by omega, by omega⟩

/-- **Drawing a frame into a clear buffer** gives the frame's pages: nothing of an earlier frame is
left. -/
theorem drawFrame_blank (f : Frame) : drawFrame blankBuffer f = frameBuffer f := by
  refine Vector.ext fun i hi => UInt8.toNat_inj.mp (Nat.eq_of_testBit_eq fun j => ?_)
  rw [getElem_frameBuffer f hi]
  by_cases hj : j < 8
  · have hclear : (blankBuffer[i]).toNat.testBit j = false := by simp [blankBuffer]
    rw [drawFrame, testBit_drawRows f _ _ hi, hclear, Bool.false_or, testBit_pageByte f _ _ hj]
    exact Bool.eq_iff_iff.mpr (decide_eq_true_iff.trans (lit_of_bit f hi hj))
  · rw [testBit_toNat_of_le _ (by omega), testBit_toNat_of_le _ (by omega)]

theorem flushWrites_frameBuffer (f : Frame) : flushWrites (frameBuffer f) = frameWrites f := by
  unfold flushWrites frameWrites
  refine congrArg _ (congrArg _ (List.flatMap_congr fun page hpage => List.map_congr_left fun slice hslice => ?_))
  refine congrArg _ (List.map_congr_left fun k hk => ?_)
  simp only [List.mem_range] at hpage hslice hk
  have hi : page * 128 + 16 * slice + k < 1024 := by omega
  rw [Vector.getElem?_eq_getElem hi, Option.getD_some, getElem_frameBuffer f hi]
  congr 1 <;> omega

/-! ## One call -/

theorem display_uninitialized {p : Ssd1306} (h : p.initialized = false) (f : Frame) :
    p.display f = (.error .notInitialized, p) := by
  simp [display, h]

theorem display_misfit {p : Ssd1306} (h : p.initialized = true) {f : Frame} (hf : f.size ≠ (width, height)) :
    p.display f = (.error (.frameSize f.width f.height width height), p) := by
  have hc : f.checkSize width height = .error (.frameSize f.width f.height width height) := by
    rw [Frame.checkSize, if_neg]
    rintro ⟨hw, hh⟩
    exact hf (by rw [Frame.size, hw, hh])
  simp [display, h, hc]

/-- A started panel shows a frame of its size by drawing the frame's pages into its buffer and
sending the frame's transactions. -/
theorem display_fit {p : Ssd1306} (h : p.initialized = true) {f : Frame} (hf : f.size = (width, height)) :
    p.display f = (if (p.bus.writeAll p.address (frameWrites f)).1 then .ok () else .error .busWrite,
      { p with bus := (p.bus.writeAll p.address (frameWrites f)).2, buffer := frameBuffer f }) := by
  have hc : f.checkSize width height = .ok () := by
    rw [Frame.checkSize, if_pos (Prod.mk.inj hf)]
  simp only [display, h, hc, Bool.not_true, Bool.false_eq_true, if_false, drawFrame_blank, flush,
    flushWrites_frameBuffer]
  split <;> simp_all

theorem initialized_display (p : Ssd1306) (f : Frame) : (p.display f).2.initialized = p.initialized := by
  unfold display
  split
  · rfl
  · split
    · rfl
    · unfold flush
      split <;> rfl

theorem start_eq (p : Ssd1306) :
    p.start = (if (p.bus.writeAll p.address (startCommands.map (commandByte :: ·))).1 then .ok ()
        else .error .initializationFailed,
      { p with bus := (p.bus.writeAll p.address (startCommands.map (commandByte :: ·))).2,
               initialized := p.initialized || (p.bus.writeAll p.address (startCommands.map (commandByte :: ·))).1 }) := by
  unfold start
  split <;> simp_all

theorem start_failed {p : Ssd1306} (h : p.start.1 ≠ .ok ()) :
    p.start.1 = .error .initializationFailed ∧ p.start.2.initialized = p.initialized := by
  rw [start_eq] at h ⊢
  cases hw : (p.bus.writeAll p.address (startCommands.map (commandByte :: ·))).1
  · simp
  · simp [hw] at h

/-- **Step lemma.** A call leaves the panel started exactly when it was, or the call is a start
that succeeded. -/
theorem initialized_perform (p : Ssd1306) (c : Call) :
    (p.perform c).2.initialized = true ↔ p.initialized = true ∨ (c = .start ∧ (p.perform c).1 = .ok ()) := by
  cases c with
  | start =>
    simp only [perform, start_eq]
    cases (p.bus.writeAll p.address (startCommands.map (commandByte :: ·))).1 <;> simp
  | display f => simp [perform, initialized_display]

/-- **Run lemma.** A panel is started after a run of calls exactly when it was before, or one of
the starts of the run succeeded. -/
theorem initialized_performAll (p : Ssd1306) (cs : List Call) :
    (p.performAll cs).2.initialized = true ↔
      p.initialized = true ∨ (Call.start, Except.ok ()) ∈ cs.zip (p.performAll cs).1 := by
  induction cs generalizing p with
  | nil => simp [performAll]
  | cons c cs ih =>
    simp only [performAll, List.zip_cons_cons, List.mem_cons, Prod.mk.injEq]
    rw [ih, initialized_perform]
    constructor
    · rintro ((h | ⟨rfl, hr⟩) | h)
      · exact .inl h
      · exact .inr (.inl ⟨rfl, hr.symm⟩)
      · exact .inr (.inr h)
    · rintro (h | ⟨rfl, hr⟩ | h)
      · exact .inl (.inl h)
      · exact .inl (.inr ⟨rfl, hr.symm⟩)
      · exact .inr h

/-! ## The data bytes of a frame -/

/-- The data a transaction carries: its bytes after the data prefix, and none for a command. -/
def payload (w : List UInt8) : List UInt8 := if w.head? = some dataByte then w.tail else []

/-- The bytes a panel stores from transactions: the payloads of the data transactions, in order.
Over the whole window, in horizontal addressing, they fill its memory from the first byte on. -/
def displayData (ws : List (List UInt8)) : List UInt8 := ws.flatMap payload

theorem payload_data (rest : List UInt8) : payload (dataByte :: rest) = rest := if_pos rfl

theorem payload_command (rest : List UInt8) : payload (commandByte :: rest) = [] :=
  if_neg (by rw [List.head?_cons]; decide)

theorem displayData_frameWrites (f : Frame) :
    displayData (frameWrites f) = (List.range 8).flatMap fun page =>
      (List.range 8).flatMap fun slice => (List.range 16).map fun k => pageByte f page (16 * slice + k) := by
  unfold displayData frameWrites
  rw [List.flatMap_cons, List.flatMap_cons, payload_command, payload_command, List.nil_append, List.nil_append,
    List.flatMap_assoc]
  simp only [List.flatMap_map, payload_data]

theorem length_page (f : Frame) (page : Nat) :
    ((List.range 8).flatMap fun slice => (List.range 16).map fun k => pageByte f page (16 * slice + k)).length = 128 := by
  rw [length_flatMap_range _ (c := 16) (fun _ => by simp) 8]

theorem length_displayData (f : Frame) : (displayData (frameWrites f)).length = 1024 := by
  rw [displayData_frameWrites, length_flatMap_range _ (length_page f) 8]

theorem getElem?_displayData (f : Frame) {page x : Nat} (hpage : page < 8) (hx : x < 128) :
    (displayData (frameWrites f))[page * 128 + x]? = some (pageByte f page x) := by
  rw [displayData_frameWrites, getElem?_flatMap_range _ (length_page f) hpage hx]
  -- byte `x` of a page is byte `x % 16` of slice `x / 16`
  have hslice : x / 16 < 8 := by omega
  have hk : x % 16 < 16 := Nat.mod_lt x (by decide)
  rw [← Nat.div_add_mod' x 16, getElem?_flatMap_range _ (fun _ => by simp) hslice hk, List.getElem?_map,
    List.getElem?_range hk, Option.map_some, Nat.mul_comm 16 (x / 16)]

/-- The data bytes of a frame hold its lit pixels: pixel `(x, y)` is bit `y % 8` of byte
`y / 8 * 128 + x`. -/
theorem testBit_displayData (f : Frame) {x y : Nat} (hx : x < width) (hy : y < height) :
    ((displayData (frameWrites f))[y / 8 * 128 + x]?.getD 0).toNat.testBit (y % 8) = lit f x y := by
  rw [getElem?_displayData f (show y / 8 < 8 by simp [height] at hy; omega) (by simpa [width] using hx),
    Option.getD_some, testBit_pageByte f _ x (Nat.mod_lt y (by decide)), Nat.div_add_mod y 8]

theorem lit_iff (f : Frame) (x y : Nat) : lit f x y = true ↔ (f.brightness x y).getD 0 ≠ 0 := by
  simp [lit]

/-- **A panel's traffic.** Before it is started, a panel refuses to show anything and sends
nothing; a start that fails says so and leaves the flag as it was, and the panel is started after a
run of calls exactly when one of its starts succeeded. A started panel refuses a frame of another
size than 128 × 64 and sends nothing; it sends a 128 × 64 frame as its sixty-six transactions when
the bus takes them all, keeping the frame's pages in its buffer, and reports a bus error
otherwise; and the data bytes of those transactions hold exactly the frame's pixels whose level
is not zero, pixel `(x, y)` at bit `y % 8` of byte `y / 8 * 128 + x`. -/
theorem panel_traffic :
    (∀ (p : Ssd1306) (f : Frame), p.initialized = false → p.display f = (.error .notInitialized, p)) ∧
    (∀ p : Ssd1306, p.start.1 ≠ .ok () →
      p.start.1 = .error .initializationFailed ∧ p.start.2.initialized = p.initialized) ∧
    (∀ (p : Ssd1306) (cs : List Call), (p.performAll cs).2.initialized = true ↔
      p.initialized = true ∨ (Call.start, Except.ok ()) ∈ cs.zip (p.performAll cs).1) ∧
    (∀ (p : Ssd1306) (f : Frame), p.initialized = true → f.size ≠ (width, height) →
      p.display f = (.error (.frameSize f.width f.height width height), p)) ∧
    (∀ (p : Ssd1306) (f : Frame), p.initialized = true → f.size = (width, height) →
      (p.bus.Takes 66 → p.display f =
        (.ok (), { p with bus := { p.bus with log := p.bus.log ++ ((frameWrites f).map fun w => ⟨p.address, some w⟩).toArray },
                          buffer := frameBuffer f })) ∧
      (¬ p.bus.Takes 66 → (p.display f).1 = .error .busWrite)) ∧
    (∀ f : Frame, (displayData (frameWrites f)).length = 1024 ∧
      ∀ x y, x < width → y < height →
        (((displayData (frameWrites f))[y / 8 * 128 + x]?.getD 0).toNat.testBit (y % 8) = true ↔
          (f.brightness x y).getD 0 ≠ 0)) := by
  refine ⟨fun p f h => display_uninitialized h f, fun p h => start_failed h, initialized_performAll, fun p f h hf =>
    display_misfit h hf, fun p f h hf => ⟨fun ht => ?_, fun ht => ?_⟩, fun f => ⟨length_displayData f, fun x y hx hy => ?_⟩⟩
  · rw [display_fit h hf, Bus.writeAll_taken _ _ _ (by rwa [length_frameWrites])]
    rfl
  · have hw : (p.bus.writeAll p.address (frameWrites f)).1 = false := by
      rw [← Bool.not_eq_true, Bus.writeAll_fst_iff, length_frameWrites]
      exact ht
    rw [display_fit h hf, hw]
    rfl
  · rw [testBit_displayData f hx hy, lit_iff]

end Ssd1306

end OledPanel
