import OledPanel.Display.Memory

/-!
# SSD1306 panels on an I2C bus

An SSD1306 is a 128 × 64 one-bit OLED controller. It is driven over an I2C bus, one transaction
at a time: a transaction is the panel's address and a run of bytes whose first byte says what
follows, `0x00` for commands and `0x40` for display data.

* Starting the panel sends seventeen commands, each in its own transaction: display off, clock,
  multiplex ratio, offset, start line, charge pump, horizontal addressing, pin layout, segment
  and scan direction, precharge, contrast, deselect level, resume from memory, normal polarity,
  scrolling off, display on.
* The controller keeps a buffer of the panel's memory, eight pages of 128 bytes: byte `x` of
  page `p` holds the pixels `(x, 8p)` to `(x, 8p + 7)`, the top one in the lowest bit. Showing a
  frame clears the buffer, sets each pixel whose level in the frame is not zero, and flushes it:
  the column range 0 to 127 and the page range 0 to 7, then the whole buffer, page after page,
  sixteen bytes a transaction.

The bus here records every transaction and refuses the ones whose numbers it is given,
counted from one over its whole life. A refused transaction ends the sequence it belongs to.
-/

namespace OledPanel

/-- one transaction on the bus: the address, and the bytes sent or none if it was refused -/
structure BusWrite where
  address : Nat
  bytes : Option (List UInt8)

/-- an I2C bus that records its transactions and refuses chosen ones -/
structure Bus where
  /-- the transactions so far, oldest first -/
  log : Array BusWrite := #[]
  /-- the numbers, from one, of the transactions that are refused -/
  refusals : List Nat := []

namespace Bus

/-- Send one transaction; answer whether it went through. -/
def write (b : Bus) (address : Nat) (bytes : List UInt8) : Bool × Bus :=
  if b.log.size + 1 ∈ b.refusals then (false, { b with log := b.log.push ⟨address, none⟩ })
  else (true, { b with log := b.log.push ⟨address, some bytes⟩ })

def writeAll (b : Bus) (address : Nat) : List (List UInt8) → Bool × Bus
  | [] => (true, b)
  | w :: ws =>
    match b.write address w with
    | (true, b) => b.writeAll address ws
    | (false, b) => (false, b)

end Bus

/-- an SSD1306 panel at an address on a bus -/
structure Ssd1306 where
  bus : Bus
  address : Nat
  initialized : Bool := false
  /-- the controller's copy of the panel's memory; pixel `(x, y)` is bit `y % 8` of byte
  `y / 8 * 128 + x` -/
  buffer : Vector UInt8 1024 := Vector.replicate 1024 0

namespace Ssd1306

def width : Nat := 128

def height : Nat := 64

def startCommands : List (List UInt8) :=
  [[0xAE], [0xD5, 0x80], [0xA8, 0x3F], [0xD3, 0x00], [0x40], [0x8D, 0x14], [0x20, 0x00],
    [0xDA, 0x12], [0xA1], [0xC8], [0xD9, 0x21], [0x81, 0x5F], [0xDB, 0x40], [0xA4], [0xA6],
    [0x2E], [0xAF]]

def commandByte : UInt8 := 0x00

def dataByte : UInt8 := 0x40

/-- Start the panel. If the bus refuses a command the panel stays as it was. -/
def start (p : Ssd1306) : Except PanelError Unit × Ssd1306 :=
  match p.bus.writeAll p.address (startCommands.map (commandByte :: ·)) with
  | (true, bus) => (.ok (), { p with bus, initialized := true })
  | (false, bus) => (.error .initializationFailed, { p with bus })

/-- whether pixel `(x, y)` of a frame lights -/
def lit (f : Frame) (x y : Nat) : Bool := (f.brightness x y).getD 0 != 0

def blankBuffer : Vector UInt8 1024 := Vector.replicate 1024 0

/-- Set pixel `(x, y)` of a buffer lit or unlit, leaving the other bits of its byte; a pixel whose
byte is past the end is ignored. -/
def setPixel (buf : Vector UInt8 1024) (x y : Nat) (value : Bool) : Vector UInt8 1024 :=
  let i := y / 8 * width + x
  let bit := (y % 8).toUInt8
  if h : i < 1024 then buf.set i (buf[i] &&& ~~~(1 <<< bit) ||| (value.toUInt8 <<< bit)) else buf

/-- Draw a frame into a buffer, row by row: set each pixel of the panel that the frame lights. -/
def drawFrame (buf : Vector UInt8 1024) (f : Frame) : Vector UInt8 1024 :=
  (List.range height).foldl
    (fun buf y => (List.range width).foldl (fun buf x => if lit f x y then setPixel buf x y true else buf) buf) buf

/-- The transactions that send a buffer: the address window, then the pages in slices of sixteen
bytes. -/
def flushWrites (buf : Vector UInt8 1024) : List (List UInt8) :=
  [commandByte, 0x21, 0, 0x7F] :: [commandByte, 0x22, 0, 0x07] ::
    (List.range 8).flatMap fun page =>
      (List.range 8).map fun slice =>
        dataByte :: (List.range 16).map fun k => buf[page * 128 + 16 * slice + k]?.getD 0

def flush (p : Ssd1306) : Except PanelError Unit × Ssd1306 :=
  match p.bus.writeAll p.address (flushWrites p.buffer) with
  | (true, bus) => (.ok (), { p with bus })
  | (false, bus) => (.error .busWrite, { p with bus })

/-- Show a frame: the panel must be started and the frame must be 128 × 64. -/
def display (p : Ssd1306) (f : Frame) : Except PanelError Unit × Ssd1306 :=
  if !p.initialized then (.error .notInitialized, p)
  else
    match f.checkSize width height with
    | .error e => (.error e, p)
    | .ok () => flush { p with buffer := drawFrame blankBuffer f }

/-- Byte `x` of page `page` of a frame: eight pixels of a column, the top one in the lowest bit. -/
def pageByte (f : Frame) (page x : Nat) : UInt8 :=
  (List.range 8).foldl (fun acc b => if lit f x (8 * page + b) then acc ||| (1 <<< b.toUInt8) else acc) 0

/-- The transactions that send a frame, byte by byte as its pages: the address window, then the
pages in slices of sixteen bytes. -/
def frameWrites (f : Frame) : List (List UInt8) :=
  [commandByte, 0x21, 0, 0x7F] :: [commandByte, 0x22, 0, 0x07] ::
    (List.range 8).flatMap fun page =>
      (List.range 8).map fun slice =>
        dataByte :: (List.range 16).map fun k => pageByte f page (16 * slice + k)

theorem length_frameWrites (f : Frame) : (frameWrites f).length = 66 := by
  simp [frameWrites, List.map_const']

/-- a call a driver makes on a panel -/
inductive Call where
  | start
  | display (f : Frame)

/-- Make one call. -/
def perform (p : Ssd1306) : Call → Except PanelError Unit × Ssd1306
  | .start => p.start
  | .display f => p.display f

def performAll (p : Ssd1306) : List Call → List (Except PanelError Unit) × Ssd1306
  | [] => ([], p)
  | c :: cs =>
    let (r, p) := p.perform c
    let (rs, p) := p.performAll cs
    (r :: rs, p)

end Ssd1306

end OledPanel
