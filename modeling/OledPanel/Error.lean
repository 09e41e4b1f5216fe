import OledPanel.Store
import OledPanel.Unicode.Quoted

/-!
# Errors

Every failure the library reports is a value of `PanelError`, and its wording lives in one
place, `PanelError.message`. Image failures keep their own cause, `ImageError`, because users see
the decoder's explanation inside the panel's message.
-/

namespace OledPanel

/-- why an image could not be opened -/
inductive ImageError where
  | io (e : IoError)
  /-- the file is in a known format but its data is broken -/
  | decoding (format detail : String)
  /-- the format is known but not decoded here -/
  | unsupported (format : String)
  /-- the decoder for the format does not produce this colour layout -/
  | unsupportedColour (format colour : String)
  /-- the encoder for the format does not take this colour layout -/
  | encoderColour (format colour : String)
  /-- the format is known but not written here -/
  | noEncoder (format : String)
  /-- the file name's extension names no image format -/
  | unknownExtension (ext : String)
  /-- the file name has no extension -/
  | unknownFormat
  /-- the data stopped before the image did -/
  | truncated
  /-- the stream holds no image to decode -/
  | noMoreData
  deriving DecidableEq, Repr

namespace ImageError

def message : ImageError → String
  | io e => e.message
  | decoding f d => "Format error decoding " ++ f ++ ": " ++ d
  | unsupported f => "The image format " ++ f ++ " is not supported"
  | unsupportedColour f c => "The decoder for " ++ f ++ " does not support the color type `" ++ c ++ "`"
  | encoderColour f c =>
    "The encoder or decoder for " ++ f ++ " does not support the color type `" ++ c ++ "`"
  | noEncoder f => "The image format `" ++ f ++ "` is not supported"
  | unknownExtension e =>
    "The file extension `." ++ quoted e ++ "` was not recognized as an image format"
  | unknownFormat => "The image format could not be determined"
  | truncated => "unexpected end of file"
  | noMoreData => "The end of the image has been reached"

end ImageError

/-- what went wrong in the panel library -/
inductive PanelError where
  | io (e : IoError)
  | image (e : ImageError)
  | invalidFont
  | config (report : String)
  /-- the bus refused a write while a frame was sent -/
  | busWrite
  | initializationFailed
  | notInitialized
  | frameSize (width height expectedWidth expectedHeight : Nat)
  | emptyAnimation
  | missingAsset (what : String)
  deriving DecidableEq, Repr

namespace PanelError

def message : PanelError → String
  | io e => "I/O error: " ++ e.message
  | image e => "image error: " ++ e.message
  | invalidFont => "font error: InvalidFont"
  | config r => "configuration error: " ++ r
  | busWrite => "display interface error: BusWriteError"
  | initializationFailed => "display initialisation failed"
  | notInitialized => "display not initialised"
  | frameSize w h ew eh =>
    "frame is " ++ toString w ++ "x" ++ toString h ++ ", display expects " ++ toString ew ++ "x" ++
      toString eh
  | emptyAnimation => "animation contains no frames"
  | missingAsset what => "no " ++ what ++ " configured"

def kind : PanelError → String
  | io _ => "Io"
  | image _ => "Image"
  | invalidFont => "Font"
  | config _ => "Config"
  | busWrite => "Display"
  | initializationFailed => "InitializationFailed"
  | notInitialized => "NotInitialized"
  | frameSize .. => "FrameSize"
  | emptyAnimation => "EmptyAnimation"
  | missingAsset _ => "MissingAsset"

def causes : PanelError → List String
  | io e => [e.message]
  | image (.decoding f d) => [(ImageError.decoding f d).message, d]
  | image e => [e.message]
  | invalidFont => ["InvalidFont"]
  | config r => [r]
  | _ => []

end PanelError

end OledPanel
