import OledPanel.Raster
import OledPanel.Picture
import OledPanel.Frame
import OledPanel.Resample
import OledPanel.Bytes
import OledPanel.Store
import OledPanel.Error
import OledPanel.Font.CharMap
import OledPanel.Font.Kerning
import OledPanel.Font.Face
import OledPanel.Font.Outline
import OledPanel.Font.Coverage
import OledPanel.Font.Fixed
import OledPanel.Font.Typeset
import OledPanel.Typeface
import OledPanel.Decimal.Binary
import OledPanel.Decimal.Text
import OledPanel.Duration
import OledPanel.Toml.Value
import OledPanel.Toml.Reader
import OledPanel.Toml.Text
import OledPanel.Toml.Number
import OledPanel.Toml.Tree
import OledPanel.Toml.Document
import OledPanel.Toml.Report
import OledPanel.Settings
import OledPanel.Settings.Read
import OledPanel.Animation
import OledPanel.Catalog
import OledPanel.CommandLine.Grammar
import OledPanel.CommandLine.Help
import OledPanel.CommandLine.Number
import OledPanel.CommandLine.Parse
import OledPanel.CommandLine.Similarity
import OledPanel.Display.Memory
import OledPanel.Display.Screen
import OledPanel.Display.Ssd1306
import OledPanel.FontSet
import OledPanel.IconSet
import OledPanel.Image.Crc
import OledPanel.Image.Format
import OledPanel.Image.Gif
import OledPanel.Image.Inflate
import OledPanel.Image.Layer
import OledPanel.Image.Png
import OledPanel.Image.Png.Chunk
import OledPanel.Image.Png.Encode
import OledPanel.Image.Png.Scanline
import OledPanel.Image.Save
import OledPanel.Image.Still
import OledPanel.Main
import OledPanel.Mark
import OledPanel.Observers
import OledPanel.Service
import OledPanel.Service.Playback
import OledPanel.Session
import OledPanel.Signal
import OledPanel.Unicode.Ranges
import OledPanel.Unicode.GraphemeExtend
import OledPanel.Unicode.Unprintable
import OledPanel.Unicode.Quoted
import OledPanel.Tool.Grammar
import OledPanel.Tool.Run
import OledPanel.Proofs.Screen
import OledPanel.Proofs.Generation
import OledPanel.Proofs.Geometry
import OledPanel.Proofs.SizeSafety
import OledPanel.Proofs.TimedClear
import OledPanel.Proofs.Layout
import OledPanel.Proofs.ModeConversion
import OledPanel.Proofs.FrameEncoding
import OledPanel.Proofs.Playback
import OledPanel.Proofs.Pixels
import OledPanel.Proofs.Slide
import OledPanel.Proofs.Handoff
import OledPanel.Proofs.Address
import OledPanel.Proofs.Drawing
import OledPanel.Proofs.Catalog
import OledPanel.Proofs.Assets
import OledPanel.Proofs.Observers
import OledPanel.Proofs.PanelTraffic
import OledPanel.Proofs.Fonts
