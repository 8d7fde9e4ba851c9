import CharLcd.Main
import CharLcd.Sketch.Machine
import CharLcd.Terminal.Screen
import CharLcd.Proofs.Sketch.Runs
import CharLcd.Proofs.Sketch.Loops
import CharLcd.Proofs.Sketch.Helpers
import CharLcd.Proofs.Scan
import CharLcd.Proofs.Sketch.Rounds
import CharLcd.Proofs.Sketch.Execution
import CharLcd.Proofs.GlyphTable
import CharLcd.Proofs.RowByte
import CharLcd.Proofs.Picture
import CharLcd.Sketch.Token
import CharLcd.Sketch.Grammar
import CharLcd.Sketch.Plain
import CharLcd.Proofs.Sketch.Spelling
import CharLcd.Proofs.Sketch.Tokens
import CharLcd.Proofs.Sketch.Parsing
import CharLcd.Proofs.Sketch.Plain
import CharLcd.Proofs.Sketch.Readable
import CharLcd.Proofs.Sketch.Faithful
import CharLcd.Proofs.Sketch.Recovery
import CharLcd.Json.Grammar
import CharLcd.Proofs.Json.Lexing
import CharLcd.Proofs.Json.Document
import CharLcd.Proofs.Json.Writing
import CharLcd.Proofs.Json.Number
import CharLcd.Proofs.Reader
import CharLcd.Proofs.Design.Options
import CharLcd.Proofs.Design.Reading
import CharLcd.Proofs.Design.Canonical
import CharLcd.Proofs.Session
import CharLcd.Proofs.Editor.Edit
import CharLcd.Proofs.Editor.Event
import CharLcd.Proofs.Editor.Move
import CharLcd.Proofs.Editor.Saving
import CharLcd.Proofs.Playback
import CharLcd.Proofs.Editor.Preview
import CharLcd.Proofs.Cycle
import CharLcd.Proofs.PathName
import CharLcd.Proofs.FileStore
import CharLcd.Proofs.Numbering
import CharLcd.Proofs.Scrolling
import CharLcd.Proofs.Editor.Reopening
import CharLcd.Proofs.Editor.Exporting
import CharLcd.Proofs.Editor.Painting
import CharLcd.Proofs.Editor.Redraw
import CharLcd.Proofs.Editor.SketchPanel
import CharLcd.Proofs.Editor.Answering
import CharLcd.Proofs.Editor.SelectedCell
import CharLcd.Proofs.Editor.Indices
import CharLcd.Proofs.Terminal.Screen
import CharLcd.Proofs.LcdView
import CharLcd.Proofs.Preview
import CharLcd.Proofs.RepeatingTask
import CharLcd.Proofs.Terminal.Printing
import CharLcd.Proofs.Menu
import CharLcd.Proofs.Editor.Panels
import CharLcd.Proofs.Editor.Ticking
import CharLcd.Proofs.Sketch.Length
import CharLcd.Proofs.Editor.Messages
import CharLcd.Proofs.Editor.Fitting
import CharLcd.Proofs.Waiting
import CharLcd.Proofs.Design.Checking
import CharLcd.Proofs.Design.PixelRow
import CharLcd.Proofs.Editor.Config
import CharLcd.Proofs.PartialFiles
import CharLcd.Proofs.Session.Effect
import CharLcd.Proofs.Session.Reports
import CharLcd.Proofs.Session.Clipboard
import CharLcd.Proofs.Session.Independence
import CharLcd.Proofs.Editor.Stroke
import CharLcd.Proofs.Patch
import CharLcd.Proofs.Rotation
import CharLcd.Proofs.Exchange
import CharLcd.Proofs.Terminal.Reading
import CharLcd.Proofs.LcdReading
import CharLcd.Proofs.SlotLookup
import CharLcd.Proofs.Editor.Bindings
import CharLcd.Proofs.Terminal.Word
import CharLcd.Proofs.Editor.Words
import CharLcd.Proofs.Editor.Geometry
import CharLcd.Proofs.Sketch.Nesting
import CharLcd.Proofs.Sketch.WellNested
import CharLcd.Proofs.Translation
import CharLcd.Proofs.Terminal.Text
import CharLcd.Proofs.Menu.Parting
import CharLcd.Proofs.Editor.MenuBar
