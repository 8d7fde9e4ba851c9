import CharLcd.Editor.KeyBinding
import CharLcd.FileStore
import CharLcd.Json.Tree
import CharLcd.Reader.Basic

/-!
# Configuration of the editor

Which keys the editor listens to, and how far the interval keys go.

- `KeyFunction`: what keys are bound to, with names and default bindings.
- `EditorConfig`: the bindings and the step; the defaults are its field values.
- `EditorConfig.parse`, `EditorConfig.ofContent`: the configuration in a file.
-/

namespace CharLcd

/-- What a key can be bound to. -/
inductive KeyFunction where
  | togglePixel
  | nextCell
  | prevCell
  | cellLeft
  | cellRight
  | cellUp
  | cellDown
  | clearCell
  | resetDisplay
  | copyCell
  | pasteCell
  | transmission
  | numberFormat
  | scrolling
  | buffered
  | direction
  | faster
  | slower
  | play
  | codeUp
  | codeDown
  | save
  | exportSketch
  | quit
  | confirm
  | cancel
  deriving DecidableEq, Repr

namespace KeyFunction

/-- Every function, in the order of the configuration file. -/
def all : List KeyFunction := [
  togglePixel, nextCell, prevCell, cellLeft, cellRight, cellUp, cellDown, clearCell, resetDisplay,
  copyCell, pasteCell, transmission, numberFormat, scrolling, buffered, direction, faster, slower,
  play, codeUp, codeDown, save, exportSketch, quit, confirm, cancel]

/-- Name in the configuration file. -/
def name : KeyFunction → String
  | togglePixel => "toggle_pixel"
  | nextCell => "next_cell"
  | prevCell => "prev_cell"
  | cellLeft => "cell_left"
  | cellRight => "cell_right"
  | cellUp => "cell_up"
  | cellDown => "cell_down"
  | clearCell => "clear_cell"
  | resetDisplay => "reset_display"
  | copyCell => "copy_cell"
  | pasteCell => "paste_cell"
  | transmission => "transmission"
  | numberFormat => "number_format"
  | scrolling => "scrolling"
  | buffered => "buffered"
  | direction => "direction"
  | faster => "faster"
  | slower => "slower"
  | play => "play"
  | codeUp => "code_up"
  | codeDown => "code_down"
  | save => "save"
  | exportSketch => "export"
  | quit => "quit"
  | confirm => "confirm"
  | cancel => "cancel"

/-- The key that a function is bound to unless the configuration says otherwise. -/
def default : KeyFunction → String
  | togglePixel => "Space"
  | nextCell => "Tab"
  | prevCell => "BackTab"
  | cellLeft => "Alt-Left"
  | cellRight => "Alt-Right"
  | cellUp => "Alt-Up"
  | cellDown => "Alt-Down"
  | clearCell => "c"
  | resetDisplay => "R"
  | copyCell => "y"
  | pasteCell => "p"
  | transmission => "t"
  | numberFormat => "f"
  | scrolling => "s"
  | buffered => "b"
  | direction => "d"
  | faster => "-"
  | slower => "+"
  | play => "Enter"
  | codeUp => "PageUp"
  | codeDown => "PageDown"
  | save => "Ctrl-s"
  | exportSketch => "e"
  | quit => "q"
  | confirm => "Enter"
  | cancel => "Esc"

end KeyFunction

/-- The binding of every function. -/
structure KeyBindings where
  binding : KeyFunction → String := KeyFunction.default

namespace KeyBindings

/-- Bind a function to another key. -/
def bind (b : KeyBindings) (f : KeyFunction) (key : String) : KeyBindings :=
  ⟨fun g => if g = f then key else b.binding g⟩

@[simp] theorem binding_bind (b : KeyBindings) (f g : KeyFunction) (key : String) :
    (b.bind f key).binding g = if g = f then key else b.binding g := rfl

/-- Whether a key press is the one that a function is bound to. -/
def accepts (b : KeyBindings) (f : KeyFunction) (k : Terminal.Key) : Bool :=
  bindingAccepts (b.binding f) k

end KeyBindings

/-- The configuration of the editor. -/
structure EditorConfig where
  keys : KeyBindings := {}
  /-- Milliseconds that the interval keys add or take away. -/
  intervalStep : UInt32 := 50

namespace EditorConfig

open Json Reader

/-! ## Reading -/

/-- The bindings, as a record with a field for every function. -/
def keysRecord : Record KeyBindings where
  name := "the key bindings"
  start := {}
  fields := KeyFunction.all.map fun f =>
    { name := f.name
      read := fun v b => do return b.bind f (← string "a string" v) }

/-- The configuration, as a record of two fields. -/
def record : Record EditorConfig where
  name := "the editor configuration"
  start := {}
  fields := [
    { name := "key_bindings"
      read := fun v c => do return { c with keys := ← keysRecord.read v } },
    { name := "interval_step_ms"
      read := fun v c => do
        let step ← natural (UInt32.size - 1) "a number of milliseconds" v
        return { c with intervalStep := UInt32.ofNat step } }]

/-- The configuration in a text. -/
def parse (text : String) : Reads EditorConfig := document record.read text

/-- The configuration in what was found at its path. Whatever cannot be read
leaves all defaults in place. -/
def ofContent (content : Except FileError String) : EditorConfig :=
  match content with
  | .error _ => {}
  | .ok text =>
    match parse text with
    | .error _ => {}
    | .ok c => c

/-- Where the configuration is found, below the home directory. -/
def path : String := ".config/lcd-glyph-studio/editor.json"

/-! ## Writing -/

/-- The configuration as a tree. -/
def tree (c : EditorConfig) : Tree :=
  .object [
    ("key_bindings", .object (KeyFunction.all.map fun f => (f.name, .string (c.keys.binding f)))),
    ("interval_step_ms", .number c.intervalStep.toNat)]

/-- The configuration on one line. -/
def compactText (c : EditorConfig) : String := c.tree.text .compact

end EditorConfig

end CharLcd
