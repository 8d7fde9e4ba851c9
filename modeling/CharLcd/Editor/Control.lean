import CharLcd.Editor.Layout
import CharLcd.Editor.State
import CharLcd.Terminal.Event

/-!
# What keys and the mouse do

- `Request`: what a key asks for while no question is open; `Request.all` is the
  order in which bindings are tried.
- `Editor.handle`: what an event does to the state, and what has to follow.
- `Action`: what has to follow.
-/

namespace CharLcd

open LcdView Terminal

/-- What has to follow an event. -/
inductive Action where
  /-- Nothing. -/
  | ignore
  | redraw
  | save
  | exportSketch
  | quit
  deriving DecidableEq, Repr

/-- What a key asks for: a function that keys are bound to, or a step of the
pixel cursor, which always belongs to the arrow keys. -/
inductive Request where
  | function (f : KeyFunction)
  | pixel (arrow : KeyCode)
  deriving DecidableEq, Repr

namespace Request

/-- All requests, those that are tried first at the head. The functions that
answer a question are not among them. -/
def all : List Request :=
  ([.quit, .save, .exportSketch, .cellLeft, .cellRight, .cellUp, .cellDown, .nextCell,
    .prevCell] : List KeyFunction).map function ++
  ([.up, .down, .left, .right] : List KeyCode).map pixel ++
  ([.togglePixel, .clearCell, .copyCell, .pasteCell, .resetDisplay, .transmission,
    .numberFormat, .scrolling, .buffered, .direction, .slower, .faster, .play, .codeUp,
    .codeDown] : List KeyFunction).map function

/-- Whether a key asks for a request. -/
def accepts (keys : KeyBindings) (k : Key) : Request → Bool
  | function f => keys.accepts f k
  | pixel arrow => (Binding.mk none arrow).accepts k

/-- What a key asks for. -/
def ofKey? (keys : KeyBindings) (k : Key) : Option Request :=
  all.find? (accepts keys k)

end Request

namespace Editor

/-- How far the keys that scroll the sketch go. -/
def keyScroll : Nat := 10

/-- How far the wheel scrolls the sketch. -/
def wheelScroll : Nat := 3

/-! ## Keys -/

/-- Open a question, with no as the marked answer. -/
def ask (s : Editor) (q : Question) : Editor := { s with mode := .asking q false }

/-- Carry out a function that changes the state only. -/
def perform (s : Editor) (now : Time) : KeyFunction → Editor
  | .cellLeft => s.moveCell 0 (-1)
  | .cellRight => s.moveCell 0 1
  | .cellUp => s.moveCell (-1) 0
  | .cellDown => s.moveCell 1 0
  | .nextCell => s.stepCell 1
  | .prevCell => s.stepCell (-1)
  | .togglePixel => s.togglePixel
  | .clearCell => s.clearCell
  | .copyCell => s.copyCell
  | .pasteCell => s.pasteCell
  | .resetDisplay => s.ask .reset
  | .transmission =>
    s.updateOptions now fun o => { o with transmission := o.transmission.toggle }
  | .numberFormat =>
    s.updateOptions now fun o => { o with numberFormat := o.numberFormat.toggle }
  | .scrolling => s.updateOptions now fun o => { o with scrolling := !o.scrolling }
  | .buffered => s.updateOptions now fun o => { o with buffered := !o.buffered }
  | .direction => s.updateOptions now fun o => { o with direction := o.direction.toggle }
  | .slower => s.updateOptions now (Options.slower s.config.intervalStep)
  | .faster => s.updateOptions now (Options.faster s.config.intervalStep)
  | .play => s.togglePlayback now
  | .codeUp => s.scrollUp keyScroll
  | .codeDown => s.scrollDown keyScroll
  | .quit | .save | .exportSketch | .confirm | .cancel => s

/-- Move the pixel cursor by an arrow key. -/
def arrow (s : Editor) : KeyCode → Editor
  | .up => s.movePixel (-1) 0
  | .down => s.movePixel 1 0
  | .left => s.movePixel 0 (-1)
  | .right => s.movePixel 0 1
  | _ => s

/-- A key while no question is open. Quitting, saving and exporting leave the
message in the status line as it is; every other key takes it away first. -/
def pressNormal (s : Editor) (now : Time) (k : Key) : Editor × Action :=
  let quiet := { s with status := none }
  match Request.ofKey? s.config.keys k with
  | some (.function .quit) => if s.dirty then (s.ask .quit, .redraw) else (s, .quit)
  | some (.function .save) => (s, .save)
  | some (.function .exportSketch) => (s, .exportSketch)
  | some (.function f) => (quiet.perform now f, .redraw)
  | some (.pixel a) => (quiet.arrow a, .redraw)
  | none => (quiet, .ignore)

/-- Close the question and do what was asked, if the answer is yes. -/
def answer (s : Editor) (q : Question) (yes : Bool) : Editor × Action :=
  let closed := { s with mode := .normal }
  match q, yes with
  | _, false => (closed, .redraw)
  | .reset, true => (closed.resetDisplay, .redraw)
  | .quit, true => (closed, .quit)

/-- A key while a question is open. -/
def pressAsking (s : Editor) (q : Question) (yes : Bool) (k : Key) : Editor × Action :=
  match k.code with
  | .up | .down | .left | .right | .tab => ({ s with mode := .asking q !yes }, .redraw)
  | .char 'y' | .char 'Y' => s.answer q true
  | .char 'n' | .char 'N' => s.answer q false
  | _ =>
    if s.config.keys.accepts .confirm k then s.answer q yes
    else if s.config.keys.accepts .cancel k then s.answer q false
    else (s, .ignore)

/-- A key. -/
def press (s : Editor) (now : Time) (k : Key) : Editor × Action :=
  match s.mode with
  | .normal => s.pressNormal now k
  | .asking q yes => s.pressAsking q yes k

/-! ## Mouse -/

/-- The left button goes down: paint a pixel, or select a cell. -/
def mouseDown (s : Editor) (l : Layout) (p : Position) : Editor × Action :=
  match l.pixelAt? p, slotAt? l.lcd p with
  | some (row, column), _ => (s.beginPaint row column, .redraw)
  | none, some (line, column) => (s.selectCell line column, .redraw)
  | none, none => (s, .ignore)

/-- The mouse is dragged: go on painting. -/
def mouseDrag (s : Editor) (l : Layout) (p : Position) : Editor × Action :=
  match l.pixelAt? p with
  | some (row, column) =>
    if s.paint.isSome then
      ({ s with pixelRow := row, pixelColumn := column }.paintAt row column, .redraw)
    else (s, .ignore)
  | none => (s, .ignore)

/-- A report of the mouse while no question is open. -/
def mouseNormal (s : Editor) (l : Layout) (m : Mouse) : Editor × Action :=
  match m.action with
  | .down .left => s.mouseDown l ⟨m.column, m.row⟩
  | .drag .left => s.mouseDrag l ⟨m.column, m.row⟩
  | .up .left => (s.endPaint, .ignore)
  | .scrollDown => (s.scrollDown wheelScroll, .redraw)
  | .scrollUp => (s.scrollUp wheelScroll, .redraw)
  | _ => (s, .ignore)

/-- A report of the mouse. Nothing happens while a question is open. -/
def mouse (s : Editor) (l : Layout) (m : Mouse) : Editor × Action :=
  match s.mode with
  | .normal => s.mouseNormal l m
  | .asking _ _ => (s, .ignore)

/-! ## Events -/

/-- What an event does, and what has to follow. -/
def handle (s : Editor) (now : Time) (l : Layout) : Event → Editor × Action
  | .key k => s.press now k
  | .mouse m => s.mouse l m
  | .resize => (s, .redraw)
  | _ => (s, .ignore)

end Editor

end CharLcd
