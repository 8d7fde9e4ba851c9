/-!
# Terminal events

What a terminal reports to a program: keys, the mouse, and a few more. A terminal
can say more of an event than stands here: whether a key goes down, repeats or
comes up, whether it is on the keypad and which locks are on, the modifiers held
down while the mouse is used, the new size of the terminal. No program here looks
at any of that.

- `Key`: a key with the modifiers held down.
- `Mouse`: what the mouse did, and where.
- `Event`: everything that can be reported.
-/

namespace CharLcd.Terminal

/-- Keys. -/
inductive KeyCode where
  | backspace
  | enter
  | left
  | right
  | up
  | down
  | home
  | lineEnd
  | pageUp
  | pageDown
  | tab
  | backTab
  | delete
  | insert
  | esc
  | null
  /-- A key that stands for a character. -/
  | char (c : Char)
  /-- A function key. -/
  | function (n : Nat)
  /-- Any other key, by its name: a lock, a key for media or a modifier on its own,
  and the few that are found on some keyboards only. -/
  | other (name : String)
  deriving DecidableEq, Repr

/-- The modifiers that are held down. -/
structure Modifiers where
  shift : Bool := false
  ctrl : Bool := false
  alt : Bool := false
  super : Bool := false
  hyper : Bool := false
  metaKey : Bool := false
  deriving DecidableEq, Repr

/-- A key press. -/
structure Key where
  code : KeyCode
  modifiers : Modifiers := {}
  deriving DecidableEq, Repr

/-- Mouse buttons. -/
inductive Button where
  | left
  | right
  | middle
  deriving DecidableEq, Repr

/-- What the mouse did. -/
inductive MouseAction where
  | down (button : Button)
  | up (button : Button)
  /-- Moved while a button is held down. -/
  | drag (button : Button)
  | moved
  | scrollDown
  | scrollUp
  | scrollLeft
  | scrollRight
  deriving DecidableEq, Repr

/-- A report of the mouse. -/
structure Mouse where
  action : MouseAction
  column : Nat
  row : Nat
  deriving DecidableEq, Repr

/-- What a terminal reports. -/
inductive Event where
  | key (k : Key)
  | mouse (m : Mouse)
  /-- The size of the terminal has changed. -/
  | resize
  | focusGained
  | focusLost
  | paste (text : String)
  deriving DecidableEq, Repr

end CharLcd.Terminal
