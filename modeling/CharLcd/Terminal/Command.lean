/-!
# Terminal commands

What a program asks of the terminal, and the text that asks for it.

- `Terminal.Command`: the commands.
- `Terminal.Style`: colours and attributes of styled text.
- `Command.text`, `render`: the text of a command and of a list of commands.
-/

namespace CharLcd.Terminal

/-- Attributes of text. -/
inductive Attribute where
  | bold
  | dim
  | reverse
  deriving DecidableEq, Repr

/-- The two colours in use. -/
inductive Color where
  | darkBlue
  | white
  deriving DecidableEq, Repr

/-- The look of a piece of text. -/
structure Style where
  background : Option Color := none
  foreground : Option Color := none
  dim : Bool := false
  reverse : Bool := false
  deriving DecidableEq, Repr

/-- What a terminal can be asked to do. Columns and rows count from zero. -/
inductive Command where
  | moveTo (column row : Nat)
  | print (text : String)
  | set (a : Attribute)
  /-- Drop all attributes. -/
  | reset
  /-- Print text with a style, and go back to plain text. -/
  | styled (style : Style) (text : String)
  | clearScreen
  | clearLine
  | hideCursor
  | showCursor
  /-- Change to the second screen, and back. -/
  | enterScreen
  | leaveScreen
  | captureMouse
  | releaseMouse
  deriving DecidableEq, Repr

/-- The start of an escape sequence. -/
def escape : String := "\x1b["

/-- The code that switches an attribute on. -/
def Attribute.text : Attribute → String
  | bold => escape ++ "1m"
  | dim => escape ++ "2m"
  | reverse => escape ++ "7m"

/-- The code that drops all attributes. -/
def resetText : String := escape ++ "0m"

/-- The number of a colour in the palette. -/
def Color.index : Color → Nat
  | darkBlue => 4
  | white => 15

namespace Style

/-- The attributes of a style. -/
def attributes (s : Style) : List Attribute :=
  (if s.dim then [.dim] else []) ++ (if s.reverse then [.reverse] else [])

/-- The codes before styled text: colours, then attributes. -/
def before (s : Style) : String :=
  (match s.background with
    | some color => escape ++ "48;5;" ++ toString color.index ++ "m"
    | none => "") ++
  (match s.foreground with
    | some color => escape ++ "38;5;" ++ toString color.index ++ "m"
    | none => "") ++
  String.join (s.attributes.map Attribute.text)

/-- The codes after styled text. Dropping the attributes drops the colours too. -/
def after (s : Style) : String :=
  if s.attributes.isEmpty then
    (if s.background.isSome then escape ++ "49m" else "") ++
    (if s.foreground.isSome then escape ++ "39m" else "")
  else resetText

end Style

/-- The modes of mouse reporting, in the order in which they are switched on. -/
def mouseModes : List String := ["1000", "1002", "1003", "1015", "1006"]

/-- The text that asks the terminal for a command. -/
def Command.text : Command → String
  | moveTo column row => escape ++ toString (row + 1) ++ ";" ++ toString (column + 1) ++ "H"
  | print text => text
  | set a => a.text
  | reset => resetText
  | styled style text => style.before ++ text ++ style.after
  | clearScreen => escape ++ "2J"
  | clearLine => escape ++ "2K"
  | hideCursor => escape ++ "?25l"
  | showCursor => escape ++ "?25h"
  | enterScreen => escape ++ "?1049h"
  | leaveScreen => escape ++ "?1049l"
  | captureMouse => String.join (mouseModes.map fun mode => escape ++ "?" ++ mode ++ "h")
  | releaseMouse => String.join (mouseModes.reverse.map fun mode => escape ++ "?" ++ mode ++ "l")

/-- The text of a list of commands. -/
def render (commands : List Command) : String :=
  String.join (commands.map Command.text)

@[simp] theorem render_nil : render [] = "" := rfl

@[simp] theorem render_cons (c : Command) (commands : List Command) :
    render (c :: commands) = c.text ++ render commands := by
  rw [render, List.map_cons, String.join_cons, render]

@[simp] theorem render_append (commands more : List Command) :
    render (commands ++ more) = render commands ++ render more := by
  induction commands with
  | nil => simp
  | cons c commands ih => rw [List.cons_append, render_cons, ih, render_cons, String.append_assoc]

end CharLcd.Terminal
