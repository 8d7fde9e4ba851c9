import CharLcd.Json.Number
import CharLcd.Json.Token

/-!
# Documents

A JSON text as a tree. A text that is not JSON has a tree too, which ends where
the text goes wrong; whoever reads the tree from left to right finds what comes
before the fault first.

- `Value`: the tree; `Ending` says how an array or an object ends.
- `Value.skipFault?`, `Value.readFault?`: the fault met when a value is skipped,
  and when all of it is read.
- `Place`: what has been built when a token comes; `Place.step`, `Place.finish`.
- `Document.ofText`: the document of a text.
-/

namespace CharLcd.Json

/-- How an array or an object ends. -/
inductive Ending where
  | closed
  /-- After an item comes neither a comma nor the closing bracket. -/
  | unclosed (fault : Fault)
  /-- A key is missing; `none` at the end of the text. -/
  | noKey (found : Option Token)
  /-- The text goes wrong inside the last item; the fault is the one met when
  that item is skipped. -/
  | inner (fault : Fault)
  deriving DecidableEq, Repr

/-- A JSON value, possibly cut off by a fault of the text. A key, like a string,
is `none` when its escapes leave half of a surrogate pair alone. -/
inductive Value where
  | null
  | bool (b : Bool)
  | number (spelling : List Char)
  | string (content : Option String)
  | array (items : List Value) (ending : Ending)
  | object (members : List (Option String × Value)) (ending : Ending)
  | broken (breach : Breach)

/-- The breach of a key that is missing. A string that is cut may have been one;
nothing else may. -/
def missingKey : Option Token → Breach
  | none => .ended
  | some (.broken (.text whenRead whenSkipped)) => .text whenRead whenSkipped
  | some _ => .stray

namespace Ending

/-- The fault that an ending brings when its array or object is read. -/
def readFault? : Ending → Option Fault
  | closed => none
  | unclosed fault => some fault
  | noKey found => some (missingKey found).whenRead
  | inner fault => some fault

/-- The fault that an ending brings when its array or object is skipped. -/
def skipFault? : Ending → Option Fault
  | closed => none
  | unclosed fault => some fault
  | noKey found => some (missingKey found).whenSkipped
  | inner fault => some fault

end Ending

namespace Value

/-- The fault met when a value is skipped. Nothing in it is looked at but its end. -/
def skipFault? : Value → Option Fault
  | broken breach => some breach.whenSkipped
  | array _ ending => ending.skipFault?
  | object _ ending => ending.skipFault?
  | _ => none

end Value

mutual

/-- The fault met when all of a value is read and `room` levels may still be
opened. A number that is too large, half a surrogate pair and a level too many
are malformed then. -/
def Value.readFault? (room : Nat) : Value → Option Fault
  | .null => none
  | .bool _ => none
  | .number spelling => if (Number.ofSpelling? spelling).isSome then none else some .malformed
  | .string content => if content.isSome then none else some .malformed
  | .array items ending =>
    match room with
    | 0 => some .malformed
    | room + 1 => (itemsFault? room items).or ending.readFault?
  | .object members ending =>
    match room with
    | 0 => some .malformed
    | room + 1 => (membersFault? room members).or ending.readFault?
  | .broken breach => some breach.whenRead

/-- The first fault met when the items of an array are read. -/
def itemsFault? (room : Nat) : List Value → Option Fault
  | [] => none
  | item :: rest => (item.readFault? room).or (itemsFault? room rest)

/-- The first fault met when the members of an object are read. -/
def membersFault? (room : Nat) : List (Option String × Value) → Option Fault
  | [] => none
  | (key, value) :: rest =>
    if key.isNone then some .malformed
    else (value.readFault? room).or (membersFault? room rest)

end

/-! ## Building the tree -/

/-- An array or object that waits for the value it contains. What it holds
already is given last one first. -/
inductive Frame where
  | array (items : List Value)
  | object (members : List (Option String × Value)) (key : Option String)

/-- What has been built and what may come next. The frames are those around the
current place, innermost first. -/
inductive Place where
  /-- A value must come. -/
  | value (frames : List Frame)
  /-- After `[`. -/
  | first (frames : List Frame)
  /-- After an item. -/
  | next (items : List Value) (frames : List Frame)
  /-- After an opening brace. -/
  | firstKey (frames : List Frame)
  /-- After the comma that follows a member. -/
  | nextKey (members : List (Option String × Value)) (frames : List Frame)
  /-- After a key. -/
  | colon (members : List (Option String × Value)) (key : Option String) (frames : List Frame)
  /-- After a member. -/
  | nextMember (members : List (Option String × Value)) (frames : List Frame)
  /-- The whole value has been read. -/
  | done (value : Value)
  /-- The text went on after the whole value. -/
  | trailing (value : Value)
  /-- The text went wrong. -/
  | failed (value : Value)

/-- A value together with what follows it. -/
structure Document where
  value : Value
  /-- Whether the value is followed by anything but space. -/
  trailing : Bool

namespace Place

/-- Put a finished value where it belongs. -/
def deliver (value : Value) : List Frame → Place
  | [] => done value
  | .array items :: frames => next (value :: items) frames
  | .object members key :: frames => nextMember ((key, value) :: members) frames

/-- Close all frames around a value that goes wrong. -/
def abandon (fault : Fault) (value : Value) : List Frame → Value
  | [] => value
  | .array items :: frames =>
    abandon fault (.array (value :: items).reverse (.inner fault)) frames
  | .object members key :: frames =>
    abandon fault (.object ((key, value) :: members).reverse (.inner fault)) frames

/-- End the text with a value that goes wrong. -/
def fail (value : Value) (frames : List Frame) : Place :=
  failed (abandon (value.skipFault?.getD .malformed) value frames)

/-- What a token at the place of a value does. -/
def beginValue (frames : List Frame) : Token → Place
  | .null => deliver .null frames
  | .bool b => deliver (.bool b) frames
  | .number spelling => deliver (.number spelling) frames
  | .string content => deliver (.string content) frames
  | .openArray => first frames
  | .openObject => firstKey frames
  | .broken breach => fail (.broken breach) frames
  | .closeArray | .closeObject | .comma | .colon => fail (.broken .stray) frames

/-- The place after a token. -/
def step : Place → Token → Place
  | value frames, token => beginValue frames token
  | first frames, .closeArray => deliver (.array [] .closed) frames
  | first frames, token => beginValue (.array [] :: frames) token
  | next items frames, .closeArray => deliver (.array items.reverse .closed) frames
  | next items frames, .comma => value (.array items :: frames)
  | next items frames, _ => fail (.array items.reverse (.unclosed .malformed)) frames
  | firstKey frames, .closeObject => deliver (.object [] .closed) frames
  | firstKey frames, .string k => colon [] k frames
  | firstKey frames, token => fail (.object [] (.noKey (some token))) frames
  | nextKey members frames, .string k => colon members k frames
  | nextKey members frames, token => fail (.object members.reverse (.noKey (some token))) frames
  | colon members k frames, .colon => value (.object members k :: frames)
  | colon members k frames, _ => fail (.broken .stray) (.object members k :: frames)
  | nextMember members frames, .closeObject => deliver (.object members.reverse .closed) frames
  | nextMember members frames, .comma => nextKey members frames
  | nextMember members frames, _ => fail (.object members.reverse (.unclosed .malformed)) frames
  | done v, _ => trailing v
  | trailing v, _ => trailing v
  | failed v, _ => failed v

/-- The document when the text ends at a place. -/
def finish : Place → Document
  | value frames => cut (.broken .ended) frames
  | first frames => cut (.array [] (.unclosed .ended)) frames
  | next items frames => cut (.array items.reverse (.unclosed .ended)) frames
  | firstKey frames => cut (.object [] (.noKey none)) frames
  | nextKey members frames => cut (.object members.reverse (.noKey none)) frames
  | colon members k frames => cut (.broken .ended) (.object members k :: frames)
  | nextMember members frames => cut (.object members.reverse (.unclosed .ended)) frames
  | done v => ⟨v, false⟩
  | trailing v => ⟨v, true⟩
  | failed v => ⟨v, false⟩
where
  /-- The document when the text ends inside some frames. -/
  cut (v : Value) (frames : List Frame) : Document := ⟨abandon .ended v frames, false⟩

end Place

namespace Document

/-- The document of a list of tokens. -/
def ofTokens (tokens : List Token) : Document :=
  (tokens.foldl Place.step (.value [])).finish

/-- The document of a text. -/
def ofText (text : String) : Document :=
  ofTokens (tokens text.toList)

end Document

end CharLcd.Json
