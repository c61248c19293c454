import PulseBridge.Ascii
import PulseBridge.Octets
import PulseBridge.Text.Lossy

/-!
# Control sequences of terminals

A terminal takes some of what it is sent as commands: single controls, and sequences that begin
with the escape control. `plain` takes them out of a text, for a reader that is no terminal. Line
ends, tabs and the like are kept, also where they stand inside a sequence that a terminal would go
on reading after them.

## Implementation notes

The octets are read in two modes. What is shown is copied until an octet comes that is no part of
the text; what is hidden is passed over, along the states of a terminal, until an octet comes that
is. An octet that changes the mode is looked at again in the new one.
-/

namespace PulseBridge.Text.Terminal

/-- Where the reading of a sequence stands. -/
inductive State where
  /-- Outside of sequences. -/
  | ground
  /-- After the escape control. -/
  | escape
  /-- In a sequence of a few octets. -/
  | short
  /-- In a control sequence, which ends in a letter. -/
  | control
  /-- At the start of a device's string, in its parameters and after them. -/
  | deviceStart
  | deviceParameters
  | deviceMiddle
  /-- In a string of a device, or one without meaning. -/
  | string
  /-- In a string of the system, which ends in a bell. -/
  | system
  deriving DecidableEq, Repr

/-- The escape control. -/
def escapeOctet : UInt8 := 0x1b

/-- The bell. -/
def bell : UInt8 := 0x07

/-- The octet that ends a string. -/
def stringEnd : UInt8 := 0x9c

/-- Whether an octet breaks off every sequence. -/
def isCancel (b : UInt8) : Bool := b == 0x18 || b == 0x1a

/-- Whether an octet of ASCII is shown. -/
def isGraphic (b : UInt8) : Bool := 0x20 ≤ b && b ≤ 0x7e

/-- Whether an octet is one of the letters and signs that end a sequence. -/
def isFinal (b : UInt8) : Bool := 0x40 ≤ b && b ≤ 0x7e

/-- Whether an octet is one of the signs that may stand in the middle of a sequence. -/
def isMiddle (b : UInt8) : Bool := 0x20 ≤ b && b ≤ 0x2f

/-- Whether an octet is a control that is a blank of some kind. -/
def isBlankControl (b : UInt8) : Bool :=
  b == Ascii.tab || b == Ascii.lineFeed || b == 0x0c || b == Ascii.carriageReturn

/-- Whether an octet begins a character beyond ASCII. -/
def beginsChar (b : UInt8) : Bool := 0xc2 ≤ b && b ≤ 0xf4

/-- The state after the escape control and one more octet. -/
def afterEscape (b : UInt8) : State :=
  if isMiddle b then .short
  else if b == 0x5b then .control
  else if b == 0x5d then .system
  else if b == 0x50 then .deviceStart
  else if b == 0x58 || b == 0x5e || b == 0x5f then .string
  else if 0x30 ≤ b && b ≤ 0x7e then .ground
  else .escape

/-- The state after an octet. -/
def State.next (state : State) (b : UInt8) : State :=
  if isCancel b then .ground
  else if b == escapeOctet then .escape
  else
    match state with
    | .ground => .ground
    | .escape => afterEscape b
    | .short => if 0x30 ≤ b && b ≤ 0x7e then .ground else .short
    | .control => if isFinal b then .ground else .control
    | .deviceStart =>
        if isMiddle b then .deviceMiddle
        else if b == 0x3a || isFinal b then .string
        else if 0x30 ≤ b && b ≤ 0x3f then .deviceParameters
        else .deviceStart
    | .deviceParameters =>
        if isMiddle b then .deviceMiddle
        else if b == 0x3a || (0x3c ≤ b && b ≤ 0x3f) || isFinal b then .string
        else .deviceParameters
    | .deviceMiddle => if 0x30 ≤ b && b ≤ 0x7e then .string else .deviceMiddle
    | .string => if b == stringEnd then .ground else .string
    | .system => if b == bell then .ground else .system

/-- Whether an octet that comes in a state belongs to the text. -/
def State.shows (state : State) (b : UInt8) : Bool :=
  match state with
  | .ground => isGraphic b || isBlankControl b || beginsChar b
  | .escape | .short | .control => isBlankControl b
  | _ => false

/-- Take one octet: whether the text is being copied, the state, and the octets of the text so far,
last first. -/
def step : Bool × State × Octets → UInt8 → Bool × State × Octets
  | (copying, state, text), b =>
      if copying && (isGraphic b || isBlankControl b) then (true, state, b :: text)
      else if copying && 0x80 ≤ b then (true, .ground, b :: text)
      else if state.shows b then (true, state.next b, b :: text)
      else (false, state.next b, text)

/-- The text without its commands. -/
def plain (text : String) : String :=
  let (_, _, shown) := (Octets.ofText text).foldl step (true, .ground, [])
  Octets.lossyText shown.reverse

/-- The sequence that makes what follows bold. -/
def bold : String := "\x1b[1m"

/-- The sequence that ends what a sequence began. -/
def reset : String := "\x1b[0m"

end PulseBridge.Text.Terminal
