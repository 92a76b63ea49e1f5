import DebugConsole.TextStyle

/-!
# Screen messages

Messages that stand on the screen for a while. Time is measured in seconds of single precision,
and a message leaves when its remaining time is below zero or is not a number.

A tick ages the messages in place, from the last one to the first: taking a message out moves only
messages that have been aged already.
-/

namespace DebugConsole

/-- A message and the seconds it has left. -/
structure ScreenMessage where
  text      : String
  remaining : Float32
  style     : TextStyle

/-- Whether a remaining time is over. -/
def expired (remaining : Float32) : Bool := remaining.isNaN || remaining < 0

/-- The message some seconds later. -/
def ScreenMessage.aged (dt : Float32) (m : ScreenMessage) : ScreenMessage :=
  { m with remaining := m.remaining - dt }

/-- The messages on the screen, in the order they were put there. -/
structure Screen where
  messages : List ScreenMessage := []

namespace Screen

def push (s : Screen) (text : String) (duration : Float32) (style : TextStyle) : Screen where
  messages := s.messages ++ [{ text, remaining := duration, style }]

/-- Age the message at a place, or take it out if its time is then over. There is no answer if the
place is out of range. -/
def ageAt? (dt : Float32) (i : Nat) (ms : List ScreenMessage) : Option (List ScreenMessage) :=
  ms[i]?.map fun m =>
    if expired (m.aged dt).remaining then ms.eraseIdx i else ms.set i (m.aged dt)

/-- Age the messages at the places below a bound, the last of them first. -/
def ageBelow? (dt : Float32) : Nat → List ScreenMessage → Option (List ScreenMessage)
  | 0, ms     => some ms
  | i + 1, ms => (ageAt? dt i ms).bind (ageBelow? dt i)

/-- The messages some seconds later, unless a place is out of range. -/
def ticked? (s : Screen) (dt : Float32) : Option (List ScreenMessage) :=
  ageBelow? dt s.messages.length s.messages

def tick (s : Screen) (dt : Float32) : Screen where
  messages := (s.ticked? dt).getD s.messages

@[simp] theorem messages_push (s : Screen) (text : String) (duration : Float32)
    (style : TextStyle) :
    (s.push text duration style).messages
      = s.messages ++ [{ text, remaining := duration, style }] := rfl

end Screen

end DebugConsole
