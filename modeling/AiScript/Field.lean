/-!
# Payload fields

What the parameter slots of a row can spell: plain numbers, truth values, windows and lists of
numbers. The payloads of events, actions and targets name their fields, and `Field` is what such a
name stands for.
-/

namespace AiScript

/-- A range from `min` to `max`, both included, most often of milliseconds. -/
structure Window where
  min : UInt32
  max : UInt32
deriving DecidableEq

/-- Does the window not end before it starts? -/
def Window.isOrdered (window : Window) : Bool := window.min ≤ window.max

/-- The window of the first time, and the window of every later time. -/
structure WindowPair where
  initial : Window
  recurring : Window
deriving DecidableEq

/-- Both windows, the first time first. -/
def WindowPair.toList (pair : WindowPair) : List Window := [pair.initial, pair.recurring]

/-- The value of one payload field. -/
inductive Field where
  | word (value : UInt32)
  | flag (value : Bool)
  | window (value : Window)
  | windows (value : WindowPair)
  | words (values : List UInt32)

end AiScript
