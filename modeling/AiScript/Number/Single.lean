import AiScript.Number.FloatFormat

/-!
# Single-precision numbers

Coordinates and orientations are kept as the bits that storage hands over, so that no operation
can disturb them. Reading a decimal rounds once, to the nearest number; the text of a number has
the fewest digits that read back, without an exponent.
-/

namespace AiScript

/-- A single-precision number, by its bits. -/
structure Single where
  bits : UInt32
deriving DecidableEq, Inhabited

namespace Single

/-- The sign bit. -/
def signBit : UInt32 := 0x80000000

/-- The bits of positive infinity. -/
def infinityBits : UInt32 := 0x7F800000

/-- Positive zero. -/
def zero : Single := ⟨0⟩

/-- The number that every invalid text form stands for. -/
def nan : Single := ⟨0x7FC00000⟩

/-- Put a sign before a pattern. -/
def ofPattern (negative : Bool) (pattern : Nat) : Single :=
  ⟨if negative then signBit ||| UInt32.ofNat pattern else UInt32.ofNat pattern⟩

/-- Infinity of either sign. -/
def infinite (negative : Bool) : Single := ofPattern negative infinityBits.toNat

/-- The single nearest to a decimal. -/
def ofDecimal (negative : Bool) (digits : Nat) (exponent : Int) : Single :=
  ofPattern negative (FloatFormat.single.ofDecimal digits exponent)

/-- The single nearest to the double nearest to a decimal. The two roundings may differ from one. -/
def ofDecimalThroughDouble (negative : Bool) (digits : Nat) (exponent : Int) : Single :=
  let pattern := FloatFormat.double.ofDecimal digits exponent
  if pattern < FloatFormat.double.infinity then
    let exact := FloatFormat.double.value pattern
    ofPattern negative (FloatFormat.single.nearest exact.1 exact.2)
  else infinite negative

/-- The bits without the sign. They order numbers by absolute value, and a NaN is above infinity. -/
def magnitude (x : Single) : UInt32 := x.bits &&& 0x7FFFFFFF

/-- Is the sign bit set? -/
def isNegative (x : Single) : Bool := x.bits &&& signBit != 0

/-- Is this no number at all? -/
def isNaN (x : Single) : Bool := infinityBits < x.magnitude

/-- Is the absolute value of `x` greater than that of `bound`? A NaN compares false. -/
def absExceeds (x bound : Single) : Bool :=
  !x.isNaN && !bound.isNaN && bound.magnitude < x.magnitude

/-- Two times the ratio of a circle's circumference to its diameter. -/
def fullTurn : Single := ⟨0x40C90FDB⟩

/-- Write digits followed by a power of ten without an exponent. -/
def positional (digits : Nat) (exponent : Int) : String :=
  let written := toString digits
  if 0 ≤ exponent then written ++ "".pushn '0' exponent.toNat
  else
    let places := (-exponent).toNat
    if places < written.length then
      let whole := written.length - places
      String.ofList (written.toList.take whole) ++ "." ++ String.ofList (written.toList.drop whole)
    else "0." ++ "".pushn '0' (places - written.length) ++ written

/-- The text of a number: the fewest digits that read back, and never an exponent. -/
def text (x : Single) : String :=
  let unsigned :=
    if x.magnitude = infinityBits then "inf"
    else if x.magnitude = 0 then "0"
    else
      let decimal := FloatFormat.single.shortest x.magnitude.toNat
      positional decimal.1 decimal.2
  if x.isNaN then "NaN" else if x.isNegative then "-" ++ unsigned else unsigned

end Single

end AiScript
