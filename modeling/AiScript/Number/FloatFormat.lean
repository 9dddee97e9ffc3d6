/-!
# Binary floating-point formats

A format is given by three sizes, and a nonnegative number of it is named by its *pattern*, the
natural number that its bits spell without the sign. Patterns grow with the numbers they name, so
rounding is a function into patterns, and infinity is the pattern one past the largest finite
number.

Everything here is exact natural-number arithmetic on quotients. `nearest` rounds a quotient to
the format, ties to the even neighbour; `shortest` is the way back, the decimal with the fewest
digits that `nearest` sends to a given pattern.
-/

namespace AiScript

/-- A binary floating-point format, by its sizes. -/
structure FloatFormat where
  /-- Bits of a full significand. -/
  precision : Nat
  /-- The smallest positive number is two to this power. -/
  lowest : Int
  /-- Every finite number is below two to this power. -/
  ceiling : Int

namespace FloatFormat

/-- The format of 32 bits. -/
def single : FloatFormat := ⟨24, -149, 128⟩

/-- The format of 64 bits. -/
def double : FloatFormat := ⟨53, -1074, 1024⟩

/-- One past the pattern of the largest finite number. -/
def infinity (format : FloatFormat) : Nat :=
  (format.ceiling - format.lowest - format.precision + 2).toNat * Nat.pow 2 (format.precision - 1)

/-- Divide a quotient by a power of an integer base. -/
def rescale (base : Nat) (exponent : Int) (num den : Nat) : Nat × Nat :=
  if 0 ≤ exponent then (num, den * Nat.pow base exponent.toNat)
  else (num * Nat.pow base (-exponent).toNat, den)

/-- The nearest integer to a quotient; a half goes to the even neighbour. -/
def roundHalfEven (num den : Nat) : Nat :=
  let quotient := num / den
  let rest := num % den
  if 2 * rest < den ∨ (2 * rest = den ∧ quotient % 2 = 0) then quotient else quotient + 1

/-- The power of two that a positive quotient reaches but does not double. -/
def binaryOrder (num den : Nat) : Int :=
  let estimate : Int := (Nat.log2 num : Int) - (Nat.log2 den : Int)
  let scaled := rescale 2 estimate num den
  if scaled.1 < scaled.2 then estimate - 1 else estimate

/-- The exponent of the last place that the format keeps of a positive quotient. -/
def lastPlace (format : FloatFormat) (num den : Nat) : Int :=
  max format.lowest (binaryOrder num den + 1 - format.precision)

/-- The pattern nearest to a quotient; a tie goes to the even significand.

A significand that rounds up to the next power of two carries into the exponent by itself,
because patterns count on through it. -/
def nearest (format : FloatFormat) (num den : Nat) : Nat :=
  if num = 0 then 0
  else
    let place := format.lastPlace num den
    let scaled := rescale 2 place num den
    min format.infinity
      ((place - format.lowest).toNat * Nat.pow 2 (format.precision - 1)
        + roundHalfEven scaled.1 scaled.2)

/-- Significand and exponent of a finite pattern. -/
def split (format : FloatFormat) (pattern : Nat) : Nat × Int :=
  let unit := Nat.pow 2 (format.precision - 1)
  if pattern < unit then (pattern, format.lowest)
  else (unit + pattern % unit, format.lowest + ((pattern / unit : Nat) : Int) - 1)

/-- The number that a finite pattern names, as a quotient. -/
def value (format : FloatFormat) (pattern : Nat) : Nat × Nat :=
  let parts := format.split pattern
  rescale 2 (-parts.2) parts.1 1

/-- The pattern nearest to a decimal, given by its digits and the power of ten behind them.

The first two cases only avoid huge powers: such decimals are past the ceiling, or below half of
the smallest positive number. -/
def ofDecimal (format : FloatFormat) (digits : Nat) (exponent : Int) : Nat :=
  let size : Int := (Nat.toDigits 10 digits).length
  if digits = 0 then 0
  else if format.ceiling < exponent + size then format.infinity
  else if exponent + size < format.lowest then 0
  else
    let scaled := rescale 10 (-exponent) digits 1
    format.nearest scaled.1 scaled.2

/-- The multiple of a power of ten that reads back as the pattern, if there is one. Of two such
multiples the nearer one is taken, and the larger one of a tie. -/
def gridPoint (format : FloatFormat) (pattern : Nat) (exponent : Int) : Option Nat :=
  let exact := format.value pattern
  let scaled := rescale 10 exponent exact.1 exact.2
  let below := scaled.1 / scaled.2
  let nearBelow := 2 * (scaled.1 % scaled.2) < scaled.2
  let candidates := if nearBelow then [below, below + 1] else [below + 1, below]
  candidates.find? fun digits => format.ofDecimal digits exponent = pattern

/-- The decimal with the fewest digits that reads back as a positive finite pattern, as digits and
the power of ten behind them.

The grids of multiples are tried from the coarsest on. Ten is more than two cubed, so a third of
the format's binary range bounds its decimal range on either side. -/
def shortest (format : FloatFormat) (pattern : Nat) : Nat × Int :=
  let coarsest := format.ceiling / 3 + 1
  let finest := format.lowest / 3 - 1
  let grids := (List.range (coarsest - finest).toNat).map fun step : Nat => coarsest - (step : Int)
  (grids.findSome? fun exponent =>
    (format.gridPoint pattern exponent).map fun digits => (digits, exponent)).getD (0, 0)

end FloatFormat

end AiScript
