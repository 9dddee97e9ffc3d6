import AiScript.DataText.Numeral
import AiScript.SettingsText.Layout

/-!
# Numbers and times of a settings file

Integers, decimals, dates and times of day are written as runs of characters without blanks, but for
the one blank that may part a date from the time of that day. No setting asks for a number or a
time, so only whether one is well written matters.
-/

namespace AiScript.SettingsText

open DataText (Numeral)

/-- Does every underscore stand between two digits? -/
def partsDigits : List Char → Bool
  | [] => false
  | [c] => c != '_'
  | c :: '_' :: rest => c != '_' && partsDigits rest
  | c :: rest => c != '_' && partsDigits rest

/-- Read digits of a base, parted by single underscores. -/
def natural? (base : Nat) (digits : List Char) : Option Nat :=
  if partsDigits digits then Numeral.natural? base digits else none

/-- Does a run of digits of base ten have a zero in front of its other digits? -/
def hasLeadingZero (digits : List Char) : Bool := digits.head? = some '0' && digits != ['0']

/-- Read an integer of 64 bits. Only one in base ten may have a sign, and none has a zero in front
of its other digits. -/
def integer? (word : List Char) : Option Int := do
  let value ← match word with
    | '0' :: 'x' :: digits => (natural? 16 digits).map Int.ofNat
    | '0' :: 'o' :: digits => (natural? 8 digits).map Int.ofNat
    | '0' :: 'b' :: digits => (natural? 2 digits).map Int.ofNat
    | word =>
      let numeral := Numeral.ofChars word
      if hasLeadingZero numeral.body then none
      else (natural? 10 numeral.body).map fun value =>
        if numeral.negative then -(value : Int) else value
  if -0x8000000000000000 ≤ value ∧ value < 0x8000000000000000 then some value else none

/-- Is this a run of digits of base ten, parted by single underscores? -/
def isDigits (digits : List Char) : Bool := (natural? 10 digits).isSome

/-- May the character stand in a run of digits? -/
def isDigitChar (c : Char) : Bool := c.isDigit || c == '_'

/-- Is this the exponent of a decimal? -/
def isExponent : List Char → Bool
  | 'e' :: rest | 'E' :: rest => isDigits (Numeral.ofChars rest).body
  | _ => false

/-- Is this a decimal without its sign? It has digits behind its point or an exponent, or both. -/
def isPlainDecimal (body : List Char) : Bool :=
  let whole := body.takeWhile isDigitChar
  let isFraction := fun chars : List Char =>
    let exponent := chars.dropWhile isDigitChar
    isDigits (chars.takeWhile isDigitChar) && (exponent.isEmpty || isExponent exponent)
  isDigits whole && !hasLeadingZero whole &&
    match body.dropWhile isDigitChar with
    | '.' :: rest => isFraction rest
    | rest => isExponent rest

/-- Is this the body of a decimal that rounds to a finite number of 64 bits? -/
def isFinite (body : List Char) : Bool :=
  (Numeral.plainDecimal? (body.filter (· != '_'))).any fun (digits, exponent) =>
    FloatFormat.double.ofDecimal digits exponent < FloatFormat.double.infinity

/-- Is this a decimal? One above zero must not round to infinity. Infinity and the number that is
none have names. -/
def isDecimal (word : List Char) : Bool :=
  let numeral := Numeral.ofChars word
  numeral.body == ['i', 'n', 'f'] || numeral.body == ['n', 'a', 'n'] ||
    (isPlainDecimal numeral.body && (numeral.negative || isFinite numeral.body))

/-- The number that two digits write, if it lies in a range. -/
def twoDigits? (low high : Nat) (tens ones : Char) : Option Nat :=
  if tens.isDigit ∧ ones.isDigit then
    let value := Numeral.ofDigits [tens, ones]
    if low ≤ value ∧ value ≤ high then some value else none
  else none

/-- How many days a month has. -/
def daysOfMonth (year month : Nat) : Nat :=
  if month = 2 then
    if year % 4 = 0 ∧ (year % 100 ≠ 0 ∨ year % 400 = 0) then 29 else 28
  else if month ∈ [4, 6, 9, 11] then 30
  else 31

/-- What follows a date. -/
def afterDate? : List Char → Option (List Char)
  | y₁ :: y₂ :: y₃ :: y₄ :: '-' :: m₁ :: m₂ :: '-' :: d₁ :: d₂ :: rest => do
    let year := [y₁, y₂, y₃, y₄]
    let month ← twoDigits? 1 12 m₁ m₂
    let _ ← twoDigits? 1 (daysOfMonth (Numeral.ofDigits year) month) d₁ d₂
    if year.all Char.isDigit then some rest else none
  | _ => none

/-- What follows hours and minutes. -/
def afterMinutes? : List Char → Option (List Char)
  | h₁ :: h₂ :: ':' :: m₁ :: m₂ :: rest => do
    let _ ← twoDigits? 0 23 h₁ h₂
    let _ ← twoDigits? 0 59 m₁ m₂
    return rest
  | _ => none

/-- What follows a time of day. A minute may have one second more than sixty, and a second may have
a fraction. -/
def afterTime? (chars : List Char) : Option (List Char) := do
  match ← afterMinutes? chars with
  | ':' :: s₁ :: s₂ :: rest => do
    let _ ← twoDigits? 0 60 s₁ s₂
    match rest with
    | '.' :: c :: rest =>
      if c.isDigit then some (rest.dropWhile Char.isDigit) else some ('.' :: c :: rest)
    | rest => some rest
  | _ => none

/-- Is this nothing, or how far a time is from universal time? -/
def isOffset : List Char → Bool
  | [] | ['Z'] | ['z'] => true
  | '+' :: rest | '-' :: rest => afterMinutes? rest == some []
  | _ => false

/-- Is this a time of day in some place? -/
def isPlacedTime (chars : List Char) : Bool := (afterTime? chars).any isOffset

/-- Is this a date or a time of day, or both? -/
def isMoment (word : List Char) : Bool :=
  afterTime? word == some [] ||
    match afterDate? word with
    | some [] => true
    | some ('T' :: time) | some ('t' :: time) => isPlacedTime time
    | _ => false

end AiScript.SettingsText
