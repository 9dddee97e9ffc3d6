import AiScript.Number.Single

/-!
# Numerals

A numeral of a data file is a sign and the characters behind it, and what it means depends on the
number that is wanted. Read as an integer it may be written in base 2, 8, 10 or 16; read as a
decimal it may have a point and an exponent. Underscores may part the digits of either.

A numeral may end with a mark that says what sort of number it is. It is then of that sort only,
even if another sort could hold the value.
-/

namespace AiScript.DataText

/-- A sort of integers of so many bits. -/
structure IntegerSort where
  signed : Bool
  bits : Nat
deriving DecidableEq

namespace IntegerSort

/-- The sorts that have a mark. -/
def marked : List IntegerSort :=
  [⟨true, 8⟩, ⟨true, 16⟩, ⟨true, 32⟩, ⟨true, 64⟩, ⟨false, 8⟩, ⟨false, 16⟩, ⟨false, 32⟩, ⟨false, 64⟩]

/-- The mark of a sort. -/
def mark (sort : IntegerSort) : List Char :=
  (if sort.signed then 'i' else 'u') :: (toString sort.bits).toList

/-- Does a sort hold a value? -/
def holds (sort : IntegerSort) (value : Int) : Bool :=
  if sort.signed then
    let half : Int := (Nat.pow 2 (sort.bits - 1) : Nat)
    decide (-half ≤ value ∧ value < half)
  else decide (0 ≤ value ∧ value < (Nat.pow 2 sort.bits : Nat))

end IntegerSort

/-- A sort of decimals. -/
inductive DecimalSort where
  | single
  | double

/-- The mark of a sort. -/
def DecimalSort.mark : DecimalSort → List Char
  | .single => ['f', '3', '2']
  | .double => ['f', '6', '4']

/-- A numeral as written. -/
structure Numeral where
  negative : Bool
  /-- What follows the sign. -/
  body : List Char
deriving DecidableEq

namespace Numeral

/-- Part the sign from a run of characters. -/
def ofChars : List Char → Numeral
  | '-' :: body => ⟨true, body⟩
  | '+' :: body => ⟨false, body⟩
  | body => ⟨false, body⟩

/-- The value of a digit of any base up to 16. -/
def digitValue? (c : Char) : Option Nat :=
  if '0' ≤ c ∧ c ≤ '9' then some (c.toNat - '0'.toNat)
  else if 'a' ≤ c ∧ c ≤ 'f' then some (c.toNat - 'a'.toNat + 10)
  else if 'A' ≤ c ∧ c ≤ 'F' then some (c.toNat - 'A'.toNat + 10)
  else none

/-- Read digits of a base behind those read so far. Underscores count for nothing. -/
def readDigits (base : Nat) (value : Nat) : List Char → Option Nat
  | [] => some value
  | '_' :: rest => readDigits base value rest
  | c :: rest => do
    let digit ← digitValue? c
    if digit < base then readDigits base (base * value + digit) rest else none

/-- Read a nonempty run of digits that no underscore opens. -/
def natural? (base : Nat) : List Char → Option Nat
  | [] => none
  | '_' :: _ => none
  | digits => readDigits base 0 digits

/-- The absolute value of an integer, in the base that its first characters tell. -/
def magnitude? : List Char → Option Nat
  | '0' :: 'b' :: digits => natural? 2 digits
  | '0' :: 'o' :: digits => natural? 8 digits
  | '0' :: 'x' :: digits => natural? 16 digits
  | digits => natural? 10 digits

/-- What is written without a mark at its end, if it has that mark. -/
def withoutMark (mark body : List Char) : List Char :=
  if mark.isSuffixOf body then body.take (body.length - mark.length) else body

/-- The integer of a sort that a numeral writes. Only a base with a `b` and base ten leave room for
a mark. -/
def integer? (sort : IntegerSort) (numeral : Numeral) : Option Int :=
  let marked := numeral.body.dropWhile fun c => (digitValue? c).isSome || c == '_'
  let digits := if marked = sort.mark then withoutMark sort.mark numeral.body else numeral.body
  let value := (magnitude? digits).map fun value =>
    if numeral.negative then -(value : Int) else (value : Int)
  value.filter sort.holds

/-- Leave out the underscores of a decimal. One may stand behind a digit, behind the mark of the
exponent or behind another underscore, and not directly behind the point. -/
def dropUnderscores (allowed : Bool) : List Char → Option (List Char)
  | [] => some []
  | '_' :: rest => if allowed then dropUnderscores true rest else none
  | c :: rest =>
    let next := c != '.' && (allowed || c.isDigit || c == 'e' || c == 'E')
    (dropUnderscores next rest).map (c :: ·)

/-- The number that a run of decimal digits writes. -/
def ofDigits (digits : List Char) : Nat :=
  digits.foldl (fun value c => 10 * value + (c.toNat - '0'.toNat)) 0

/-- Read a nonempty run of decimal digits. -/
def exponentDigits? (digits : List Char) : Option Nat :=
  if digits.isEmpty || !digits.all Char.isDigit then none else some (ofDigits digits)

/-- Read the exponent of a decimal, of which there may be none. -/
def exponent? : List Char → Option Int
  | [] => some 0
  | mark :: rest =>
    if mark = 'e' ∨ mark = 'E' then
      let numeral := ofChars rest
      (exponentDigits? numeral.body).map fun value =>
        if numeral.negative then -(value : Int) else value
    else none

/-- Read a decimal without sign or underscores, as digits and the power of ten behind them. There
is a digit before the point or behind it. -/
def plainDecimal? (body : List Char) : Option (Nat × Int) :=
  let whole := body.takeWhile Char.isDigit
  let afterWhole := body.dropWhile Char.isDigit
  let afterPoint := if afterWhole.head? = some '.' then some afterWhole.tail else none
  let fraction := (afterPoint.getD []).takeWhile Char.isDigit
  let afterFraction := (afterPoint.map (·.dropWhile Char.isDigit)).getD afterWhole
  if whole.isEmpty && fraction.isEmpty then none
  else (exponent? afterFraction).map fun exponent =>
    (ofDigits (whole ++ fraction), exponent - fraction.length)

/-- The single nearest to what a numeral without a mark writes. Infinity and the number that is none
have names in the place of digits. -/
def unmarkedSingle? (negative : Bool) (body : List Char) : Option Single :=
  if body = ['i', 'n', 'f'] then some (.infinite negative)
  else if body = ['N', 'a', 'N'] then some (.ofPattern negative Single.nan.bits.toNat)
  else do
    let decimal ← plainDecimal? (← dropUnderscores false body)
    return .ofDecimal negative decimal.1 decimal.2

/-- The nearest single to what a numeral with or without the mark of a sort writes. -/
def decimal? (sort : DecimalSort) (numeral : Numeral) : Option Single :=
  unmarkedSingle? numeral.negative (withoutMark sort.mark numeral.body)

/-- The single that a numeral writes. -/
def single? (numeral : Numeral) : Option Single := numeral.decimal? .single

/-- Does a numeral write a number of any sort at all? -/
def isNumber (numeral : Numeral) : Bool :=
  (numeral.decimal? .single).isSome || (numeral.decimal? .double).isSome ||
    IntegerSort.marked.any fun sort => (numeral.integer? sort).isSome

end Numeral

end AiScript.DataText
