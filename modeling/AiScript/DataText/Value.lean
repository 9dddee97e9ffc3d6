import AiScript.DataText.Dialect
import AiScript.DataText.Outline

/-!
# Values of a data file

A data file holds one value: a list in square brackets, a record of named fields or a tuple in round
ones, a map in curly ones, or something simple. Records and tuples may bear a name. Items are parted
by commas, and one more comma may follow the last. Which value a place calls for is not known here.
-/

namespace AiScript.DataText

/-- A value. -/
inductive Value where
  | numeral (numeral : Numeral)
  | byte (value : UInt8)
  | text (value : String)
  | bytes
  | character (value : Char)
  /-- A word by itself: a truth value, a special number, or one that only fields which nobody reads
  can have. -/
  | word (name : String)
  | list (items : List Value)
  | record (name : Option String) (fields : List (String × Value))
  | tuple (name : Option String) (items : List Value)
  | map (entries : List (Value × Value))
  /-- An optional value that is there. -/
  | present (value : Value)

/-- Read something from the front of characters. -/
abbrev Reader (α : Type) := List Char → Option (α × List Char)

namespace Reader

variable {α β : Type}

/-- Read fewer than `bound` items up to a closing bracket, each with a comma behind it except that
the last may have none. -/
def separated (close : Char) (item : Reader α) : (bound : Nat) → Reader (List α)
  | 0, _ => none
  | bound + 1, chars => do
    let chars ← skipSpace chars
    if chars.head? = some close then return ([], chars.tail)
    else
      let (first, rest) ← item chars
      let rest ← skipSpace rest
      if rest.head? = some close then return ([first], rest.tail)
      else if rest.head? = some ',' then
        let (others, rest) ← separated close item bound rest.tail
        return (first :: others, rest)
      else none

/-- Read nothing at all. -/
def refuse : Reader α := fun _ => none

/-- Read two things with a colon between them. -/
def pair (left : Reader α) (right : Reader β) : Reader (α × β) := fun chars => do
  let (first, rest) ← left chars
  let (second, rest) ← right (← skipMark [':'] (← skipSpace rest))
  return ((first, second), rest)

end Reader

namespace Value

variable (bound : Nat)

/-- Words that are values by themselves and never name a record or a tuple. -/
def reserved : List String :=
  ["true", "false", "None", "inf", "inff32", "inff64", "NaN", "NaNf32", "NaNf64"]

/-- Read a numeral, which is a run of characters of raw names that starts like a number. -/
def readNumeral : Reader Value := fun chars =>
  let numeral := Numeral.ofChars (chars.takeWhile Name.continuesRaw)
  if chars.head?.any (fun c => c.isDigit || ['.', '+', '-'].contains c) && numeral.isNumber then
    some (.numeral numeral, chars.dropWhile Name.continuesRaw)
  else none

/-- Read something simple that is no name. -/
def readSimple : Reader Value := fun chars =>
  match chars with
  | '"' :: _ | 'r' :: _ =>
    (Quoted.readText chars).toOption.map fun (value, rest) => (.text value, rest)
  | '\'' :: _ => (Quoted.readCharacter chars).map fun (value, rest) => (.character value, rest)
  | 'b' :: '\'' :: _ => (Quoted.readByte chars).map fun (value, rest) => (.byte value, rest)
  | 'b' :: _ => (Quoted.readBytes chars).toOption.map fun (_, rest) => (.bytes, rest)
  | _ => readNumeral chars

/-- Read the name of a field. -/
def readFieldName : Reader String := fun chars =>
  (Name.read chars).map fun (name, rest) => (name.text, rest)

/-- Do characters go on with a field? -/
def startsField (chars : List Char) : Bool :=
  match Name.read chars with
  | some (_, rest) => (skipSpace rest).any (·.head? = some ':')
  | none => false

/-- Read what follows the opening bracket of a record or a tuple. Fields make it a record, and so
does there being nothing in it. -/
def readRound (item : Reader Value) (name : Option String) : Reader Value := fun chars => do
  let chars ← skipSpace chars
  if chars.head? = some ')' ∨ startsField chars then
    let (fields, rest) ← Reader.separated ')' (Reader.pair readFieldName item) bound chars
    return (.record name fields, rest)
  else
    let (items, rest) ← Reader.separated ')' item bound chars
    return (.tuple name items, rest)

/-- Read what follows the opening bracket of an optional value: the value, which a comma may
follow. -/
def readPresent (value : Reader Value) : Reader Value := fun chars => do
  let (value, rest) ← value chars
  let rest ← skipSpace rest
  let rest := (skipMark [','] rest).getD rest
  if rest.head? = some ')' then return (.present value, rest.tail) else none

/-- Read what follows the opening bracket of an optional value whose own brackets may be left out:
nothing, fields, several items, or one value. -/
def readOpened (value item : Reader Value) : Reader Value := fun chars => do
  let chars ← skipSpace chars
  if chars.head? = some ')' then return (.present (.record none []), chars.tail)
  else match ← Outline.ofChars chars with
    | .one => readPresent value chars
    | .fields =>
      let (fields, rest) ← Reader.separated ')' (Reader.pair readFieldName item) bound chars
      return (.present (.record none fields), rest)
    | .several =>
      let (items, rest) ← Reader.separated ')' item bound chars
      return (.present (.tuple none items), rest)

/-- Read what follows the word for an optional value that is there. -/
def readOption (dialect : Dialect) (value item : Reader Value) : Reader Value := fun chars => do
  let chars ← skipSpace chars
  if chars.head? = some '(' then
    if dialect.openOptions then readOpened bound value item chars.tail
    else readPresent value chars.tail
  else if dialect.bareOptions then
    (value chars).map fun (value, rest) => (.present value, rest)
  else none

/-- Read what follows a name: brackets if it names a record or a tuple, for which a level must be
left. -/
def readNamed (name : Name) (hasLevel : Bool) (item : Reader Value) : Reader Value := fun chars =>
  if !name.raw && name.text ∈ reserved then some (.word name.text, chars)
  else do
    let rest ← skipSpace chars
    if rest.head? = some '(' then
      if hasLevel then readRound bound item (some name.text) rest.tail else none
    else if name.raw then return (.tuple (some name.text) [], chars)
    else return (.word name.text, chars)

/-- Read a value, given how to read a value one level further in, if a level is left, and items two
and three levels further in. What has items takes one level, and each of the items another. -/
def readWith (dialect : Dialect) (inner : Option (Reader Value)) (item openItem : Reader Value) :
    Reader Value := fun chars => do
  let chars ← skipSpace chars
  match chars with
  | '(' :: ')' :: rest => return (.record none [], rest)
  | '(' :: rest => if inner.isSome then readRound bound item none rest else none
  | '[' :: rest =>
    if inner.isSome then
      (Reader.separated ']' item bound rest).map fun (items, rest) => (.list items, rest)
    else none
  | '\x7b' :: rest =>
    if inner.isSome then
      (Reader.separated '\x7d' (Reader.pair item item) bound rest).map fun (entries, rest) =>
        (.map entries, rest)
    else none
  | chars =>
    match Name.read chars with
    | none => readSimple chars
    | some (⟨false, "Some"⟩, rest) => do readOption bound dialect (← inner) openItem rest
    | some (name, rest) => readNamed bound name inner.isSome item rest

/-- Read a value within which others nest at most so many levels deep. -/
def read (dialect : Dialect) : (levels : Nat) → Reader Value
  | 0, chars => readWith bound dialect none Reader.refuse Reader.refuse chars
  | 1, chars => readWith bound dialect (some (read dialect 0)) Reader.refuse Reader.refuse chars
  | 2, chars => readWith bound dialect (some (read dialect 1)) (read dialect 0) Reader.refuse chars
  | levels + 3, chars =>
    readWith bound dialect (some (read dialect (levels + 2))) (read dialect (levels + 1))
      (read dialect levels) chars

/-- How deep values may nest. -/
def depthLimit : Nat := 128

/-- The value that a data file holds, and what the file changes in the notation. Nothing but blanks
and comments may follow the value. No brackets hold more items than the file has characters. -/
def ofText? (text : String) : Option (Dialect × Value) := do
  let chars ← skipSpace text.toList
  let bound := chars.length + 1
  let (dialect, rest) ← Dialect.read bound {} chars
  let (value, rest) ← read bound dialect depthLimit rest
  if (← skipSpace rest).isEmpty then some (dialect, value) else none

/-- The integer of a sort that a value writes. -/
def integer? (sort : IntegerSort) : Value → Option Int
  | .numeral written => written.integer? sort
  | _ => none

/-- A value of 8 bits, which may also be written as a character. -/
def byte? : Value → Option UInt8
  | .byte value => some value
  | value => (value.integer? ⟨false, 8⟩).map fun value => .ofNat value.toNat

/-- A value of 16 bits. -/
def half? (value : Value) : Option UInt16 :=
  (value.integer? ⟨false, 16⟩).map fun value => .ofNat value.toNat

/-- A value of 32 bits. -/
def word? (value : Value) : Option UInt32 :=
  (value.integer? ⟨false, 32⟩).map fun value => .ofNat value.toNat

/-- A value of 32 bits of which one is the sign. -/
def signedWord? (value : Value) : Option Int32 := (value.integer? ⟨true, 32⟩).map .ofInt

/-- A single-precision number. -/
def single? : Value → Option Single
  | .numeral written => written.single?
  | .word name => Numeral.single? ⟨false, name.toList⟩
  | _ => none

/-- A truth value. -/
def flag? : Value → Option Bool
  | .word "true" => some true
  | .word "false" => some false
  | _ => none

/-- A text. -/
def text? : Value → Option String
  | .text value => some value
  | _ => none

/-- A list of values that are all of one sort. -/
def listOf? {α : Type} (item? : Value → Option α) : Value → Option (List α)
  | .list items => items.mapM item?
  | _ => none

/-- The fields of a record, whose name is the one given if it has one. -/
def fields? (dialect : Dialect) (name : String) : Value → Option (List (String × Value))
  | .record none fields => if dialect.namesRecords then none else some fields
  | .record (some given) fields => if given = name then some fields else none
  | _ => none

end Value

/-- Read a field that must be there, once. -/
def required {α : Type} (fields : List (String × Value)) (name : String)
    (value? : Value → Option α) : Option α :=
  match fields.filter fun field => field.1 = name with
  | [field] => value? field.2
  | _ => none

/-- Read a field that may be missing, but not be there twice. -/
def optional {α : Type} (fields : List (String × Value)) (name : String) (missing : α)
    (value? : Value → Option α) : Option α :=
  match fields.filter fun field => field.1 = name with
  | [] => some missing
  | [field] => value? field.2
  | _ => none

end AiScript.DataText
