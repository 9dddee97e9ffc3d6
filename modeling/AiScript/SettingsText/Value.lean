import AiScript.SettingsText.Item
import AiScript.SettingsText.Quoted
import AiScript.SettingsText.Scalar

/-!
# Values of a settings file

A value is a text, a truth value, a number, a time, a list in square brackets, or a table in curly
ones. A list may go on over many lines and one more comma may follow its last item; a table must not
do either.
-/

namespace AiScript.SettingsText

/-- A character that a key may have without quotes. -/
def isKeyChar (c : Char) : Bool := c.isAlphanum || c == '_' || c == '-'

/-- Read a key. -/
def readKey (chars : List Char) : Option (String × List Char) :=
  if chars.head?.any fun c => c == '"' || c == '\'' then Quoted.short? chars
  else
    let key := chars.takeWhile isKeyChar
    if key.isEmpty then none else some (String.ofList key, chars.dropWhile isKeyChar)

/-- Read a path of at most so many keys with points between them, and blanks around any of them. -/
def readPath : (bound : Nat) → List Char → Option (List String × List Char)
  | 0, _ => none
  | bound + 1, chars => do
    let (key, rest) ← readKey (skipBlanks chars)
    match skipBlanks rest with
    | '.' :: rest => (readPath bound rest).map fun (keys, rest) => (key :: keys, rest)
    | rest => some ([key], rest)

/-- How many keys a path may have, and how deep values may nest. -/
def depthLimit : Nat := 79

/-- A character of a word, number or time. -/
def isWordChar (c : Char) : Bool := c.isAlphanum || ['_', '+', '-', '.', ':'].contains c

/-- Read a word, a number or a time. -/
def readWord (chars : List Char) : Option (Item × List Char) :=
  let word := chars.takeWhile isWordChar
  let rest := chars.dropWhile isWordChar
  if word = ['t', 'r', 'u', 'e'] then some (.flag true, rest)
  else if word = ['f', 'a', 'l', 's', 'e'] then some (.flag false, rest)
  else if (integer? word).isSome || isDecimal word then some (.number, rest)
  else if isMoment word then
    match afterDate? word, rest with
    | some [], ' ' :: time =>
      if isPlacedTime (time.takeWhile isWordChar) then some (.moment, time.dropWhile isWordChar)
      else some (.moment, rest)
    | _, _ => some (.moment, rest)
  else none

/-- Read what follows the opening bracket of a list of fewer than `bound` items. -/
def readItems (value : List Char → Option (Item × List Char)) :
    (bound : Nat) → List Char → Option (List Item × List Char)
  | 0, _ => none
  | bound + 1, chars =>
    match skipSpace false chars with
    | ']' :: rest => some ([], rest)
    | chars => do
      let (item, rest) ← value chars
      match skipSpace false rest with
      | ',' :: rest => (readItems value bound rest).map fun (items, rest) => (item :: items, rest)
      | ']' :: rest => some ([item], rest)
      | _ => none

/-- Read a path of keys and the value behind its equals sign. -/
def readEntry (value : List Char → Option (Item × List Char)) (chars : List Char) :
    Option (List String × Item × List Char) := do
  match ← readPath depthLimit chars with
  | (path, '=' :: rest) =>
    let (item, rest) ← value (skipBlanks rest)
    return (path, item, rest)
  | _ => none

/-- Read fewer than `bound` entries up to the closing bracket of a table, behind those read
before. -/
def readEntries (value : List Char → Option (Item × List Char)) :
    (bound : Nat) → Entries → List Char → Option (Entries × List Char)
  | 0, _, _ => none
  | bound + 1, entries, chars => do
    let (path, item, rest) ← readEntry value chars
    let entries ← entries.add item path
    match skipBlanks rest with
    | ',' :: rest => readEntries value bound entries rest
    | '\x7d' :: rest => some (entries, rest)
    | _ => none

/-- Read a value within which others nest at most so many levels deep. -/
def readValue : (levels : Nat) → List Char → Option (Item × List Char)
  | levels, '[' :: rest =>
    match levels with
    | 0 => none
    | levels + 1 =>
      (readItems (readValue levels) (rest.length + 1) rest).map fun (items, rest) =>
        (.list items, rest)
  | levels, '\x7b' :: rest =>
    match levels with
    | 0 => none
    | levels + 1 =>
      match skipBlanks rest with
      | '\x7d' :: rest => some (.closed [], rest)
      | rest =>
        (readEntries (readValue levels) (rest.length + 1) [] rest).map fun (entries, rest) =>
          (.closed entries, rest)
  | _, chars =>
    if chars.head?.any fun c => c == '"' || c == '\'' then
      (Quoted.read? chars).map fun (value, rest) => (.text value, rest)
    else readWord chars

end AiScript.SettingsText
