import AiScript.DataText.Numeral
import AiScript.SettingsText.Layout

/-!
# Quoted texts of a settings file

Texts between double quotes have escapes, and those between single quotes have none. Neither goes on
over the end of a line, unless it stands between three quotes of its sort. Such a text does not hold
an end of line that opens it, and where it stands between double quotes, nor the blanks and ends of
lines behind a backslash that closes a line.
-/

namespace AiScript.SettingsText.Quoted

/-- The character that a letter behind a backslash stands for. -/
def escaped? : Char → Option Char
  | '"' => some '"'
  | '\\' => some '\\'
  | 'b' => some '\x08'
  | 't' => some '\t'
  | 'n' => some '\n'
  | 'f' => some '\x0c'
  | 'r' => some '\r'
  | _ => none

/-- The character whose code point digits of base 16 number. -/
def codePoint? (digits : List Char) : Option Char := do
  let code ← digits.foldlM (fun code c => (DataText.Numeral.digitValue? c).map (16 * code + ·)) 0
  if code.isValidChar then some (Char.ofNat code) else none

/-- Read the rest of a text between double quotes, given in reverse what has been read of it. -/
def readEscaped (before : List Char) : List Char → Option (String × List Char)
  | '"' :: rest => some (String.ofList before.reverse, rest)
  | '\\' :: 'u' :: a :: b :: c :: d :: rest => do
    readEscaped ((← codePoint? [a, b, c, d]) :: before) rest
  | '\\' :: 'U' :: a :: b :: c :: d :: e :: f :: g :: h :: rest => do
    readEscaped ((← codePoint? [a, b, c, d, e, f, g, h]) :: before) rest
  | '\\' :: c :: rest => do readEscaped ((← escaped? c) :: before) rest
  | c :: rest => if c = '\\' ∨ isControl c then none else readEscaped (c :: before) rest
  | [] => none

/-- Read the rest of a text between single quotes, given in reverse what has been read of it. -/
def readPlain (before : List Char) : List Char → Option (String × List Char)
  | '\'' :: rest => some (String.ofList before.reverse, rest)
  | c :: rest => if isControl c then none else readPlain (c :: before) rest
  | [] => none

/-- What a backslash that closes a line passes over. -/
inductive Gap where
  | none
  /-- The blanks up to the end of the line. -/
  | line
  /-- Blanks and ends of lines up to the next character. -/
  | space
deriving DecidableEq

/-- Read the rest of a text between three double quotes, given in reverse what has been read of it.
Of more quotes than three in a row the last three close the text. -/
def readLongEscaped (before : List Char) : Gap → List Char → Option (String × List Char)
  | _, [] => none
  | gap, '\r' :: '\n' :: rest | gap, '\n' :: rest =>
    if gap = .none then readLongEscaped ('\n' :: before) .none rest
    else readLongEscaped before .space rest
  | .line, c :: rest => if isBlank c then readLongEscaped before .line rest else none
  | _, '"' :: '"' :: '"' :: '"' :: '"' :: rest =>
    some (String.ofList ('"' :: '"' :: before).reverse, rest)
  | _, '"' :: '"' :: '"' :: '"' :: rest => some (String.ofList ('"' :: before).reverse, rest)
  | _, '"' :: '"' :: '"' :: rest => some (String.ofList before.reverse, rest)
  | _, '\\' :: 'u' :: a :: b :: c :: d :: rest => do
    readLongEscaped ((← codePoint? [a, b, c, d]) :: before) .none rest
  | _, '\\' :: 'U' :: a :: b :: c :: d :: e :: f :: g :: h :: rest => do
    readLongEscaped ((← codePoint? [a, b, c, d, e, f, g, h]) :: before) .none rest
  | _, '\\' :: '\r' :: '\n' :: rest | _, '\\' :: '\n' :: rest =>
    readLongEscaped before .space rest
  | _, '\\' :: c :: rest =>
    if isBlank c then readLongEscaped before .line rest
    else do readLongEscaped ((← escaped? c) :: before) .none rest
  | gap, c :: rest =>
    if gap = .space ∧ isBlank c then readLongEscaped before .space rest
    else if c = '\\' ∨ isControl c then none
    else readLongEscaped (c :: before) .none rest

/-- Read the rest of a text between three single quotes, given in reverse what has been read of it.
Of more quotes than three in a row the last three close the text. -/
def readLongPlain (before : List Char) : List Char → Option (String × List Char)
  | [] => none
  | '\r' :: '\n' :: rest | '\n' :: rest => readLongPlain ('\n' :: before) rest
  | '\'' :: '\'' :: '\'' :: '\'' :: '\'' :: rest =>
    some (String.ofList ('\'' :: '\'' :: before).reverse, rest)
  | '\'' :: '\'' :: '\'' :: '\'' :: rest => some (String.ofList ('\'' :: before).reverse, rest)
  | '\'' :: '\'' :: '\'' :: rest => some (String.ofList before.reverse, rest)
  | c :: rest => if isControl c then none else readLongPlain (c :: before) rest

/-- Read a text on one line. -/
def short? : List Char → Option (String × List Char)
  | '"' :: rest => readEscaped [] rest
  | '\'' :: rest => readPlain [] rest
  | _ => none

/-- Read a text. -/
def read? : List Char → Option (String × List Char)
  | '"' :: '"' :: '"' :: rest => readLongEscaped [] .none (skipLineEnd rest)
  | '\'' :: '\'' :: '\'' :: rest => readLongPlain [] (skipLineEnd rest)
  | chars => short? chars

end AiScript.SettingsText.Quoted
