import AiScript.DataText.Numeral

/-!
# Quoted parts of a data file

Texts stand between double quotes, characters and bytes between single ones. What stands there is
either raw, every character meaning itself, or has escapes. An escape names a character, by a letter
or by its code point, or a byte. Bytes of a text must spell a character in UTF-8; those of a byte
text are free.

A text that never closes is told apart from one that holds what it must not.
-/

namespace AiScript.DataText

/-- A part of what stands between quotes. -/
inductive Piece where
  /-- A character that means itself, or that a letter behind a backslash stands for. -/
  | plain (value : Char)
  | byte (value : UInt8)
  /-- A character that its code point or its bytes stand for. -/
  | spelled (value : Char)
deriving DecidableEq

namespace Piece

/-- The character that a piece stands for. -/
def char : Piece → Char
  | .plain value | .spelled value => value
  | .byte value => Char.ofNat value.toNat

/-- The byte that a piece by itself stands for. A code point stands for none. -/
def byte? : Piece → Option UInt8
  | .plain value => if value.toNat < 0x80 then some (.ofNat value.toNat) else none
  | .byte value => some value
  | .spelled _ => none

end Piece

namespace Quoted

/-- What escapes may stand for a byte beyond ASCII. -/
inductive Style where
  /-- Several in a row, which spell a character. -/
  | text
  /-- Any. -/
  | bytes
  /-- None. -/
  | character
deriving DecidableEq

/-- Why what should be quoted cannot be read. -/
inductive Fault where
  | unclosed
  | malformed
deriving DecidableEq

/-- The character that a letter behind a backslash stands for. -/
def escaped? : Char → Option Char
  | '"' => some '"'
  | '\'' => some '\''
  | '\\' => some '\\'
  | 'n' => some '\n'
  | 'r' => some '\r'
  | 't' => some '\t'
  | '0' => some '\x00'
  | _ => none

/-- The byte that two digits of base 16 write. -/
def byte? (high low : Char) : Option UInt8 := do
  return .ofNat (16 * (← Numeral.digitValue? high) + (← Numeral.digitValue? low))

/-- The one character that bytes spell. -/
def spelled? (bytes : List UInt8) : Option Char := do
  match (← String.fromUTF8? ⟨bytes.toArray⟩).toList with
  | [value] => some value
  | _ => none

/-- Read at most so many further escaped bytes, until they spell a character with those before. -/
def readSpelled : (bound : Nat) → (before : List UInt8) → List Char → Option (Piece × List Char)
  | bound + 1, before, '\\' :: 'x' :: high :: low :: rest => do
    let bytes := before ++ [← byte? high low]
    match spelled? bytes with
    | some value => return (.spelled value, rest)
    | none => readSpelled bound bytes rest
  | _, _, _ => none

/-- Read a code point of one to six digits of base 16 behind its opening bracket. -/
def readCodePoint (chars : List Char) : Option (Piece × List Char) := do
  let digits := chars.takeWhile (· != '\x7d')
  let value ← digits.foldlM (fun value c => (Numeral.digitValue? c).map (16 * value + ·)) 0
  if digits.isEmpty || 6 < digits.length || !value.isValidChar then none
  else match chars.drop digits.length with
    | _ :: rest => some (.spelled (Char.ofNat value), rest)
    | [] => none

/-- Read an escape behind its backslash. -/
def readEscape (style : Style) : List Char → Option (Piece × List Char)
  | 'x' :: high :: low :: rest => do
    let value ← byte? high low
    if value < 0x80 ∨ style = .bytes then return (.byte value, rest)
    else if style = .text then readSpelled 3 [value] rest
    else none
  | 'u' :: '\x7b' :: rest => readCodePoint rest
  | c :: rest => do return (.plain (← escaped? c), rest)
  | [] => none

/-- Read fewer than `bound` pieces up to a double quote, given in reverse what has been read. -/
def readPieces (style : Style) :
    (bound : Nat) → (before : List Piece) → List Char → Except Fault (List Piece × List Char)
  | 0, _, _ | _ + 1, _, [] => .error .unclosed
  | bound + 1, before, c :: rest =>
    if c = '"' then .ok (before.reverse, rest)
    else if c = '\\' then
      if '"' ∉ rest then .error .unclosed
      else match readEscape style rest with
        | some (piece, rest) => readPieces style bound (piece :: before) rest
        | none => .error .malformed
    else readPieces style bound (.plain c :: before) rest

/-- Read a text with escapes behind its opening quote. -/
def readEscaped (style : Style) (chars : List Char) : Except Fault (String × List Char) :=
  (readPieces style (chars.length + 1) [] chars).map fun (pieces, rest) =>
    (String.ofList (pieces.map Piece.char), rest)

/-- Read a raw text up to a double quote with so many number signs behind it, given in reverse what
has been read. -/
def readClosing (signs : Nat) (before : List Char) :
    List Char → Except Fault (String × List Char)
  | [] => .error .unclosed
  | c :: rest =>
    if c = '"' ∧ rest.take signs = List.replicate signs '#' then
      .ok (String.ofList before.reverse, rest.drop signs)
    else readClosing signs (c :: before) rest

/-- Read a raw text from its opening on: any number of number signs and a double quote. -/
def readRaw (chars : List Char) : Except Fault (String × List Char) :=
  let signs := (chars.takeWhile (· == '#')).length
  match chars.drop signs with
  | '"' :: rest => readClosing signs [] rest
  | _ => .error .malformed

/-- Read a text. -/
def readText : List Char → Except Fault (String × List Char)
  | '"' :: rest => readEscaped .text rest
  | 'r' :: rest => readRaw rest
  | _ => .error .malformed

/-- Read a byte text. -/
def readBytes : List Char → Except Fault (String × List Char)
  | 'b' :: '"' :: rest => readEscaped .bytes rest
  | 'b' :: 'r' :: rest => readRaw rest
  | _ => .error .malformed

/-- Read what stands between single quotes, behind the first: one character, which may itself be a
single quote, or one escape. -/
def readSingle (style : Style) (chars : List Char) : Option (Piece × List Char) := do
  let (piece, rest) ← match chars with
    | '\\' :: rest => readEscape style rest
    | c :: rest => some (.plain c, rest)
    | [] => none
  match rest with
  | '\'' :: rest => some (piece, rest)
  | _ => none

/-- Read a character. -/
def readCharacter : List Char → Option (Char × List Char)
  | '\'' :: rest => (readSingle .character rest).map fun (piece, rest) => (piece.char, rest)
  | _ => none

/-- Read a byte. -/
def readByte : List Char → Option (UInt8 × List Char)
  | 'b' :: '\'' :: rest => do
    let (piece, rest) ← readSingle .bytes rest
    return (← piece.byte?, rest)
  | _ => none

end Quoted

end AiScript.DataText
