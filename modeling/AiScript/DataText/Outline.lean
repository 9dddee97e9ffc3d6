import AiScript.DataText.Layout
import AiScript.DataText.Name
import AiScript.DataText.Quoted

/-!
# Outlines of bracketed values

Where an optional value may leave out the brackets of its own, what stands between the remaining
brackets is told from afar, before it is read: it is fields if a name and a colon open it, and
several items if a comma is found between the brackets with more behind it.

The look-out goes character by character over what it passes, and only whole texts and characters
are taken at once. Blanks and comments are skipped before a character and not behind a text; and the
bytes that no character literal may hold are not taken for quoted. So the outline of unusual values
can differ from what reading them would find, and then they are refused.
-/

namespace AiScript.DataText

/-- What stands between brackets. -/
inductive Outline where
  | fields
  | one
  | several
deriving DecidableEq

namespace Outline

/-- The outline of what has a comma, by what follows it. -/
def behindComma (chars : List Char) : Option Outline := do
  return if (← skipSpace chars).head? = some ')' then .one else .several

/-- Pass over a text, if it is one. A text that does not close is no part of any value. -/
def afterText (read : List Char → Except Quoted.Fault (String × List Char)) (chars : List Char) :
    Option (List Char) :=
  match read chars with
  | .ok (_, rest) => some rest
  | .error .malformed => some chars
  | .error .unclosed => none

/-- Look for a comma in fewer than `bound` characters, within so many brackets. -/
def search : (bound depth : Nat) → List Char → Option Outline
  | 0, _, _ => none
  | _ + 1, 0, _ => some .one
  | bound + 1, depth + 1, chars => do
    let chars ← skipSpace chars
    let chars := ((Quoted.readCharacter chars).map (·.2)).getD chars
    let chars ← afterText Quoted.readText chars
    match ← afterText Quoted.readBytes chars with
    | [] => none
    | c :: rest =>
      if ['(', '[', '\x7b'].contains c then search bound (depth + 2) rest
      else if [')', ']', '\x7d'].contains c then search bound depth rest
      else if c = ',' ∧ depth = 0 then behindComma rest
      else search bound (depth + 1) rest

/-- The outline of what stands behind an opening bracket. -/
def ofChars (chars : List Char) : Option Outline := do
  let chars ← skipSpace chars
  match Name.read chars with
  | none => search (chars.length + 1) 1 chars
  | some (_, rest) =>
    match ← skipSpace rest with
    | ':' :: _ => some .fields
    | ',' :: rest => behindComma rest
    | rest => search (rest.length + 1) 1 rest

end Outline

end AiScript.DataText
