/-!
# Layout of a settings file

Blanks, ends of lines and comments stand between the parts of a settings file. Most parts must be on
one line; within a list there may be ends of lines and comments as well.
-/

namespace AiScript.SettingsText

/-- A character that may separate the parts of a line. -/
def isBlank (c : Char) : Bool := c == ' ' || c == '\t'

/-- A character that may stand only where an escape spells it. -/
def isControl (c : Char) : Bool := (c.toNat < 0x20 && c != '\t') || c == '\x7f'

/-- Skip blanks. -/
def skipBlanks (chars : List Char) : List Char := chars.dropWhile isBlank

/-- Skip the end of a line, if it is there. -/
def skipLineEnd : List Char → List Char
  | '\n' :: rest | '\r' :: '\n' :: rest => rest
  | chars => chars

/-- What follows a line of which nothing is left but blanks and a comment. The last line may lack
its end. -/
def afterLine? (chars : List Char) : Option (List Char) :=
  let rest := skipBlanks chars
  match if rest.head? = some '#' then rest.dropWhile (!isControl ·) else rest with
  | [] => some []
  | '\n' :: rest | '\r' :: '\n' :: rest => some rest
  | _ => none

/-- Skip blanks, ends of lines and comments. When `inComment`, a comment is skipped first. -/
def skipSpace (inComment : Bool) : List Char → List Char
  | [] => []
  | '\n' :: rest | '\r' :: '\n' :: rest => skipSpace false rest
  | c :: rest =>
    if inComment then if isControl c then c :: rest else skipSpace true rest
    else if c = '#' then skipSpace true rest
    else if isBlank c then skipSpace false rest
    else c :: rest

end AiScript.SettingsText
