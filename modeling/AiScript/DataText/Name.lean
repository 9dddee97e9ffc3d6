import AiScript.Text.NameChar

/-!
# Names in a data file

A name is a run of characters of names. Behind `r#` stands a raw name, which may start with any of
them and may hold points and signs as well; it is never a word of the notation. A name does not
start where something quoted starts.
-/

namespace AiScript.DataText

/-- A name. -/
structure Name where
  raw : Bool
  text : String
deriving DecidableEq

namespace Name

/-- How something quoted starts whose first character might start a name. -/
def quotedStarts : List (List Char) :=
  [['b', '"'], ['b', '\''], ['b', 'r', '#'], ['b', 'r', '"'], ['r', '"'], ['r', '#', '"'],
    ['r', '#', '#']]

/-- May the character stand in a raw name? -/
def continuesRaw (c : Char) : Bool := NameChar.continues c || ['.', '+', '-'].contains c

/-- Read a name. -/
def read (chars : List Char) : Option (Name × List Char) :=
  if quotedStarts.any (·.isPrefixOf chars) then none
  else match chars with
    | 'r' :: '#' :: rest =>
      let text := rest.takeWhile continuesRaw
      if text.isEmpty then none
      else some (⟨true, String.ofList text⟩, rest.dropWhile continuesRaw)
    | c :: rest =>
      if NameChar.starts c then
        let text := c :: rest.takeWhile NameChar.continues
        some (⟨false, String.ofList text⟩, rest.dropWhile NameChar.continues)
      else none
    | [] => none

end Name

end AiScript.DataText
