/-!
# Documents

A document is a value of the JSON format that keeps the order of its fields. It is printed with each
item and each field on a line of its own, two spaces further in than the brackets around it, except
that nothing stands between the brackets of an empty list or record.
-/

namespace AiScript

/-- A document. -/
inductive Document where
  | number (value : Int)
  | text (value : String)
  | list (items : List Document)
  | record (fields : List (String × Document))

namespace Document

/-- The digit of base 16 with a value below 16. -/
def hexDigit (value : Nat) : Char := Nat.digitChar value

/-- A character as it stands in a quoted text. -/
def escape (c : Char) : String :=
  match c with
  | '"' => "\\\""
  | '\\' => "\\\\"
  | '\x08' => "\\b"
  | '\t' => "\\t"
  | '\n' => "\\n"
  | '\x0c' => "\\f"
  | '\r' => "\\r"
  | c =>
    if c.toNat < 0x20 then
      "\\u00" ++ String.ofList [hexDigit (c.toNat / 16), hexDigit (c.toNat % 16)]
    else c.toString

/-- A text in quotes. -/
def quoted (text : String) : String := "\"" ++ String.join (text.toList.map escape) ++ "\""

/-- The start of a line that lies so many brackets deep. -/
def newLine (depth : Nat) : String := "\n" ++ "".pushn ' ' (2 * depth)

/-- Put brackets around lines. -/
def bracketed (opening closing : String) (depth : Nat) (lines : List String) : String :=
  if lines.isEmpty then opening ++ closing
  else
    opening ++ ",".intercalate (lines.map fun line => newLine (depth + 1) ++ line)
      ++ newLine depth ++ closing

mutual

/-- The text of a document that lies so many brackets deep. -/
def render (depth : Nat) : Document → String
  | .number value => toString value
  | .text value => quoted value
  | .list items => bracketed "[" "]" depth (renderItems (depth + 1) items)
  | .record fields => bracketed "\x7b" "\x7d" depth (renderFields (depth + 1) fields)

/-- The texts of items. -/
def renderItems (depth : Nat) : List Document → List String
  | [] => []
  | item :: rest => render depth item :: renderItems depth rest

/-- The texts of fields. -/
def renderFields (depth : Nat) : List (String × Document) → List String
  | [] => []
  | (name, value) :: rest => (quoted name ++ ": " ++ render depth value) :: renderFields depth rest

end

/-- The text of a document. No line end closes it. -/
def pretty (document : Document) : String := render 0 document

end Document

end AiScript
