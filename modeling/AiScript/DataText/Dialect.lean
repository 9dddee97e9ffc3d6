import AiScript.DataText.Layout
import AiScript.DataText.Name

/-!
# Dialects of data files

A data file may open with attributes, each of which enables some extensions of the notation. What
they change is small: whether records must bear their names, and how optional values are written.
-/

namespace AiScript.DataText

/-- What a data file changes in the notation. -/
structure Dialect where
  /-- Must every record that is looked into bear its name? -/
  namesRecords : Bool := false
  /-- May an optional value that is there do without brackets? -/
  bareOptions : Bool := false
  /-- May the fields or items of an optional value do without brackets of their own? -/
  openOptions : Bool := false
deriving DecidableEq

namespace Dialect

/-- Enable an extension, if there is one of that name. Of those that there are, one is about a sort
of values that no data file has. -/
def enable? (dialect : Dialect) : String → Option Dialect
  | "explicit_struct_names" => some { dialect with namesRecords := true }
  | "implicit_some" => some { dialect with bareOptions := true }
  | "unwrap_variant_newtypes" => some { dialect with openOptions := true }
  | "unwrap_newtypes" => some dialect
  | _ => none

/-- What opens an attribute, mark by mark. -/
def opening : List (List Char) := [['#'], ['!'], ['['], ['e', 'n', 'a', 'b', 'l', 'e'], ['(']]

/-- What closes an attribute, mark by mark. -/
def closing : List (List Char) := [[')'], [']']]

/-- Skip marks with blanks and comments behind each of them. -/
def skipMarks (marks : List (List Char)) (chars : List Char) : Option (List Char) :=
  marks.foldlM (fun chars mark => skipMark mark chars) chars

/-- Read fewer than `bound` names up to the end of an attribute. There is one at least, and one more
comma may follow the last. -/
def readNames : (bound : Nat) → Dialect → List Char → Option (Dialect × List Char)
  | 0, _, _ => none
  | bound + 1, dialect, chars => do
    let (name, rest) ← Name.read chars
    let dialect ← dialect.enable? name.text
    let rest ← skipSpace rest
    let next := (skipMark [','] rest).getD rest
    match skipMarks closing next with
    | some rest => some (dialect, rest)
    | none => if rest.head? = some ',' then readNames bound dialect next else none

/-- Read fewer than `bound` attributes, behind which stands the value of a data file. -/
def read : (bound : Nat) → Dialect → List Char → Option (Dialect × List Char)
  | 0, _, _ => none
  | bound + 1, dialect, chars =>
    if chars.head? = some '#' then do
      let rest ← skipMarks opening chars
      let (dialect, rest) ← readNames (rest.length + 1) dialect rest
      read bound dialect rest
    else some (dialect, chars)

end Dialect

end AiScript.DataText
