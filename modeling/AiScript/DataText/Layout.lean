/-!
# Layout of a data file

Between any two parts of a data file blanks and comments may stand. A comment runs from two slashes
to the end of its line, or between `/*` and `*/`, and the latter sort nests.
-/

namespace AiScript.DataText

/-- Characters that stand for nothing between the parts of a file. -/
def blanks : List Char :=
  [' ', '\t', '\n', '\r', '\x0b', '\x0c', '\u0085', '\u200e', '\u200f', '\u2028', '\u2029']

/-- What a place between two parts is in. -/
inductive Gap where
  | blank
  /-- A comment up to the end of its line. -/
  | line
  /-- A comment that nests in so many others. -/
  | block (depth : Nat)

/-- Skip blanks and comments from a place on. A comment between marks must end, and a slash that
starts no comment is no part of any file. -/
def skipFrom : Gap → List Char → Option (List Char)
  | .blank, [] | .line, [] => some []
  | .block _, [] => none
  | .blank, '/' :: '/' :: rest => skipFrom .line rest
  | .blank, '/' :: '*' :: rest => skipFrom (.block 0) rest
  | .blank, c :: rest =>
    if c ∈ blanks then skipFrom .blank rest else if c = '/' then none else some (c :: rest)
  | .line, c :: rest => skipFrom (if c = '\n' then .blank else .line) rest
  | .block 0, '*' :: '/' :: rest => skipFrom .blank rest
  | .block (outer + 1), '*' :: '/' :: rest => skipFrom (.block outer) rest
  | .block depth, '/' :: '*' :: rest => skipFrom (.block (depth + 1)) rest
  | .block depth, _ :: rest => skipFrom (.block depth) rest

/-- Skip blanks and comments. -/
def skipSpace (chars : List Char) : Option (List Char) := skipFrom .blank chars

/-- Skip a mark and the blanks and comments behind it. -/
def skipMark (mark chars : List Char) : Option (List Char) :=
  if mark.isPrefixOf chars then skipSpace (chars.drop mark.length) else none

end AiScript.DataText
