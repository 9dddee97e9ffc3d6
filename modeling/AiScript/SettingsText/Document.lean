import AiScript.SettingsText.Value

/-!
# Settings files

A settings file is a sequence of statements, each on a line of its own: an entry, which gives a key
its value, or a heading, which says what table the entries below it go to. Entries above the first
heading go to the table of the file itself.
-/

namespace AiScript.SettingsText

/-- A statement. -/
inductive Statement where
  | entry (path : List String) (value : Item)
  | heading (path : List String)
  /-- A heading that others may be like, each of which opens a table of its own. -/
  | further (path : List String)

/-- Read a statement. -/
def Statement.read : List Char → Option (Statement × List Char)
  | '[' :: '[' :: rest => do
    match ← readPath depthLimit rest with
    | (path, ']' :: ']' :: rest) => return (.further path, rest)
    | _ => none
  | '[' :: rest => do
    match ← readPath depthLimit rest with
    | (path, ']' :: rest) => return (.heading path, rest)
    | _ => none
  | chars => do
    let (path, value, rest) ← readEntry (readValue depthLimit) chars
    return (.entry path value, rest)

/-- What has been read of a settings file. -/
structure Document where
  entries : Entries := []
  /-- The path of the table that entries go to. -/
  current : List String := []

namespace Document

/-- Take in a statement. -/
def take (document : Document) : Statement → Option Document
  | .entry path value => do
    let add := Entries.add value path
    return { document with entries := ← document.entries.within add document.current }
  | .heading path => do return ⟨← document.entries.openHeading Entries.openTable path, path⟩
  | .further path => do return ⟨← document.entries.openHeading Entries.openAnother path, path⟩

/-- Read fewer than `bound` lines or statements, behind those read before. -/
def readFrom : (bound : Nat) → Document → List Char → Option Document
  | 0, _, _ => none
  | _ + 1, document, [] => some document
  | bound + 1, document, chars =>
    match afterLine? chars with
    | some rest => readFrom bound document rest
    | none => do
      let (statement, rest) ← Statement.read (skipBlanks chars)
      readFrom bound (← document.take statement) (← afterLine? rest)

/-- The entries of a settings file. A byte order mark may open it. -/
def ofText? (text : String) : Option Entries := do
  let chars := match text.toList with
    | '\ufeff' :: rest => rest
    | chars => chars
  return (← readFrom (chars.length + 1) {} chars).entries

end Document

end AiScript.SettingsText
