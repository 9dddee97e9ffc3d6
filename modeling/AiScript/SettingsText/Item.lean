/-!
# Items of a settings file

A settings file gives values to keys, and keys can hold tables of further keys. A path of keys may
lead through tables that nothing has opened before; whether such a table can be opened or added to
later depends on what the path was for. No key ever gets a second value.
-/

namespace AiScript.SettingsText

/-- What opened a table. -/
inductive Origin where
  /-- A heading of its own. -/
  | heading
  /-- The heading of a table further in. -/
  | passed
  /-- A key with points in it. -/
  | dotted
deriving DecidableEq

/-- What a key holds. -/
inductive Item where
  | text (value : String)
  | flag (value : Bool)
  | number
  | moment
  | list (items : List Item)
  /-- A table on one line, which nothing can be added to. -/
  | closed (entries : List (String × Item))
  | table (origin : Origin) (entries : List (String × Item))
  /-- Tables under headings that are alike, by the last of them. -/
  | tables (last : List (String × Item))

/-- Keys with what they hold. -/
abbrev Entries := List (String × Item)

namespace Entries

/-- Change what a key holds, if it holds anything. -/
def alter (entries : Entries) (key : String) (change : Option Item → Option Item) :
    Option Entries := do
  let item ← change (entries.lookup key)
  return (key, item) :: entries.filter fun entry => entry.1 != key

/-- Give a key a value. The key may be a path of keys with points in it; the table that such a path
ends in must have been opened by such a path, too, or be opened now. -/
def add (value : Item) : (path : List String) → Entries → Option Entries
  | [], _ => none
  | [key], entries => entries.alter key fun
    | none => some value
    | some _ => none
  | key :: next :: rest, entries => entries.alter key fun
    | none => (add value (next :: rest) []).map (.table .dotted)
    | some (.table .dotted inner) => (add value (next :: rest) inner).map (.table .dotted)
    | some (.table .passed inner) =>
      if rest.isEmpty then none else (add value (next :: rest) inner).map (.table .passed)
    | some (.tables inner) =>
      if rest.isEmpty then none else (add value (next :: rest) inner).map .tables
    | some _ => none

/-- Change the table that a path leads to, opening those on the way. -/
def within (change : Entries → Option Entries) : (path : List String) → Entries → Option Entries
  | [], entries => change entries
  | key :: rest, entries => entries.alter key fun
    | none => (within change rest []).map (.table .passed)
    | some (.table origin inner) => (within change rest inner).map (.table origin)
    | some (.tables inner) => (within change rest inner).map .tables
    | some _ => none

/-- Open a table under its heading. Only a heading further in may have opened it before. -/
def openTable : Option Item → Option Item
  | none => some (.table .heading [])
  | some (.table .passed inner) => some (.table .heading inner)
  | some _ => none

/-- Open a further table under a heading that others have, too. -/
def openAnother : Option Item → Option Item
  | none | some (.tables _) => some (.tables [])
  | some _ => none

/-- Open what a heading is for. -/
def openHeading (change : Option Item → Option Item) (path : List String) (entries : Entries) :
    Option Entries := do
  let key ← path.getLast?
  entries.within (fun inner => inner.alter key change) path.dropLast

end Entries

end AiScript.SettingsText
