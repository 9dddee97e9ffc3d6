import AiScript.Storage

/-!
# File trees in memory

A file tree holds texts by place, a place being the list of names that lead to it. Directories are
not kept: there is one wherever a file lies below. Paths are taken as seen from the top, or from the
root of all files. The directories above the top and the root are there, but nothing is known to lie
in them except what was written there.
-/

namespace AiScript

/-- Files by place. -/
structure FileTree where
  files : List (List String × String) := []

namespace FileTree

/-- What is at a place. -/
inductive Node where
  | file (text : String)
  | directory

/-- The place of the root of all files. -/
def root : List String := ["/"]

/-- Is this the root, the top, or a place above it? -/
def isOutermost (place : List String) : Bool := place == root || place.all (· == "..")

/-- The place one step up. -/
def up (place : List String) : List String :=
  if place == root then place
  else if isOutermost place then place ++ [".."]
  else place.dropLast

/-- What is at a place, if there is anything. -/
def node? (tree : FileTree) (place : List String) : Option Node :=
  match tree.files.lookup place with
  | some text => some (.file text)
  | none =>
    if isOutermost place || tree.files.any fun file => place.isPrefixOf file.1 then some .directory
    else none

/-- Put a text at a place, in the stead of what was there. -/
def put (tree : FileTree) (place : List String) (text : String) : FileTree :=
  ⟨(place, text) :: tree.files.filter fun file => file.1 != place⟩

/-- The longest that a name may be, in bytes. -/
def nameLimit : Nat := 255

/-- The longest that a path may be, in bytes. -/
def pathLimit : Nat := 4095

/-- Go on from a place. Only from a directory is there a way on. -/
def follow (tree : FileTree) (place : List String) :
    List String → Except AccessFailure (List String × Node)
  | [] =>
    match tree.node? place with
    | some node => .ok (place, node)
    | none => .error .notFound
  | step :: rest =>
    match tree.node? place with
    | none => .error .notFound
    | some (.file _) => .error .notDirectory
    | some .directory =>
      if step = "" ∨ step = "." then follow tree place rest
      else if step = ".." then follow tree (up place) rest
      else if nameLimit < step.utf8ByteSize then .error .nameTooLong
      else follow tree (place ++ [step]) rest

/-- Where a path starts, and the names of which it is made. -/
def steps (path : String) : Except AccessFailure (List String × List String) :=
  if path.contains '\x00' then .error .invalidPath
  else if pathLimit < path.utf8ByteSize then .error .nameTooLong
  else if path.isEmpty then .error .notFound
  else .ok (if path.startsWith "/" then root else [], path.splitOn "/")

/-- Find what a path leads to. -/
def find (tree : FileTree) (path : String) : Except AccessFailure (List String × Node) := do
  let (start, steps) ← steps path
  tree.follow start steps

/-- The text that a path leads to. -/
def read (tree : FileTree) (path : String) : Except AccessFailure String :=
  match tree.find path with
  | .ok (_, .file text) => .ok text
  | .ok (_, .directory) => .error .isDirectory
  | .error failure => .error failure

/-- Does a path lead to a file? -/
def isFile (tree : FileTree) (path : String) : Bool :=
  match tree.find path with
  | .ok (_, .file _) => true
  | _ => false

/-- Does a path lead to a directory? -/
def isDirectory (tree : FileTree) (path : String) : Bool :=
  match tree.find path with
  | .ok (_, .directory) => true
  | _ => false

/-- Write a text where a path leads. The directory must be there; the file need not. -/
def write (tree : FileTree) (path text : String) : Except AccessFailure FileTree := do
  let (start, steps) ← steps path
  let name := steps.getLastD ""
  match ← tree.follow start steps.dropLast with
  | (_, .file _) => .error .notDirectory
  | (place, .directory) =>
    if name = "" ∨ name = "." ∨ name = ".." then .error .isDirectory
    else if nameLimit < name.utf8ByteSize then .error .nameTooLong
    else match tree.node? (place ++ [name]) with
      | some .directory => .error .isDirectory
      | _ => .ok (tree.put (place ++ [name]) text)

/-- The place that a path spells, without regard to what is there. -/
def placeOf (path : String) : List String :=
  (path.splitOn "/").filter fun step => step != "" && step != "."

/-- A tree of texts by path. Of one path the last text counts. -/
def ofList (files : List (String × String)) : FileTree :=
  files.foldl (fun tree file => tree.put (placeOf file.1) file.2) {}

/-- A tree that a program carries along, as storage. -/
def storage : Storage (StateM FileTree) where
  read path := do return (← get).read path
  write path text := do
    match (← get).write path text with
    | .ok tree => set tree; return .ok ()
    | .error failure => return .error failure
  isFile path := do return (← get).isFile path
  isDirectory path := do return (← get).isDirectory path

end FileTree

end AiScript
