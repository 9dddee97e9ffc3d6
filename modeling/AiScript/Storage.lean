/-!
# Storage

Files are reached by paths through an interface that says nothing of where they are kept. Reading
and writing fail with a cause; whether the failure matters is for the caller to say.
-/

namespace AiScript

/-- Why a path could not be read or written. -/
inductive AccessFailure where
  | notFound
  | isDirectory
  | notDirectory
  | nameTooLong
  /-- The path holds a character that no path can hold. -/
  | invalidPath
  | refused
deriving DecidableEq

/-- The text of an access failure. -/
def AccessFailure.text : AccessFailure → String
  | .notFound => "no such file or directory"
  | .isDirectory => "is a directory"
  | .notDirectory => "not a directory"
  | .nameTooLong => "file name too long"
  | .invalidPath => "file name contained an unexpected NUL byte"
  | .refused => "access failed"

/-- Files as a program in a monad reaches them. -/
structure Storage (m : Type → Type) where
  read : String → m (Except AccessFailure String)
  write : String → String → m (Except AccessFailure Unit)
  isFile : String → m Bool
  isDirectory : String → m Bool

namespace Storage

/-- A path that is taken as seen from a directory. A path from the root of all files stays as it
is. -/
def join (directory path : String) : String :=
  if path.startsWith "/" then path
  else if directory.endsWith "/" then directory ++ path
  else directory ++ "/" ++ path

end Storage

end AiScript
