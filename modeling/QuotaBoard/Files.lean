import QuotaBoard.Text.Utf8

/-!
# Files

What the library needs of a file system, so that the same code serves real files and a record of
them.
-/

namespace QuotaBoard

/-- What is found at a path. -/
inductive FileContent where
  /-- Nothing. -/
  | missing
  /-- Nothing, and nothing could be there, since a file stands where a directory would. -/
  | blocked (message : String)
  /-- Something that cannot be read as text. -/
  | unreadable (message : String)
  | text (content : String)
deriving DecidableEq

/-- The content of a file of some bytes. -/
def FileContent.ofBytes (bytes : List UInt8) : FileContent :=
  match Utf8.text? bytes with
  | some s => text s
  | none => unreadable "stream did not contain valid UTF-8"

/-- A file system.  An action that fails says why. -/
structure Files (m : Type → Type) where
  read : String → m FileContent
  write : (path content : String) → m (Except String Unit)
  /-- Makes a directory and those around it, as far as they do not exist. -/
  makeDirectory : (path : String) → m (Except String Unit)

namespace Path

/-- Whether a path starts at the root. -/
def isAbsolute (path : String) : Bool := path.toList.head? = some '/'

/-- A path below another one; an absolute path stays as it is. -/
def join (parent child : String) : String :=
  if isAbsolute child ∨ parent = "" then child
  else if parent.toList.getLast? = some '/' then parent ++ child
  else parent ++ "/" ++ child

/-- The directory that a path lies in. -/
def parent (path : String) : String :=
  String.ofList ((path.toList.reverse.dropWhile (· ≠ '/')).dropWhile (· = '/')).reverse

end Path

end QuotaBoard
