import BuildInjection.Cut

/-!
# Paths

A path is a text whose parts are separated by slashes.  It is absolute if it begins with a slash.
-/

namespace BuildInjection.Path

/-- Whether a path starts at the root. -/
def isAbsolute (path : String) : Bool := path.toList.head? = some '/'

/-- The path that leads from a base along another path; an absolute one stands for itself. -/
def join (base path : String) : String :=
  if isAbsolute path then path
  -- no second slash is put between the two
  else if base.isEmpty || base.toList.getLast? = some '/' then base ++ path
  else base ++ "/" ++ path

/-- Everything between the slashes of a path, empty parts included. -/
def parts (path : String) : List String :=
  (cut (· = '/') path.toList).map String.ofList

/-- Whether a part leads nowhere else. -/
def isIdle (part : String) : Bool := part.isEmpty || part = "."

/-- The path without its last part; parts at the end that lead nowhere else do not count. -/
def parent (path : String) : String :=
  -- the last part is the last one that leads somewhere
  let before := ((parts path).reverse.dropWhile isIdle).tail.dropWhile isIdle
  "/".intercalate before.reverse

/-- Whether a path ends in a name with slashes after it, which only a directory can have. -/
def endsInSlashedName (path : String) : Bool :=
  match (parts path).reverse with
  | "" :: before => (before.find? (!·.isEmpty)).any fun part => part != "." && part != ".."
  | _ => false

/-- Whether a path holds a NUL character. -/
def hasNul (path : String) : Bool := path.toList.contains '\x00'

/-- Whether a path is longer than the system takes. -/
def isTooLong (path : String) : Bool := 4096 ≤ path.utf8ByteSize

/-- Whether a part of a path is longer than the system takes. -/
def isPartTooLong (part : String) : Bool := 255 < part.utf8ByteSize

end BuildInjection.Path
