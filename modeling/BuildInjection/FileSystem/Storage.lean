import BuildInjection.FileSystem.Path
import BuildInjection.Output

/-!
# A file system in memory

Directories and files under a root, with a directory in which relative paths start.  Paths are
walked part by part, so that each fault is the one that the first obstacle on the way gives.  The
files of a storage lie below a base directory, which is made when the first file is written.
-/

namespace BuildInjection

/-- What stands in a file system. -/
inductive FileNode where
  | directory
  | file (content : List UInt8)

/-- A place in a file system: the names that lead to it from the root. -/
abbrev Place := List String

/-- Directories and files, and the directory in which relative paths start.  The root is always
    there. -/
structure FileSystem where
  nodes : List (Place × FileNode) := []
  current : Place := []

namespace FileSystem

/-- What stands at a place. -/
def node? (fs : FileSystem) (place : Place) : Option FileNode :=
  -- the root is no entry of the list
  if place.isEmpty then some .directory
  else (fs.nodes.find? (·.1 = place)).map Prod.snd

/-- The file system with something at a place, instead of what was there. -/
def put (fs : FileSystem) (place : Place) (node : FileNode) : FileSystem :=
  { fs with nodes := fs.nodes.filter (·.1 != place) ++ [(place, node)] }

/-- The directory in which a path starts. -/
def start (fs : FileSystem) (path : String) : Place :=
  if Path.isAbsolute path then [] else fs.current

/-- What a path leads to. -/
inductive Target where
  | directory (place : Place)
  | file (place : Place) (content : List UInt8)
  /-- Nothing, but there is a directory in which it could be. -/
  | vacant (place : Place)

/-- Walk along the parts of a path from a directory. -/
def walk (fs : FileSystem) : Place → List String → Except IoFault Target
  | here, [] => .ok (.directory here)
  | here, part :: rest =>
    if Path.isIdle part then walk fs here rest
    -- above the root there is only the root
    else if part = ".." then walk fs here.dropLast rest
    -- the length is looked at before the file system is
    else if Path.isPartTooLong part then .error .nameTooLong
    else match fs.node? (here ++ [part]) with
      | some .directory => walk fs (here ++ [part]) rest
      | some (.file content) =>
        -- a file is the end of every way
        if rest.isEmpty then .ok (.file (here ++ [part]) content) else .error .notADirectory
      | none => if rest.isEmpty then .ok (.vacant (here ++ [part])) else .error .notFound

/-- Walk along the parts of a path from a directory and make the directories that are missing. -/
def makeDirectories (fs : FileSystem) : Place → List String → Except IoFault Unit × FileSystem
  | _, [] => (.ok (), fs)
  | here, part :: rest =>
    if part = ".." then makeDirectories fs here.dropLast rest
    else if Path.isPartTooLong part then (.error .nameTooLong, fs)
    else match fs.node? (here ++ [part]) with
      | some .directory => makeDirectories fs (here ++ [part]) rest
      | some (.file _) =>
        -- a file in the last place is reported differently from one on the way
        (.error (if rest.isEmpty then .alreadyExists else .notADirectory), fs)
      | none => makeDirectories (fs.put (here ++ [part]) .directory) (here ++ [part]) rest

/-- Why a path cannot even be walked, if it cannot. -/
def pathFault? (path : String) : Option IoFault :=
  if Path.hasNul path then some .nulInPath
  else if Path.isTooLong path then some .nameTooLong
  else none

/-- The content of the file to which a path leads. -/
def read (fs : FileSystem) (path : String) : Except IoFault (List UInt8) :=
  match pathFault? path with
  | some fault => .error fault
  | none =>
    match fs.walk (fs.start path) (Path.parts path) with
    | .error fault => .error fault
    | .ok (.directory _) => .error .isADirectory
    | .ok (.file _ content) => .ok content
    -- what could be there is not there
    | .ok (.vacant _) => .error .notFound

/-- Make the directories that lead to the last part of a path. -/
def makeParent (fs : FileSystem) (path : String) : Except IoFault Unit × FileSystem :=
  match pathFault? (Path.parent path) with
  | some fault => (.error fault, fs)
  | none =>
    fs.makeDirectories (fs.start path) ((Path.parts (Path.parent path)).filter (!Path.isIdle ·))

/-- Put a content into the file to which a path leads, in a directory that is there. -/
def overwrite (fs : FileSystem) (path : String) (content : List UInt8) :
    Except IoFault Unit × FileSystem :=
  match pathFault? path with
  | some fault => (.error fault, fs)
  | none =>
    -- such a name is that of a directory, whatever stands there
    if Path.endsInSlashedName path then (.error .isADirectory, fs)
    else match fs.walk (fs.start path) (Path.parts path) with
      | .error fault => (.error fault, fs)
      | .ok (.directory _) => (.error .isADirectory, fs)
      | .ok (.file place _) | .ok (.vacant place) => (.ok (), fs.put place (.file content))

/-- Write a file: make the directories that lead to it, then put the content into it.  The
    directories are made even if the content then finds no place. -/
def write (fs : FileSystem) (path : String) (content : List UInt8) :
    Except IoFault Unit × FileSystem :=
  match fs.makeParent path with
  | (.error fault, fs) => (.error fault, fs)
  | (.ok (), fs) => fs.overwrite path content

/-- The files below the directory in which relative paths start, each with its relative path. -/
def filesBelow (fs : FileSystem) : List (String × List UInt8) :=
  fs.nodes.filterMap fun (place, node) =>
    match node with
    | .directory => none
    | .file content =>
      if fs.current.isPrefixOf place then
        -- the path is the one from the current directory
        some ("/".intercalate (place.drop fs.current.length), content)
      else none

/-! ## Storage in a directory -/

/-- The content of a file of the storage with a base directory. -/
def readBelow (fs : FileSystem) (base path : String) : Except IoFault (List UInt8) :=
  fs.read (Path.join base path)

/-- The storage with a base directory. -/
def storageBelow (base : String) : Storage FileSystem where
  write name text fs := fs.write (Path.join base name) text.toUTF8.toList

end FileSystem

end BuildInjection
