import ByteMachine.Text.Split

/-!
# Paths and files

A path is a sequence of names that leads from the working directory, or from the root if it begins
with a slash, to a place. What stands there is found by walking through the names: an empty name
and a single dot stay where they are, two dots go one level up, but only in a directory. Nothing is
known outside the working directory except that the directories above it exist.
-/

namespace ByteMachine.CommandLine

/-- What stands at a path. -/
inductive Spot where
  /-- A directory. -/
  | directory
  /-- A file with its contents. -/
  | file (content : List UInt8)
  /-- Nothing, in a directory that exists. -/
  | vacant
  /-- Nothing, since a directory on the way does not exist. -/
  | astray
  /-- Nothing, since a file stands on the way. -/
  | blocked
  /-- Nothing, since the path or a name on the way is too long. -/
  | tooLong
deriving DecidableEq, Repr

/-- The most bytes that a name may have. -/
def maxNameBytes : Nat := 255

/-- The most bytes that a path may have. -/
def maxPathBytes : Nat := 4095

/-- A path with a null character, at which no system can look. -/
def hasNull (path : String) : Bool :=
  path.toList.contains (Char.ofNat 0)

/-- The names between the slashes of a path. -/
def pathNames (path : String) : List String :=
  (Text.splitBy (· == '/') path.toList).map String.ofList

/-- The names of a path that lead somewhere else. -/
def pathSteps (path : String) : List String :=
  (pathNames path).filter fun name => !name.isEmpty && name != "."

/-- The slashes with which the shortest way to write a path begins. Two slashes at the start stay
two, and more of them are one. -/
def pathRoot (path : String) : String :=
  match (path.toList.takeWhile (· == '/')).length with
  | 0 => ""
  | 2 => "//"
  | _ => "/"

/-- The shortest way to write a path. -/
def tidyPath (path : String) : String :=
  let tidied := pathRoot path ++ String.intercalate "/" (pathSteps path)
  if tidied.isEmpty then "." else tidied

/-- The last name of a path. -/
def fileName (path : String) : String :=
  (pathSteps path).getLast?.getD ""

/-- A directory at which a way can begin. -/
inductive Origin where
  /-- The root directory. -/
  | root
  /-- The directory some levels above the working directory, which is itself zero levels above. -/
  | above (levels : Nat)
deriving DecidableEq, Repr

/-- A place, by the shortest way that leads to it. -/
structure Place where
  /-- Where the way begins. -/
  origin : Origin
  /-- The names on the way down. -/
  names : List String
deriving DecidableEq, Repr

namespace Place

/-- The place at which the way of a path begins. -/
def start (path : String) : Place :=
  ⟨if path.startsWith "/" then .root else .above 0, []⟩

/-- One level up, where the root stays the root. -/
def parent (place : Place) : Place :=
  match place.origin, place.names with
  | origin, name :: rest => ⟨origin, (name :: rest).dropLast⟩
  | .root, [] => ⟨.root, []⟩
  | .above levels, [] => ⟨.above (levels + 1), []⟩

/-- The place to which a name leads. -/
def follow (place : Place) (name : String) : Place :=
  if name.isEmpty || name == "." then place
  else if name == ".." then place.parent
  else { place with names := place.names ++ [name] }

/-- The place to which a path leads. -/
def ofPath (path : String) : Place :=
  (pathNames path).foldl follow (start path)

/-- A place lies on the way to another one, or is that place. -/
def leadsTo (place other : Place) : Bool :=
  place.origin = other.origin && place.names.isPrefixOf other.names

end Place

/-- The files that are known, each with its place. -/
structure FileTree where
  /-- The files. -/
  files : List (Place × List UInt8)
deriving Repr

namespace FileTree

/-- The files with the given paths. -/
def ofFiles (files : List (String × List UInt8)) : FileTree :=
  ⟨files.map fun file => (.ofPath file.1, file.2)⟩

/-- What stands at a place. -/
def lookup (tree : FileTree) (place : Place) : Spot :=
  match tree.files.lookup place with
  | some content => .file content
  | none =>
    if place.names.isEmpty || tree.files.any (fun file => place.leadsTo file.1) then .directory
    else .vacant

/-- Walks on from a place that was reached, where the given spot was found. -/
def walk (tree : FileTree) (reached : Place) (spot : Spot) : List String → Spot
  | [] => spot
  | name :: rest =>
    match spot with
    | .directory =>
      if maxNameBytes < name.utf8ByteSize then .tooLong
      else tree.walk (reached.follow name) (tree.lookup (reached.follow name)) rest
    | .file _ => .blocked
    | .vacant => .astray
    | .astray => .astray
    | .blocked => .blocked
    | .tooLong => .tooLong

/-- What stands at a path. -/
def spot (tree : FileTree) (path : String) : Spot :=
  if path.isEmpty then .vacant
  else if maxPathBytes < path.utf8ByteSize then .tooLong
  else tree.walk (.start path) .directory (pathNames path)

/-- The files after one has been written. -/
def write (tree : FileTree) (path : String) (content : List UInt8) : FileTree :=
  ⟨(.ofPath path, content) :: tree.files.filter fun file => file.1 != .ofPath path⟩

end FileTree

end ByteMachine.CommandLine
