import TransferBucket.Failure

/-!
# Files

A tree of directories and files, and the paths that lead through it. A path is walked from the
root or from the working directory, name by name: every name but the last must be a directory,
`.` stays and `..` goes up. A name of more than 255 bytes is refused where it is looked up, a path
of 4096 bytes or more at once.

Three things that a machine has are left out. There are no links, so going up undoes going down.
There are no permissions: whatever is at the end of a path can be read and written. And nothing is
ever full: a file that could be opened is written as a whole.
-/

namespace TransferBucket

/-! ## Paths -/

namespace Path

/-- The names of a path between its slashes; empty ones stand for repeated slashes. -/
def names (path : String) : List String :=
  let step (c : Char) (parts : List (List Char)) : List (List Char) :=
    if c = '/' then [] :: parts
    else match parts with
      | p :: rest => (c :: p) :: rest
      | [] => [[c]]
  (path.toList.foldr step [[]]).map String.ofList

/-- Whether a path starts at the root. -/
def isAbsolute (path : String) : Bool := path.toList.head? = some '/'

/-- The slashes that a written path starts with: exactly two are kept, more are one. -/
def root (path : String) : String :=
  match path.toList with
  | '/' :: '/' :: '/' :: _ => "/"
  | '/' :: '/' :: _ => "//"
  | '/' :: _ => "/"
  | _ => ""

/-- The written form of a path: without repeated slashes and without `.`. -/
def normalise (path : String) : String :=
  let parts := (names path).filter fun n => n ≠ "" ∧ n ≠ "."
  let text := root path ++ "/".intercalate parts
  if text = "" then "." else text

/-- The names that a path leads through from the root, with `..` worked out. -/
def resolve (directory : List String) (path : String) : List String :=
  let start := if isAbsolute path then [] else directory
  (names path).foldl (fun here n =>
    if n = "" ∨ n = "." then here else if n = ".." then here.dropLast else here ++ [n]) start

/-- The written form of names from the root. -/
def absolute (parts : List String) : String := "/" ++ "/".intercalate parts

/-- A path inside a directory. -/
def inside (directory name : String) : String :=
  if directory = "/" then "/" ++ name
  else if directory = "." then name
  else directory ++ "/" ++ name

/-- A path without slashes at its end; the root has one. -/
def trimmed (path : String) : String :=
  let text := String.ofList (path.toList.reverse.dropWhile (· == '/')).reverse
  if text = "" then "/" else text

end Path

/-! ## The tree -/

/-- What lies at the end of a path. -/
inductive Node where
  | directory
  | file (bytes : List UInt8)
  deriving DecidableEq

/-- The tree below the root, and the working directory. Nodes are found by their names from the
root. -/
structure FileSystem where
  nodes : List (List String × Node) := []
  directory : List String := []
  deriving DecidableEq

/-- Where a path leads. -/
inductive Place where
  | found (parts : List String) (node : Node)
  /-- Nothing is there, but a file could be made there. -/
  | free (parts : List String)
  | missing
  | notDirectory
  /-- The path, or a name that is looked up, has too many bytes. -/
  | tooLong
  deriving DecidableEq

/-- The most bytes of a name. -/
def Path.longestName : Nat := 255

/-- The most bytes of a path. -/
def Path.longest : Nat := 4095

namespace FileSystem

/-- The node with the given names from the root. -/
def node? (fs : FileSystem) (parts : List String) : Option Node :=
  if parts.isEmpty then some .directory
  else (fs.nodes.find? fun n => n.1 = parts).map (·.2)

/-- Walk the names of a path from a place. -/
def walk (fs : FileSystem) : List String → List String → Place
  | here, [] =>
    match fs.node? here with
    | some n => .found here n
    | none => .missing
  | here, n :: rest =>
    match fs.node? here with
    | some .directory =>
      if n = "" ∨ n = "." then fs.walk here rest
      else if n = ".." then fs.walk here.dropLast rest
      else if Path.longestName < n.utf8ByteSize then .tooLong
      else match fs.node? (here ++ [n]) with
        | some _ => fs.walk (here ++ [n]) rest
        | none => if rest.isEmpty then .free (here ++ [n]) else .missing
    | some (.file _) => .notDirectory
    | none => .missing

/-- Where a path leads. The empty one leads nowhere, nor does one with a null character. -/
def place (fs : FileSystem) (path : String) : Place :=
  if path = "" ∨ path.toList.contains '\x00' then .missing
  else if Path.longest < path.utf8ByteSize then .tooLong
  else fs.walk (if Path.isAbsolute path then [] else fs.directory) (Path.names path)

/-- What is at the end of a path, if anything is. A path that is too long is refused. -/
def look (fs : FileSystem) (path : String) : Except FileProblem (Option Node) :=
  match fs.place path with
  | .found _ node => .ok (some node)
  | .tooLong => .error (.tooLong path)
  | _ => .ok none

/-- Whether a file is at the end of a path. -/
def isFile (fs : FileSystem) (path : String) : Bool :=
  match fs.place path with
  | .found _ (.file _) => true
  | _ => false

/-- Whether a directory is at the end of a path. -/
def isDirectory (fs : FileSystem) (path : String) : Bool :=
  match fs.place path with
  | .found _ .directory => true
  | _ => false

/-- Put a node at a place. -/
def put (fs : FileSystem) (parts : List String) (node : Node) : FileSystem :=
  { fs with nodes := (parts, node) :: fs.nodes.filter fun n => n.1 ≠ parts }

/-- The bytes of a file. -/
def readBytes (fs : FileSystem) (path : String) : Except FileProblem (List UInt8) :=
  match fs.place path with
  | .found _ (.file bytes) => .ok bytes
  | .found _ .directory => .error (.isDirectory path)
  | .notDirectory => .error (.notDirectory path)
  | .tooLong => .error (.tooLong path)
  | _ => .error (.missing path)

/-- Write the bytes of a file, which may be there or not. -/
def writeBytes (fs : FileSystem) (path : String) (bytes : List UInt8) :
    Except FileProblem FileSystem :=
  match fs.place path with
  | .found parts (.file _) => .ok (fs.put parts (.file bytes))
  | .found _ .directory => .error (.isDirectory path)
  | .free parts => .ok (fs.put parts (.file bytes))
  | .notDirectory => .error (.notDirectory path)
  | .tooLong => .error (.tooLong path)
  | .missing => .error (.missing path)

/-- Make a directory. -/
def makeDirectory (fs : FileSystem) (path : String) : Except FileProblem FileSystem :=
  match fs.place path with
  | .found .. => .error (.exists path)
  | .free parts => .ok (fs.put parts .directory)
  | .notDirectory => .error (.notDirectory path)
  | .tooLong => .error (.tooLong path)
  | .missing => .error (.missing path)

/-- Make a directory with those above it that are missing. One that is there is no error. The
path starts with `root`; its names are given from the last one up. -/
def makeDirectories (fs : FileSystem) (root : String) : List String → Except FileProblem FileSystem
  | [] => .ok fs
  | last :: above =>
    let path := root ++ "/".intercalate (last :: above).reverse
    match fs.makeDirectory path with
    | .ok fs => .ok fs
    | .error (.missing _) =>
      match makeDirectories fs root above with
      | .ok fs =>
        match fs.makeDirectory path with
        | .ok fs => .ok fs
        | .error e => if fs.isDirectory path then .ok fs else .error e
      | .error e => .error e
    | .error e => if fs.isDirectory path then .ok fs else .error e

/-- Put a directory and all above it in place, whatever was there. -/
def ensureDirectory (fs : FileSystem) (parts : List String) : FileSystem :=
  (List.range parts.length).foldl (fun fs i =>
    let p := parts.take (i + 1)
    match fs.node? p with
    | some .directory => fs
    | _ => fs.put p .directory) fs

/-- Take a node away with all below it. -/
def remove (fs : FileSystem) (parts : List String) : FileSystem :=
  { fs with nodes := fs.nodes.filter fun n => !parts.isPrefixOf n.1 }

/-! ## Changes by others -/

/-- A change of the tree that somebody else makes. -/
inductive Change where
  /-- A file is there with these bytes, and the directories above it. -/
  | write (path : String) (bytes : List UInt8)
  /-- A directory is there, and those above it. -/
  | makeDirectory (path : String)
  /-- What was there is gone with all below it. -/
  | remove (path : String)
  deriving DecidableEq

/-- The tree after a change. -/
def change (fs : FileSystem) : Change → FileSystem
  | .write path bytes =>
    let parts := Path.resolve fs.directory path
    (fs.ensureDirectory parts.dropLast).put parts (.file bytes)
  | .makeDirectory path => fs.ensureDirectory (Path.resolve fs.directory path)
  | .remove path => fs.remove (Path.resolve fs.directory path)

end FileSystem

end TransferBucket
