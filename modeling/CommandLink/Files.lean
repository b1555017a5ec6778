import CommandLink.Bytes
import CommandLink.IoError
import CommandLink.Table
import CommandLink.Text.Split
import CommandLink.Text.Utf8

/-!
# Files

A tree of files and directories, and the operations on it that a credential file, a password file
and a log file need, each with the errors of the operating system. The disk may also fail where the
tree gives no cause for it: `Files.faults` says what goes wrong at the next files to be written.
-/

namespace CommandLink

/-- What a name stands for. -/
inductive FileNode where
  | file (content : Bytes)
  | directory
  deriving DecidableEq, Repr

/-- What goes wrong as a file is written. The new content goes into a temporary file, which then
takes the place of the file. -/
inductive WriteFault where
  /-- The directories above the file cannot be made. -/
  | directories (error : IoError)
  /-- The temporary file cannot be made, filled or kept. -/
  | temporary (error : IoError)
  /-- The temporary file cannot take the place of the file. -/
  | rename (error : IoError)
  deriving DecidableEq, Repr

/-- The files and directories by the names that lead to them from the root. The root itself is
always there. -/
structure Files where
  nodes : Table (List String) FileNode
  /-- Where paths start that do not start at the root. -/
  workingDirectory : List String
  /-- What goes wrong at the next files to be written, one after the other; later on nothing does. -/
  faults : List (Option WriteFault) := []

namespace Files

/-- The node at a place. -/
def node? (files : Files) (place : List String) : Option FileNode :=
  if place = [] then some .directory else files.nodes.get? place

/-- Whether there is a directory at a place. -/
def isDirectoryAt (files : Files) (place : List String) : Bool :=
  files.node? place = some .directory

/-- The longest name, in bytes. -/
def longestName : Nat := 255

/-- The longest path, in bytes. -/
def longestPath : Nat := 4095

/-- The names of a path. -/
def pathNames (path : String) : List String :=
  ((Text.splitOn '/' path.toList).filter (· ≠ [])).map String.ofList

/-- Whether a path ends in a slash, which asks for a directory. -/
def asksForDirectory (path : String) : Bool := path.toList.getLast? = some '/'

/-- Follows names from a place; every name but the last must lead to a directory. -/
def follow (files : Files) (place : List String) : List String → Except IoError (List String)
  | [] => .ok place
  | name :: names =>
    match files.node? place with
    | none => .error .notFound
    | some (.file _) => .error .notDirectory
    | some .directory =>
      if name = "." then files.follow place names
      else if name = ".." then files.follow place.dropLast names
      else if longestName < name.utf8ByteSize then .error .nameTooLong
      else files.follow (place ++ [name]) names

/-- Whether a path holds the character with code zero, which none may. -/
def holdsNul (path : String) : Bool := path.toList.any (·.toNat = 0)

/-- Follows names as a path does that may hold them. -/
def followIn (files : Files) (path : String) (names : List String) :
    Except IoError (List String) :=
  if holdsNul path then .error .nulInName
  else if path = "" then .error .notFound
  else if longestPath < path.utf8ByteSize then .error .nameTooLong
  else
    let start := if path.toList.head? = some '/' then [] else files.workingDirectory
    files.follow start names

/-- The place of a path; there need not be anything there. -/
def place (files : Files) (path : String) : Except IoError (List String) :=
  let names := pathNames path
  files.followIn path (if asksForDirectory path ∧ names ≠ [] then names ++ ["."] else names)

/-- The place of the directory that holds the last name of a path, and this name. -/
def placeAbove (files : Files) (path : String) : Except IoError (List String × Option String) := do
  let names := pathNames path
  let above ← files.followIn path (names.dropLast ++ ["."])
  return (above, names.getLast?)

/-- Whether there is anything at a path. -/
def hasPath (files : Files) (path : String) : Bool :=
  match files.place path with
  | .error _ => false
  | .ok place => (files.node? place).isSome

/-- Whether there is a directory at a path. -/
def isDirectory (files : Files) (path : String) : Bool :=
  match files.place path with
  | .error _ => false
  | .ok place => files.isDirectoryAt place

/-- The bytes of a file. -/
def read (files : Files) (path : String) : Except IoError Bytes := do
  let place ← files.place path
  match files.node? place with
  | none => .error .notFound
  | some .directory => .error .isDirectory
  | some (.file content) => .ok content

/-- The text of a file. -/
def readText (files : Files) (path : String) : Except IoError String := do
  let bytes ← files.read path
  match Text.Utf8.toString? bytes with
  | some s => .ok s
  | none => .error .notText

/-- Puts a node at a place. -/
def set (files : Files) (place : List String) (node : FileNode) : Files :=
  { files with nodes := files.nodes.insert place node }

/-- Removes what is at a place, and everything below it. -/
def remove (files : Files) (place : List String) : Files :=
  let below := files.nodes.keys.filter fun names => names.take place.length = place
  { files with nodes := below.foldl Table.erase files.nodes }

/-- Makes one directory. -/
def makeDirectory (files : Files) (path : String) : Except IoError Files := do
  let place ← files.place path
  match files.node? place with
  | some _ => .error .exists
  | none => .ok (files.set place .directory)

/-- The names of a path without those that name the directory they stand in, but for a first one. -/
def plainNames (path : String) : List String :=
  match pathNames path with
  | [] => []
  | first :: rest =>
    let rest := rest.filter (· ≠ ".")
    if first = "." ∧ path.toList.head? = some '/' then rest else first :: rest

/-- A path without its last name, if it has one. -/
def parent? (path : String) : Option String :=
  let names := plainNames path
  if names = [] then none
  else
    let root := if path.toList.head? = some '/' then "/" else ""
    some (root ++ String.intercalate "/" names.dropLast)

/-- Makes one directory, unless it is there. -/
def ensureDirectory (files : Files) (path : String) : Files × Except IoError Unit :=
  match files.makeDirectory path with
  | .ok made => (made, .ok ())
  | .error e => (files, if files.isDirectory path then .ok () else .error e)

/-- Makes a directory with those above it; `depth` bounds how far up to go. What has been made stays
after a failure. -/
def makeDirectories (files : Files) : (depth : Nat) → (path : String) → Files × Except IoError Unit
  | 0, _ => (files, .error .notFound)
  | depth + 1, path =>
    if path = "" then (files, .ok ())
    else
      match files.ensureDirectory path, parent? path with
      | (_, .error .notFound), some upper =>
        match files.makeDirectories depth upper with
        | (made, .error e) => (made, .error e)
        | (made, .ok ()) => made.ensureDirectory path
      | result, _ => result

/-- Makes a directory with those above it; the files are those after it, also after a failure. -/
def ensureAll (files : Files) (path : String) : Files × Except IoError Unit :=
  files.makeDirectories (path.length + 1) path

/-- Makes a directory with those above it. -/
def makeAll (files : Files) (path : String) : Except IoError Files :=
  let (made, result) := files.ensureAll path
  result.map fun _ => made

/-- Writes a file as a whole: what was there before stands until the new content does. A directory
is not replaced, nor what is named by its place alone. -/
def replace (files : Files) (path : String) (content : Bytes) : Except IoError Files := do
  if holdsNul path then .error .invalidArgument
  match ← files.placeAbove path with
  | (_, none) => .error .busy
  | (above, some name) =>
    if name = "." ∨ name = ".." then .error .busy
    else if longestName < name.utf8ByteSize then .error .nameTooLong
    else if asksForDirectory path then .error .notDirectory
    else if files.isDirectoryAt (above ++ [name]) then .error .isDirectory
    else .ok (files.set (above ++ [name]) (.file content))

/-- What goes wrong at the next file to be written, and the files after that. -/
def takeFault (files : Files) : Option WriteFault × Files :=
  match files.faults with
  | [] => (none, files)
  | fault :: faults => (fault, { files with faults := faults })

/-- Writes a file as a whole, with the directories above it. What cannot be written is left out. -/
def provide (files : Files) (path : String) (content : Bytes) : Files :=
  let made := ((files.makeAll ((parent? path).getD "")).toOption).getD files
  ((made.replace path content).toOption).getD made

/-- Removes what is at a path, and everything below it. -/
def removePath (files : Files) (path : String) : Files :=
  match files.place path with
  | .ok place => files.remove place
  | .error _ => files

/-- Opens a file for writing at its end; it is made if it is not there. -/
def openForAppend (files : Files) (path : String) : Except IoError Files := do
  match ← files.placeAbove path with
  | (_, none) => .error .isDirectory
  | (above, some name) =>
    if name = "." ∨ name = ".." ∨ asksForDirectory path then .error .isDirectory
    else if longestName < name.utf8ByteSize then .error .nameTooLong
    else match files.node? (above ++ [name]) with
      | some .directory => .error .isDirectory
      | some (.file _) => .ok files
      | none => .ok (files.set (above ++ [name]) (.file []))

/-- The names in a directory. -/
def list (files : Files) (place : List String) : List String :=
  files.nodes.keys.filterMap fun names =>
    if names.dropLast = place ∧ names ≠ [] then names.getLast? else none

end Files

end CommandLink
