import MemoryPlan.Log.Line
/-!
# File trees

The directories and files below a working directory. Opening a log file makes the directories above it
that are missing, and the file itself; what was made stays when a later step fails.
-/

namespace MemoryPlan

/-- What stands at a path. -/
inductive FileEntry where
  /-- A directory. -/
  | directory
  /-- A file with its lines. -/
  | file (lines : List LogLine)
  deriving DecidableEq, Repr

/-- A path from the working directory: the names on it with slashes between them. -/
abbrev FilePath := String

/-- The directories and files below a working directory. -/
structure FileTree where
  /-- Each path with what stands there; each path occurs once. -/
  entries : List (FilePath × FileEntry) := []
  deriving DecidableEq, Repr, Inhabited

namespace FilePath

/-- The names on a written path, with dots for the same directory and for the one above. -/
def names (s : String) : List String := (Text.split '/' s).filter (· ≠ "")

/-- The names on a written path that lead somewhere else: not dots for the same directory. -/
def parts (s : String) : List String := (names s).filter (· ≠ ".")

/-- The path of the working directory. -/
def origin : FilePath := ""

/-- The path of the directory that a path is in; there is nothing above the working directory. -/
def parent (path : FilePath) : FilePath := String.intercalate "/" (Text.split '/' path).dropLast

/-- Where a name leads from a directory; two dots lead back, but not out of the working directory. -/
def step (here : FilePath) (name : String) : FilePath :=
  if name = "." then here
  else if name = ".." then parent here
  else if here = origin then name
  else here ++ "/" ++ name

/-- The path that names lead to from the working directory. -/
def ofNames (names : List String) : FilePath := names.foldl step origin

/-- The most bytes that a name may have. -/
def nameLimit : Nat := 255

/-- The number of bytes from which on a written path is too long to be looked up. -/
def pathLimit : Nat := 4096

/-- Where the names that lead somewhere else end among pieces of a path, in bytes from its start. -/
def endsFrom (start : Nat) : List String → List Nat
  | [] => []
  | piece :: rest =>
    let stop := start + piece.utf8ByteSize
    (if piece = "" ∨ piece = "." then [] else [stop]) ++ endsFrom (stop + 1) rest

/-- The number of bytes of a written path up to the directory that its last name is in. -/
def parentSize (s : String) : Nat := ((endsFrom 0 (Text.split '/' s)).dropLast.getLast?).getD 0

/-- Whether a written path ends in a slash: only a directory could be meant. -/
def endsInSlash (s : String) : Bool := s.toList.getLast? == some '/'

/-- Whether a written path or a name holds a NUL character, which no path can be looked up with. -/
def holdsNul (s : String) : Bool := s.toList.contains '\x00'

end FilePath

namespace FileTree

/-- What stands at a path; the working directory itself is a directory. -/
def entryAt? (tree : FileTree) (path : FilePath) : Option FileEntry :=
  if path = FilePath.origin then some .directory else tree.entries.lookup path

/-- Puts something at a path. -/
def put (tree : FileTree) (path : FilePath) (entry : FileEntry) : FileTree :=
  { entries := (tree.entries.filter fun (other, _) => other ≠ path) ++ [(path, entry)] }

/-- What a name leads to from a directory, if there is something; too long a name is refused. -/
def look (tree : FileTree) (here : FilePath) (name : String) : Except FileFault (Option FileEntry) :=
  if name.utf8ByteSize ≤ FilePath.nameLimit then .ok (tree.entryAt? (FilePath.step here name))
  else .error .nameTooLong

/-- Goes along names from a directory; only directories lead on. -/
def walk (tree : FileTree) : FilePath → List String → Except FileFault FilePath
  | here, [] => .ok here
  | here, name :: rest =>
    match tree.look here name with
    | .error fault => .error fault
    | .ok none => .error .notFound
    | .ok (some (.file _)) => .error .notDirectory
    | .ok (some .directory) => tree.walk (FilePath.step here name) rest

/-- Makes the directory of a name in a directory, unless it is there; yields where it is. -/
def ensureIn (tree : FileTree) (here : FilePath) (name : String) : Except FileFault FilePath × FileTree :=
  match tree.look here name with
  | .error fault => (.error fault, tree)
  | .ok (some .directory) => (.ok (FilePath.step here name), tree)
  | .ok (some (.file _)) => (.error .occupied, tree)
  | .ok none => (.ok (FilePath.step here name), tree.put (FilePath.step here name) .directory)

/-- Makes the last directory along names, unless it is there; yields where it is. -/
def ensureDirectory (tree : FileTree) (names : List String) : Except FileFault FilePath × FileTree :=
  if names.any FilePath.holdsNul then (.error .nulCharacter, tree)
  else match tree.walk FilePath.origin names.dropLast, names.getLast? with
  | .error fault, _ => (.error fault, tree)
  | .ok here, none => (.ok here, tree)
  | .ok here, some last => tree.ensureIn here last

/-- Makes the directories along names: when one is missing above the last, those above are made first. Yields
where the last one is. -/
def makeDirectories (tree : FileTree) (names : List String) : Except FileFault FilePath × FileTree :=
  if h : names = [] then (.ok FilePath.origin, tree)
  else match tree.ensureDirectory names with
    | (.error .notFound, same) =>
      match same.makeDirectories names.dropLast with
      | (.ok here, above) => above.ensureIn here (names.getLast h)
      | failed => failed
    | done => done
  termination_by names.length
  decreasing_by
    cases names with
    | nil => contradiction
    | cons name rest => simp

/-- Opens the file of a written path for appending, in a directory that is there. A path that ends in a
slash or in dots could only mean a directory. -/
def openFile (tree : FileTree) (written : String) : Except FileFault Unit × FileTree :=
  let names := FilePath.names written
  if FilePath.holdsNul written then (.error .nulCharacter, tree)
  else if FilePath.pathLimit ≤ written.utf8ByteSize then (.error .nameTooLong, tree)
  else match tree.walk FilePath.origin names.dropLast, names.getLast? with
  | .error fault, _ => (.error fault, tree)
  | .ok _, none => (.error (if written.isEmpty then .notFound else .isDirectory), tree)
  | .ok here, some last =>
    if last = "." ∨ last = ".." ∨ FilePath.endsInSlash written then (.error .isDirectory, tree)
    else match tree.look here last with
      | .error fault => (.error fault, tree)
      | .ok (some .directory) => (.error .isDirectory, tree)
      | .ok (some (.file _)) => (.ok (), tree)
      | .ok none => (.ok (), tree.put (FilePath.step here last) (.file []))

/-- Opens a log file for appending, making the directories above it first. None is made if the path to them
is too long. -/
def openLog (tree : FileTree) (written : String) : Except LogError Unit × FileTree :=
  let above := (FilePath.parts written).dropLast
  if FilePath.pathLimit ≤ FilePath.parentSize written ∧ !above.any FilePath.holdsNul then
    (.error (.directoryFailed .nameTooLong), tree)
  else match tree.makeDirectories above with
  | (.error fault, made) => (.error (.directoryFailed fault), made)
  | (.ok _, made) =>
    let (outcome, after) := made.openFile written
    (outcome.mapError (.openFailed written), after)

/-- The tree with a file of that text, or with a directory if there is none, and what is above it. -/
def withEntry (tree : FileTree) (written : String) (text : Option String) : FileTree :=
  let parts := FilePath.parts written
  match text with
  | none => (tree.makeDirectories parts).2
  | some s =>
    (tree.makeDirectories parts.dropLast).2.put (FilePath.ofNames parts)
      (.file ((Text.lines s).map .plain))

/-- Appends lines to the file of a written path. -/
def append (tree : FileTree) (written : String) (lines : List LogLine) : FileTree :=
  let path := FilePath.ofNames (FilePath.names written)
  match tree.entryAt? path with
  | some (.file before) => tree.put path (.file (before ++ lines))
  | _ => tree

end FileTree
end MemoryPlan
