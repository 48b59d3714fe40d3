import Paymaster.Ledger.Store

/-
  A tree of files and directories, as far as settings and databases need one.
  An entry is known by the list of the names on the way to it from the root; `[]` is the root. A
  path is text: it starts at the working directory, or at the root with a leading slash. Each name
  on the way must be that of a directory, `.` stays there and `..` goes up (`FileTree.walk`).
-/

namespace Paymaster

/-- The names on the way from the root. -/
abbrev Location := List String

/-- What a file holds. -/
inductive Contents
  | bytes (bytes : ByteArray)
  | database (store : Store)

inductive Node
  | directory
  | file (contents : Contents)

structure FileTree where
  entries : List (Location × Node) := []
  workingDirectory : Location := []

namespace FileTree

/-- What stands at a location. The root is always there. -/
def node? (t : FileTree) (l : Location) : Option Node :=
  if l = [] then some .directory else (t.entries.find? (·.1 = l)).map (·.2)

def isDirectory (t : FileTree) (l : Location) : Bool :=
  match t.node? l with
  | some .directory => true
  | _ => false

/-- Puts a node at a location, in the place of what stood there. -/
def put (l : Location) (n : Node) (t : FileTree) : FileTree :=
  { t with entries := t.entries.filter (·.1 ≠ l) ++ [(l, n)] }

def erase (l : Location) (t : FileTree) : FileTree :=
  { t with entries := t.entries.filter (·.1 ≠ l) }

/-! ## Paths -/

/-- The parts of a path between its slashes; those of an absolute path start with an empty one. -/
def parts (path : String) : List String := path.splitOn "/"

def isAbsolute (path : String) : Bool := path.startsWith "/"

/-- A name of more than 255 bytes stands for nothing. -/
def isTooLong (name : String) : Bool := 255 < name.utf8ByteSize

/-- Where a path starts. -/
def start (t : FileTree) (path : String) : Location :=
  if isAbsolute path then [] else t.workingDirectory

/-- Follows the names; the last one need not be there. -/
def walk (t : FileTree) : Location → List String → Except OsError Location
  | l, [] => .ok l
  | l, name :: names =>
    match t.node? l with
    | none => .error .noSuchFile
    | some (.file _) => .error .notADirectory
    | some .directory =>
      if name = "" ∨ name = "." then t.walk l names
      else if name = ".." then t.walk l.dropLast names
      else if isTooLong name then .error .nameTooLong
      else t.walk (l ++ [name]) names

/-- The location of a path. -/
def locate (t : FileTree) (path : String) : Except OsError Location :=
  if path = "" then .error .noSuchFile
  else if 4096 ≤ path.utf8ByteSize then .error .nameTooLong
  else t.walk (t.start path) (parts path)

/-! ## Reading -/

/-- The text of the file at a path. -/
def read (t : FileTree) (path : String) : Except FileError String :=
  if path.contains '\x00' then .error .nulInName
  else
    match t.locate path with
    | .error cause => .error (.os cause)
    | .ok l =>
      match t.node? l with
      | none => .error (.os .noSuchFile)
      | some .directory => .error (.os .isADirectory)
      | some (.file (.database _)) => .error .invalidUtf8
      | some (.file (.bytes bytes)) =>
        match String.fromUTF8? bytes with
        | some text => .ok text
        | none => .error .invalidUtf8

/-- Something stands at the path. -/
def isThere (t : FileTree) (path : String) : Bool :=
  match t.locate path with
  | .ok l => (t.node? l).isSome
  | .error _ => false

/-! ## Directories -/

/-- The names of a path, without those that stay where they are; a dot in front is kept. -/
def names (path : String) : List String :=
  match (parts path).filter (· ≠ "") with
  | [] => []
  | name :: rest =>
    let rest := rest.filter (· ≠ ".")
    if name = "." ∧ isAbsolute path then rest else name :: rest

/-- Makes one directory, whose parent must be there. -/
def makeDirectory (t : FileTree) (base : Location) (above : List String) (name : String) :
    Except OsError FileTree := do
  let parent ← t.walk base above
  match t.node? parent with
  | none => .error .noSuchFile
  | some (.file _) => .error .notADirectory
  | some .directory =>
    if name = "." ∨ name = ".." then .error .fileExists
    else if isTooLong name then .error .nameTooLong
    else if (t.node? (parent ++ [name])).isSome then .error .fileExists
    else .ok (t.put (parent ++ [name]) .directory)

/-- The names, last one first, lead to a directory. -/
def leadsToDirectory (t : FileTree) (base : Location) (reversed : List String) : Bool :=
  match t.walk base reversed.reverse with
  | .ok l => t.isDirectory l
  | .error _ => false

/-- Makes the directory at the end of the names, last one first, and those above it. A directory
that is there already will do. Those that were made stay, whatever happens. -/
def makeDirectories (t : FileTree) (base : Location) :
    List String → Except OsError Unit × FileTree
  | [] => (.ok (), t)
  | name :: above =>
    let settle (t : FileTree) (cause : OsError) : Except OsError Unit × FileTree :=
      (if t.leadsToDirectory base (name :: above) then .ok () else .error cause, t)
    match t.makeDirectory base above.reverse name with
    | .ok t => (.ok (), t)
    | .error .noSuchFile =>
      match t.makeDirectories base above with
      | (.error cause, t) => (.error cause, t)
      | (.ok (), t) =>
        match t.makeDirectory base above.reverse name with
        | .ok t => (.ok (), t)
        | .error cause => settle t cause
    | .error cause => settle t cause

/-- Makes the directory that the names lead to from the start of a path. -/
def makeAlong (t : FileTree) (path : String) (names : List String) :
    Except OsError Unit × FileTree :=
  if 4096 ≤ (String.intercalate "/" names).utf8ByteSize then (.error .nameTooLong, t)
  else t.makeDirectories (t.start path) names.reverse

/-- Makes the directory at a path and all those above it. -/
def makePath (t : FileTree) (path : String) : Except OsError Unit × FileTree :=
  t.makeAlong path (names path)

/-- Makes the directory in which the entry at a path is to stand. -/
def makeParent (t : FileTree) (path : String) : Except OsError Unit × FileTree :=
  t.makeAlong path (names path).dropLast

/-- Writes a file at a path in a directory that is there. -/
def withFile (t : FileTree) (path : String) (contents : Contents) : Except OsError FileTree := do
  let l ← t.locate path
  if t.isDirectory l then .error .isADirectory
  else if t.isDirectory l.dropLast then .ok (t.put l (.file contents))
  else .error .noSuchFile

/-- All that stands below the working directory, in the order of the names; a directory's name is
closed by a slash. -/
def listing (t : FileTree) : List String :=
  let here := t.workingDirectory
  let lines := t.entries.filterMap fun (l, n) =>
    if here.isPrefixOf l && here.length < l.length then
      let path := String.intercalate "/" (l.drop here.length)
      match n with
      | .directory => some (path ++ "/")
      | .file _ => some path
    else none
  lines.mergeSort fun a b => a ≤ b

end FileTree

end Paymaster
