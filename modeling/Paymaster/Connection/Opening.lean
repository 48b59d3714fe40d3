import Paymaster.Connection.Address
import Paymaster.Connection.Companions
import Paymaster.Connection.FileName
import Paymaster.Config.Settings

/-
  Connecting to the database of the settings.
  The directory of the file is made first, where the address is written with `sqlite://`. Then the
  address must be well-formed and of the scheme `sqlite`, and the file must be there unless it is to
  be made. Connecting is tried as often as the settings say, at least once. A file that is neither
  empty nor a database is found out when the tables are made, and so is one that may not be written.
-/

namespace Paymaster

/-- An open database, and where its file is. -/
structure OpenDatabase where
  contents : Contents
  location : Option Location := none
  isWritable : Bool := true
  /-- The file is taken never to change, so nothing can be left behind beside it. -/
  isFixed : Bool := false
  layer : Layer := .standard

namespace Connection

def badAddress (address : String) : DbError :=
  .connection (.internal ("The connection string '" ++ address ++ "' cannot be parsed."))

def noDriver (address : String) : DbError :=
  .connection (.internal ("The connection string '" ++ address ++ "' has no supporting driver."))

/-- The database refused to open, with its own code and words. -/
def refused (code : Nat) (text : String) : DbError := .connection (.driver (.refused code text))

def cannotOpen : DbError := refused 14 "unable to open database file"

def ioError (code : Nat) : DbError := refused code "disk I/O error"

/-- Makes the directory in which the database file is to stand. -/
def makeDirectory (t : FileTree) (address : String) : Except FileError Unit × FileTree :=
  match "sqlite://".toList.isPrefixOf? address.toList with
  | none => (.ok (), t)
  | some rest =>
    let path := String.ofList (rest.takeWhile (· ≠ '?'))
    if (FileTree.names path).dropLast.any (·.contains '\x00') then (.error .nulInName, t)
    else
      match t.makeParent path with
      | (.ok (), t) => (.ok (), t)
      | (.error cause, t) => (.error (.os cause), t)

/-! ## The file -/

/-- The bytes of a location written as a path. -/
def pathSize (l : Location) : Nat := l.foldr (fun name n => name.utf8ByteSize + 1 + n) 0

/-- One more name on the way to a database file; two dots go back by one name, whatever it stands
for. There is no way through a file. -/
def enter? (t : FileTree) (l : Location) (name : String) : Option Location :=
  if name = "" ∨ name = "." then some l
  else if name = ".." then some l.dropLast
  else if 511 ≤ pathSize l + name.utf8ByteSize then none
  else
    match t.node? l with
    | some (.file _) => none
    | some .directory => if FileTree.isTooLong name then none else some (l ++ [name])
    | none => some (l ++ [name])

/-- The location of a database file. Its path has at most 504 bytes. -/
def location? (t : FileTree) (path : String) : Option Location := do
  let l ← (FileTree.parts path).foldlM (enter? t) (t.start path)
  if l = [] ∨ 504 < pathSize l then none else some l

/-- Opens the file at a location, or makes it. A directory can be opened, but not read. -/
def openFile (t : FileTree) (target : Target) (layer : Layer) (l : Location) :
    Except DbError (OpenDatabase × FileTree) :=
  let isWritable := !target.readOnly && !target.immutable
  let db (contents : Contents) : OpenDatabase :=
    { contents, location := some l, isWritable, isFixed := target.immutable, layer }
  match t.node? l with
  | some (.file contents) => .ok (db contents, t)
  | some .directory => .error (if target.readOnly then ioError 266 else cannotOpen)
  | none =>
    if target.create && !target.readOnly && t.isDirectory l.dropLast then
      let contents := Contents.bytes ByteArray.empty
      .ok (db contents, t.put l (.file contents))
    else .error cannotOpen

/-- A database without a file. -/
def fresh (isWritable : Bool) : OpenDatabase := { contents := .bytes ByteArray.empty, isWritable }

/-- Opens the database of a target whose name is taken apart. One without a path, or in memory, is
new and leaves no file. -/
def openTarget (t : FileTree) (target : Target) (layer : Layer) :
    Except DbError (OpenDatabase × FileTree) :=
  if target.inMemory || target.path = "" || target.path = ":memory:" then
    .ok (fresh !target.readOnly, t)
  else if layer = .memory then
    if 1016 < target.path.utf8ByteSize then .error cannotOpen
    else .ok (fresh (!target.readOnly && !target.immutable), t)
  else
    match location? t target.path with
    | none => .error cannotOpen
    | some l =>
      if target.modeOf.any (!t.isThere ·) then .error (ioError 1802) else openFile t target layer l

/-! ## Connecting -/

/-- Connects once. -/
def connect (t : FileTree) (address : String) : Except DbError (OpenDatabase × FileTree) :=
  match Address.scheme? address with
  | none => .error (badAddress address)
  | some scheme =>
    if scheme = "sqlite" then
      match Target.ofAddress address >>= Target.resolve with
      | .ok (target, layer) => openTarget t target layer
      | .error cause => .error (.connection (.driver cause))
    else .error (noDriver address)

/-- Connects in at most `attempts + 1` attempts. -/
def connectWithin (t : FileTree) (address : String) :
    Nat → Except DbError (OpenDatabase × FileTree)
  | 0 => connect t address
  | attempts + 1 =>
    match connect t address with
    | .ok result => .ok result
    | .error _ => connectWithin t address attempts

/-- Connects to the database of the settings. The directory that was made stays. -/
def establish (t : FileTree) (s : DatabaseSettings) : Except Error OpenDatabase × FileTree :=
  if s.url = "" then (.error (.settings .urlRequired), t)
  else
    match makeDirectory t s.url with
    | (.error cause, t) => (.error (.file cause), t)
    | (.ok (), t) =>
      match connectWithin t s.url (s.connectRetries.toNat - 1) with
      | .ok (db, t) => (.ok db, t)
      | .error cause => (.error (.database cause), t)

/-- The tables of a new database. One of at most one byte counts as new. -/
def tables (isNew isWritable : Bool) : Except DbError Store :=
  if !isNew then .error (.refused 26 "file is not a database")
  else if !isWritable then .error (.refused 8 "attempt to write a readonly database")
  else .ok {}

/-- Makes the tables where they are missing. -/
def createTables (t : FileTree) (db : OpenDatabase) : Except DbError Store × FileTree :=
  match db.contents with
  | .database store => (.ok store, t)
  | .bytes bytes =>
    let isNew : Bool := bytes.size ≤ 1
    match if db.isFixed then none else db.location with
    | none => (tables isNew db.isWritable, t)
    | some l =>
      match Companions.recover t l db.layer isNew db.isWritable with
      | (.error cause, t) => (.error cause, t)
      | (.ok (), t) =>
        match tables isNew db.isWritable with
        | .error cause => (.error cause, t)
        | .ok store =>
          if Companions.canWriteJournal t l then
            (.ok store, (t.put l (.file (.database store))).erase (Companions.beside l "-journal"))
          else (.error Companions.cannotOpen, t)

end Connection

end Paymaster
