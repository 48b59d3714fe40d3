import Paymaster.Connection.Layer
import Paymaster.FileTree

/-
  Files beside a database file.
  A file with the name of the database and `-journal` or `-wal` after it is left behind when a
  transaction is broken off. Before the database is read, `recover` looks for them: beside an empty
  database they mean nothing, and beside another one they are played back. Either way they go, but
  when the database may not be written, only a log beside an empty one does. A file without a byte
  does not count as left behind.
-/

namespace Paymaster

namespace Companions

def cannotOpen : DbError := .refused 14 "unable to open database file"

def ioError (code : Nat) : DbError := .refused code "disk I/O error"

/-- The location beside `l` with a longer name. -/
def beside (l : Location) (ending : String) : Location := l.dropLast ++ [l.getLastD "" ++ ending]

/-- The file holds anything. -/
def isLeftBehind : Contents → Bool
  | .bytes bytes => !bytes.isEmpty
  | .database _ => true

def startsWithZero : Contents → Bool
  | .bytes bytes => bytes.data[0]? = some 0
  | .database _ => false

/-- Looks for a journal. One that starts with a zero was closed, and stays. Behind a lock file every
journal seems to be in use. -/
def recoverJournal (t : FileTree) (l : Location) (layer : Layer) (isEmpty isWritable : Bool) :
    Except DbError FileTree :=
  let journal := beside l "-journal"
  match if layer = .lockFile then none else t.node? journal with
  | none => .ok t
  | some .directory => if isEmpty then .ok t else .error (ioError 266)
  | some (.file contents) =>
    if !isLeftBehind contents || (!isEmpty && startsWithZero contents) then .ok t
    else if isWritable || (isEmpty && layer = .unlocked) then .ok (t.erase journal)
    else if isEmpty then .ok t
    else .error (.refused 776 "attempt to write a readonly database")

/-- Looks for a log. One that may not be written stays, and its index is made. -/
def recoverLog (t : FileTree) (l : Location) (layer : Layer) (isEmpty isWritable : Bool) :
    Except DbError FileTree :=
  let log := beside l "-wal"
  let index := beside l "-shm"
  match t.node? log with
  | none => .ok t
  | some .directory => .error (if isEmpty then ioError 2570 else cannotOpen)
  | some (.file contents) =>
    if !isLeftBehind contents then .ok t
    else if isEmpty then .ok (t.erase log)
    else if !layer.readsLogs then .error cannotOpen
    else if isWritable then
      .ok (if layer = .exclusive then t.erase log else (t.erase log).erase index)
    else .ok (t.put index (.file (.bytes ByteArray.empty)))

/-- Locks the database at `l`, and looks for what was left behind beside it. -/
def recover (t : FileTree) (l : Location) (layer : Layer) (isEmpty isWritable : Bool) :
    Except DbError Unit × FileTree :=
  if layer = .lockFile ∧ FileTree.isTooLong (l.getLastD "" ++ ".lock") then
    (.error (ioError 3850), t)
  else
    match recoverJournal t l layer isEmpty isWritable with
    | .error cause => (.error cause, t)
    | .ok t =>
      match recoverLog t l layer isEmpty isWritable with
      | .error cause => (.error cause, t)
      | .ok t => (.ok (), t)

/-- A journal can be written beside the database. -/
def canWriteJournal (t : FileTree) (l : Location) : Bool :=
  !FileTree.isTooLong (l.getLastD "" ++ "-journal") && !t.isDirectory (beside l "-journal")

end Companions

end Paymaster
