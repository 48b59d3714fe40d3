/-
  The layers through which a database can be reached.
  They differ in how they lock the file, and so in what they can tell of other users of it.
-/

namespace Paymaster

inductive Layer
  | standard
  /-- The file is never locked. -/
  | unlocked
  /-- A file with `.lock` after the name of the database stands for the lock. -/
  | lockFile
  /-- The file stays locked if it can be written. -/
  | exclusive
  /-- There is no file. -/
  | memory
deriving DecidableEq, Repr

namespace Layer

def ofName? : String → Option Layer
  | "unix" => some standard
  | "unix-none" => some unlocked
  | "unix-dotfile" => some lockFile
  | "unix-excl" => some exclusive
  | "memdb" => some memory
  | _ => none

/-- A log can be read, for which its index is shared or kept. -/
def readsLogs (l : Layer) : Bool := l = standard || l = exclusive

end Layer

end Paymaster
