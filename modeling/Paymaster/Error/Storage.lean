/-
  Causes of failure below the ledger: the operating system, the driver that talks to the database
  file, and the database layer itself. Each cause has its text; `DbError.losesConnection` says
  which causes by their kind mean that the connection is of no more use.
-/

namespace Paymaster

/-- What the operating system reports about a path. -/
inductive OsError
  | noSuchFile
  | fileExists
  | notADirectory
  | isADirectory
  | nameTooLong
deriving DecidableEq, Repr

def OsError.text : OsError → String
  | noSuchFile => "No such file or directory (os error 2)"
  | fileExists => "File exists (os error 17)"
  | notADirectory => "Not a directory (os error 20)"
  | isADirectory => "Is a directory (os error 21)"
  | nameTooLong => "File name too long (os error 36)"

/-- An input or output that failed. -/
inductive FileError
  | connectionReset
  | brokenPipe
  | unexpectedEof
  | notFound
  | timedOut
  | unknown
  | invalidUtf8
  | nulInName
  | os (cause : OsError)
  | described (text : String)
deriving DecidableEq, Repr

def FileError.text : FileError → String
  | connectionReset => "connection reset"
  | brokenPipe => "broken pipe"
  | unexpectedEof => "unexpected end of file"
  | notFound => "entity not found"
  | timedOut => "timed out"
  | unknown => "other error"
  | invalidUtf8 => "stream did not contain valid UTF-8"
  | nulInName => "file name contained an unexpected NUL byte"
  | os cause => cause.text
  | described text => text

/-- What the database driver reports. -/
inductive DriverError
  | file (cause : FileError)
  | poolClosed
  | poolTimedOut
  | workerCrashed
  | rowNotFound
  | protocol (text : String)
  | columnNotFound (name : String)
  | tls (text : String)
  | settings (text : String)
  /-- The database refused, with its own code and words. -/
  | refused (code : Nat) (text : String)
deriving DecidableEq, Repr

def DriverError.text : DriverError → String
  | file cause => "error communicating with database: " ++ cause.text
  | poolClosed => "attempted to acquire a connection on a closed pool"
  | poolTimedOut => "pool timed out while waiting for an open connection"
  | workerCrashed => "attempted to communicate with a crashed background worker"
  | rowNotFound => "no rows returned by a query that expected to return at least one row"
  | protocol text => "encountered unexpected or invalid data: " ++ text
  | columnNotFound name => "no column found for name: " ++ name
  | tls text => "error occurred while attempting to establish a TLS connection: " ++ text
  | settings text => "error with configuration: " ++ text
  | refused code text =>
    "error returned from database: (code: " ++ toString code ++ ") " ++ text

/-- What went wrong while the database layer was at work. -/
inductive RuntimeError
  | internal (text : String)
  | driver (cause : DriverError)
deriving DecidableEq, Repr

def RuntimeError.text : RuntimeError → String
  | internal text => text
  | driver cause => cause.text

/-- An error of the database layer. -/
inductive DbError
  | acquireTimeout
  | acquireClosed
  | connection (cause : RuntimeError)
  | execution (cause : RuntimeError)
  | query (cause : RuntimeError)
  | recordNotFound (text : String)
  | attributeNotSet (name : String)
  | custom (text : String)
  | type (text : String)
  | json (text : String)
  | migration (text : String)
  | unpackInsertId
  | updateGetPrimaryKey
  | recordNotInserted
  | recordNotUpdated
deriving DecidableEq, Repr

namespace DbError

def text : DbError → String
  | acquireTimeout => "Failed to acquire connection from pool: Connection pool timed out"
  | acquireClosed => "Failed to acquire connection from pool: Connection closed"
  | connection cause => "Connection Error: " ++ cause.text
  | execution cause => "Execution Error: " ++ cause.text
  | query cause => "Query Error: " ++ cause.text
  | recordNotFound text => "RecordNotFound Error: " ++ text
  | attributeNotSet name => "Attribute " ++ name ++ " is NotSet"
  | custom text => "Custom Error: " ++ text
  | type text => "Type Error: " ++ text
  | json text => "Json Error: " ++ text
  | migration text => "Migration Error: " ++ text
  | unpackInsertId => "Failed to unpack last_insert_id"
  | updateGetPrimaryKey => "Failed to get primary key from model"
  | recordNotInserted => "None of the records are inserted"
  | recordNotUpdated => "None of the records are updated"

/-- A statement that the database refused with a code of its own. -/
def refused (code : Nat) (text : String) : DbError := execution (.driver (.refused code text))

/-- The database is not there at all. -/
def disconnected : DbError := connection (.internal "Disconnected")

end DbError

/-- A statement broke off because its connection dropped. -/
def RuntimeError.losesConnection : RuntimeError → Bool
  | driver (.file _) | driver .poolClosed | driver .poolTimedOut | driver .workerCrashed => true
  | _ => false

/-- The kind of the cause, whatever its words, says that the connection is of no more use. -/
def DbError.losesConnection : DbError → Bool
  | acquireTimeout | acquireClosed | connection _ => true
  | execution cause | query cause => cause.losesConnection
  | _ => false

end Paymaster
