import Paymaster.Config.Environment

/-
  The command: it loads the settings of the service from the file and the environment, as the
  service itself does at its start, and shows them, or tells why they are of no use.
-/

namespace Paymaster.Main

/-- The variables that settings depend on. -/
def variableNames : List String :=
  ["CONFIG_PATH", "DATABASE_URL", "DB_CONNECT_RETRIES", "DB_CONNECT_INTERVAL_MS"]

def lookUp (known : List (String × String)) : Environment := fun name =>
  (known.find? (·.1 = name)).map (·.2)

/-- What the system reports about a file, in the words of a file error. -/
def fileError : IO.Error → FileError
  | .noFileOrDirectory .. => .os .noSuchFile
  | .inappropriateType .. => .os .notADirectory
  | e => .described (toString e)

/-- The text of a file, read from the system. -/
def fetch (path : String) : IO (Except FileError String) := do
  try
    let bytes ← IO.FS.readBinFile path
    match String.fromUTF8? bytes with
    | some text => return .ok text
    | none => return .error .invalidUtf8
  catch e => return .error (fileError e)

/-- Access to one file that has been read already. -/
def fileAccess (path : String) (contents : Except FileError String) : FileAccess where
  read other := if other = path then contents else .error (.os .noSuchFile)
  isThere other :=
    other = path && match contents with
      | .error (.os _) => false
      | _ => true

/-- The settings, a line each. -/
def describe (s : Settings) : List String :=
  ["database.url = " ++ s.database.url,
    "database.connect_retries = " ++ toString s.database.connectRetries,
    "database.connect_interval_ms = " ++ toString s.database.connectIntervalMs,
    "database.max_connections = " ++ toString s.database.maxConnections,
    "payroll.enabled = " ++ toString s.payroll.enabled,
    "payroll.warmup = " ++ s.payroll.warmup.text,
    "payroll.failure_retry = " ++ s.payroll.failureRetry.text,
    "payroll.backoffs = " ++ String.intercalate ", " (s.payroll.policy.schedule.map Duration.text),
    "payroll.ping_timeout = " ++ s.payroll.policy.pingTimeout.text,
    "payroll.attempt_timeout = " ++ s.payroll.policy.attemptTimeout.text]

end Paymaster.Main

open Paymaster in
def main : IO UInt32 := do
  let known ← Main.variableNames.filterMapM fun name => do
    return (← IO.getEnv name).map fun value => (name, value)
  let env := Main.lookUp known
  let path := (env "CONFIG_PATH").getD Settings.defaultPath
  match Settings.load env (Main.fileAccess path (← Main.fetch path)) with
  | .ok s =>
    for line in Main.describe s do
      IO.println line
    return 0
  | .error cause =>
    IO.eprintln (Error.settings cause).message
    return 1
