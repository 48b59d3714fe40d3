import Paymaster.Config.Reading

/-
  Where settings come from: a file, the environment, and the defaults.
  The file is the one that `CONFIG_PATH` names, which must be readable, or else `config.toml` if
  there is one. The address of the database and the two numbers of the connection can be overridden
  by variables; an empty address or a number that cannot be read changes nothing.
-/

namespace Paymaster

/-- The variables of the environment whose values are text. -/
abbrev Environment := String → Option String

/-- What loading asks of the file system. -/
structure FileAccess where
  /-- The text of a file. -/
  read : String → Except FileError String
  /-- Something stands at the path. -/
  isThere : String → Bool

namespace Settings

/-- The file that is read when no other is named. -/
def defaultPath : String := "config.toml"

/-- The settings in a file. -/
def ofFile (files : FileAccess) (path : String) : Except SettingsError Settings :=
  match files.read path with
  | .ok toml => read toml
  | .error cause => .error (.unreadable path cause)

/-- A whole number below `bound`: digits after an optional plus. -/
def number? (bound : Nat) (s : String) : Option Nat :=
  let ds := match s.toList with
    | '+' :: ds => ds
    | ds => ds
  if !ds.isEmpty && ds.all Char.isDigit && Decimal.value ds < bound then some (Decimal.value ds)
  else none

/-- The number that a variable holds, if it holds one. -/
def numberIn? (env : Environment) (bound : Nat) (name : String) : Option Nat :=
  (env name).bind (number? bound)

/-- The address and the numbers of the connection as the environment has them. -/
def override (env : Environment) (s : DatabaseSettings) : DatabaseSettings :=
  { s with
    url := ((env "DATABASE_URL").filter (· ≠ "")).getD s.url
    connectRetries :=
      ((numberIn? env UInt32.size "DB_CONNECT_RETRIES").map UInt32.ofNat).getD s.connectRetries
    connectIntervalMs :=
      ((numberIn? env UInt64.size "DB_CONNECT_INTERVAL_MS").map UInt64.ofNat).getD
        s.connectIntervalMs }

/-- The settings with the overrides of the environment. -/
def withEnvironment (env : Environment) (s : Settings) : Settings :=
  { s with database := override env s.database }

/-- The settings that a service starts with. -/
def load (env : Environment) (files : FileAccess) : Except SettingsError Settings := do
  let s ← match env "CONFIG_PATH" with
    | some path => ofFile files path
    | none => if files.isThere defaultPath then ofFile files defaultPath else .ok {}
  return s.withEnvironment env

end Settings

end Paymaster
