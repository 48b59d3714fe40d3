import Paymaster.Config.Settings
import Paymaster.Toml.Reader
import Paymaster.Error.Basic

/-
  Settings from TOML text.
  The tables `database` and `payroll` hold the settings by name. A setting that is not given keeps
  its default and an unknown one is ignored; a setting of the wrong type, or out of its range, makes
  the whole text unusable. Instead of a table a section may also be an array of its settings in
  their order.
-/

namespace Paymaster.Settings

open Toml (Value Entries)

/-- What is wrong with a value, with its text if it is one. -/
def mismatch (expected : String) : Value → String
  | .string s => "expected " ++ expected ++ ", found the text " ++ s
  | _ => "expected " ++ expected

/-- The settings of a section by name. -/
def sectionEntries (names : List String) : Value → Except String Entries
  | .table _ entries => .ok entries
  | .array items => .ok (names.zip items)
  | .tables elements => .ok (names.zip (elements.map (Value.table .header)))
  | .datetime => .ok []
  | v => .error (mismatch "a table" v)

/-- The setting `name`, or its default if it is not given. -/
def setting {α : Type} (read : Value → Except String α) (name : String) (default : α)
    (entries : Entries) : Except String α :=
  match entries.lookup name with
  | none => .ok default
  | some v => read v

def text : Value → Except String String
  | .string s => .ok s
  | v => .error (mismatch "a text" v)

def flag : Value → Except String Bool
  | .boolean b => .ok b
  | v => .error (mismatch "true or false" v)

/-- A whole number below `bound`. -/
def natural (bound : Nat) : Value → Except String Nat
  | .integer n =>
    if 0 ≤ n ∧ n < bound then .ok n.toNat
    else .error "expected a number within the range of the setting"
  | v => .error (mismatch "a whole number" v)

def word32 (v : Value) : Except String UInt32 := (natural UInt32.size v).map UInt32.ofNat

def word64 (v : Value) : Except String UInt64 := (natural UInt64.size v).map UInt64.ofNat

def words64 : Value → Except String (List UInt64)
  | .array items => items.mapM word64
  | v => .error (mismatch "an array" v)

/-- The section for the database. -/
def readDatabase (v : Value) : Except String DatabaseSettings := do
  let entries ← sectionEntries
    ["url", "connect_retries", "connect_interval_ms", "max_connections"] v
  let default : DatabaseSettings := {}
  return {
    url := ← setting text "url" default.url entries
    connectRetries := ← setting word32 "connect_retries" default.connectRetries entries
    connectIntervalMs :=
      ← setting word64 "connect_interval_ms" default.connectIntervalMs entries
    maxConnections := ← setting word32 "max_connections" default.maxConnections entries }

/-- The section for payroll. -/
def readPayroll (v : Value) : Except String PayrollSettings := do
  let entries ← sectionEntries
    ["enabled", "warmup_ms", "failure_retry_ms", "backoff_ms", "ping_timeout_ms",
      "attempt_timeout_ms"] v
  let default : PayrollSettings := {}
  return {
    enabled := ← setting flag "enabled" default.enabled entries
    warmupMs := ← setting word64 "warmup_ms" default.warmupMs entries
    failureRetryMs := ← setting word64 "failure_retry_ms" default.failureRetryMs entries
    backoffMs := ← setting words64 "backoff_ms" default.backoffMs entries
    pingTimeoutMs := ← setting word64 "ping_timeout_ms" default.pingTimeoutMs entries
    attemptTimeoutMs := ← setting word64 "attempt_timeout_ms" default.attemptTimeoutMs entries }

def ofEntries (entries : Entries) : Except String Settings := do
  return {
    database := ← setting readDatabase "database" {} entries
    payroll := ← setting readPayroll "payroll" {} entries }

/-- The settings that a text stands for. -/
def read (toml : String) : Except SettingsError Settings :=
  match Toml.read toml with
  | .error line => .error (.malformed ("cannot read the line: " ++ line))
  | .ok entries =>
    match ofEntries entries with
    | .ok s => .ok s
    | .error detail => .error (.malformed detail)

end Paymaster.Settings
