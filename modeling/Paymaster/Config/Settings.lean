import Paymaster.Retry.Policy

/-
  The settings of the service, with their defaults: where the database is and how patiently to
  connect to it, and the timing of payroll in milliseconds.
-/

namespace Paymaster

structure DatabaseSettings where
  url : String := "sqlite://data/budget.sqlite?mode=rwc"
  connectRetries : UInt32 := 10
  connectIntervalMs : UInt64 := 500
  maxConnections : UInt32 := 10
deriving DecidableEq, Repr

structure PayrollSettings where
  enabled : Bool := true
  warmupMs : UInt64 := 2000
  failureRetryMs : UInt64 := 15000
  backoffMs : List UInt64 := [0, 750, 2000]
  pingTimeoutMs : UInt64 := 3000
  attemptTimeoutMs : UInt64 := 10000
deriving DecidableEq, Repr

structure Settings where
  database : DatabaseSettings := {}
  payroll : PayrollSettings := {}
deriving DecidableEq, Repr

namespace PayrollSettings

/-- The pause before the first run. -/
def warmup (s : PayrollSettings) : Duration := .ofMillis s.warmupMs.toNat

/-- The delay after a failed run. -/
def failureRetry (s : PayrollSettings) : Duration := .ofMillis s.failureRetryMs.toNat

/-- The policy of one scheduled run. -/
def policy (s : PayrollSettings) : Retry.Policy where
  backoffs := s.backoffMs.map fun ms => .ofMillis ms.toNat
  pingTimeout := .ofMillis s.pingTimeoutMs.toNat
  attemptTimeout := .ofMillis s.attemptTimeoutMs.toNat

end PayrollSettings

end Paymaster
