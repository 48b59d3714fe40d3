import Paymaster.Error.Storage
import Paymaster.Calendar.Month
import Paymaster.Money
import Paymaster.Text.Search

/-
  The errors of the engine, their messages, and what each means for a retry.
  A failure is transient when its kind says that the connection is gone, or when its message
  speaks of a bad or closed connection; only then is another attempt worth while.
-/

namespace Paymaster

abbrev BudgetId := Int64

/-- Why settings are not usable. -/
inductive SettingsError
  | urlRequired
  | unreadable (path : String) (cause : FileError)
  | malformed (detail : String)
  | other (text : String)
deriving DecidableEq, Repr

def SettingsError.message : SettingsError → String
  | urlRequired => "database url is required"
  | unreadable path cause => "Failed to read config file " ++ path ++ ": " ++ cause.text
  | malformed detail => "Failed to parse config: " ++ detail
  | other text => text

inductive Error
  | invalidAmount (amount : Money)
  | invalidWeight (source : BudgetId) (weight : Int32)
  | selfReferencingSource (budget : BudgetId)
  | duplicateSource (source : BudgetId)
  | budgetNotFound (budget : BudgetId)
  | database (cause : DbError)
  | unavailable (text : String)
  | timeout (operation : String) (after : Duration)
  | cancelled
  | schedule (cause : ScheduleError)
  | settings (cause : SettingsError)
  | file (cause : FileError)
deriving DecidableEq, Repr

/-- How a failed attempt is to be treated. -/
inductive FailureKind
  | transient
  | permanent
  | cancelled
deriving DecidableEq, Repr

/-- The text of a 64-bit number. -/
def wordText (n : Int64) : String := String.ofList (Decimal.signed n.toInt)

namespace Error

def message : Error → String
  | invalidAmount amount =>
    "Invalid amount: " ++ amount.text ++ " (must be greater than zero)"
  | invalidWeight source weight =>
    "Invalid weight " ++ String.ofList (Decimal.signed weight.toInt) ++ " for source budget " ++
      wordText source ++ " (must be between 0 and 100)"
  | selfReferencingSource budget =>
    "Budget " ++ wordText budget ++ " cannot be its own auto-balance source"
  | duplicateSource source => "Source budget " ++ wordText source ++ " listed more than once"
  | budgetNotFound budget => "Budget not found: " ++ wordText budget
  | database cause => "Database error: " ++ cause.text
  | unavailable text => "Database unavailable: " ++ text
  | timeout operation after => operation ++ " timed out after " ++ after.text
  | cancelled => "Operation cancelled"
  | schedule cause => "Schedule error: " ++ cause.message
  | settings cause => "Configuration error: " ++ cause.message
  | file cause => "I/O error: " ++ cause.text

/-- The words by which a message tells of a connection that is of no more use. -/
def connectionMarkers : List String := ["bad connection", "connection closed"]

/-- The text holds a marker, whatever the case of its letters. The capitals of ASCII are the only
ones whose small letters make up a marker: the Kelvin sign becomes a k, which no marker has, and
a dotted capital I becomes an i that a combining dot parts from the next letter. -/
def mentionsBadConnection (text : String) : Bool :=
  let lowered := text.toList.map Char.toLower
  connectionMarkers.any fun marker => Text.holds marker.toList lowered

def kind : Error → FailureKind
  | cancelled => .cancelled
  | unavailable _ => .transient
  | e@(database cause) =>
    if cause.losesConnection || mentionsBadConnection e.message then .transient else .permanent
  | e => if mentionsBadConnection e.message then .transient else .permanent

def isTransient (e : Error) : Bool := e.kind = .transient

/-- The caller's input is at fault, not the store. -/
def isValidation : Error → Bool
  | invalidAmount _ | invalidWeight .. | selfReferencingSource _ | duplicateSource _
  | budgetNotFound _ => true
  | _ => false

end Error

/-- What ends an operation without a result: an error, or a sum that left its range. -/
inductive Failure
  | error (cause : Error)
  | overflow (operation : Overflow)
deriving DecidableEq, Repr

end Paymaster
