import Paymaster.Payroll.Application

/-
  The summary of a run for its readers: a line for the run, a line for each budget paid, and below
  it a line for the transfer that covered its deficit.
-/

namespace Paymaster.Payroll

def Transfer.summary (t : Transfer) : String :=
  "    auto-balance: $" ++ t.total.text ++ " deficit covered by " ++ toString t.debits.length ++
    " source(s)\n"

def Application.summary (a : Application) : String :=
  "  " ++ a.name ++ " | +$" ++ a.payroll.text ++ "\n" ++
    match a.transfer with
    | none => ""
    | some t => t.summary

/-- The summary of what a run for the month `label` did. -/
def summary (label : String) (applications : List Application) : String :=
  "Payroll - " ++ label ++ " - Credited " ++ toString applications.length ++ " budget(s)\n" ++
    String.join (applications.map Application.summary)

end Paymaster.Payroll
