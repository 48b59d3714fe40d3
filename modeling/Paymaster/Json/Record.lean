import Paymaster.Json.Reader
import Paymaster.Json.Printer
import Paymaster.Calendar.Reading
import Paymaster.AutoBalance

/-
  Records as JSON.
  A record is written as an object with its fields in their order. It is read from an object, whose
  members may stand in any order and may include others, or from an array of exactly its fields.
  A field must not be given twice; an optional one may be absent or null.
-/

namespace Paymaster.Json

/-! ## Fields -/

/-- The values of the named fields, in the order of the names. -/
def fields? (names : List String) : Json → Option (List (Option Json))
  | array items => if items.length = names.length then some (items.map some) else none
  | object members =>
    if names.all fun name => (members.filter (·.1 = name)).length ≤ 1 then
      some (names.map fun name => (members.find? (·.1 = name)).map (·.2))
    else none
  | _ => none

/-- A field that must be there. -/
def required {α : Type} (read : Json → Option α) (field : Option Json) : Option α :=
  field.bind read

/-- A field that may be absent or null. -/
def optional {α : Type} (read : Json → Option α) : Option Json → Option (Option α)
  | none => some none
  | some null => some none
  | some v => (read v).map some

def int64? : Json → Option Int64
  | integer n =>
    if Int64.minValue.toInt ≤ n ∧ n ≤ Int64.maxValue.toInt then some (Int64.ofInt n) else none
  | _ => none

def int32? : Json → Option Int32
  | integer n =>
    if Int32.minValue.toInt ≤ n ∧ n ≤ Int32.maxValue.toInt then some (Int32.ofInt n) else none
  | _ => none

def bool? : Json → Option Bool
  | bool b => some b
  | _ => none

def text? : Json → Option String
  | string s => some s
  | _ => none

def instant? : Json → Option Instant
  | string s => Calendar.readInstant? s
  | _ => none

def list? {α : Type} (read : Json → Option α) : Json → Option (List α)
  | array items => items.mapM read
  | _ => none

def ofInt64 (n : Int64) : Json := integer n.toInt

def ofInstant (t : Instant) : Json := string t.text

def ofOption {α : Type} (write : α → Json) : Option α → Json
  | none => null
  | some a => write a

/-! ## The records -/

def ofMoney (m : Money) : Json := integer m.toInt

def money? : Json → Option Money
  | integer n => Money.ofInt? n
  | _ => none

def ofDirection : Direction → Json
  | .credit => string "credit"
  | .debit => string "debit"

def directionOfName? (name : String) : Option Direction :=
  if name = "credit" then some .credit else if name = "debit" then some .debit else none

/-- A direction is its name, or an object whose only member is that name with null. -/
def direction? : Json → Option Direction
  | string name => directionOfName? name
  | object [(name, null)] => directionOfName? name
  | _ => none

def ofSourceWeight (s : AutoBalance.SourceWeight) : Json :=
  object [("source_budget_id", ofInt64 s.source), ("weight", integer s.weight.toInt)]

def sourceWeight? (v : Json) : Option AutoBalance.SourceWeight := do
  match ← fields? ["source_budget_id", "weight"] v with
  | [source, weight] => some ⟨← required int64? source, ← required int32? weight⟩
  | _ => none

def ofConfiguration (c : AutoBalance.Configuration) : Json :=
  object [("enabled", bool c.enabled), ("sources", array (c.sources.map ofSourceWeight))]

def configuration? (v : Json) : Option AutoBalance.Configuration := do
  match ← fields? ["enabled", "sources"] v with
  | [enabled, sources] =>
    some ⟨← required bool? enabled, ← required (list? sourceWeight?) sources⟩
  | _ => none

def ofBudget (b : Budget) : Json :=
  object [("id", ofInt64 b.id), ("name", string b.name), ("payroll", ofMoney b.payroll),
    ("payroll_run_at", ofOption ofInstant b.runAt), ("auto_balance_enabled", bool b.autoBalance),
    ("created_at", ofInstant b.createdAt), ("updated_at", ofInstant b.updatedAt)]

def budget? (v : Json) : Option Budget := do
  match ← fields? ["id", "name", "payroll", "payroll_run_at", "auto_balance_enabled",
      "created_at", "updated_at"] v with
  | [id, name, payroll, runAt, autoBalance, createdAt, updatedAt] =>
    some ⟨← required int64? id, ← required text? name, ← required money? payroll,
      ← optional instant? runAt, ← required bool? autoBalance, ← required instant? createdAt,
      ← required instant? updatedAt⟩
  | _ => none

def ofEntry (e : Entry) : Json :=
  object [("id", ofInt64 e.id), ("budget_id", ofInt64 e.budget),
    ("actor_id", ofOption ofInt64 e.actor), ("description", string e.description),
    ("credit", bool e.direction.isCredit), ("amount", ofMoney e.amount),
    ("created_at", ofInstant e.createdAt), ("updated_at", ofInstant e.updatedAt)]

def entry? (v : Json) : Option Entry := do
  match ← fields? ["id", "budget_id", "actor_id", "description", "credit", "amount",
      "created_at", "updated_at"] v with
  | [id, budget, actor, description, credit, amount, createdAt, updatedAt] =>
    some ⟨← required int64? id, ← required int64? budget, ← optional int64? actor,
      ← required text? description, Direction.ofIsCredit (← required bool? credit),
      ← required money? amount, ← required instant? createdAt, ← required instant? updatedAt⟩
  | _ => none

def ofEdge (e : Edge) : Json :=
  object [("budget_id", ofInt64 e.target), ("source_budget_id", ofInt64 e.source),
    ("weight", integer e.weight.toInt)]

def edge? (v : Json) : Option Edge := do
  match ← fields? ["budget_id", "source_budget_id", "weight"] v with
  | [target, source, weight] =>
    some ⟨← required int64? target, ← required int64? source, ← required int32? weight⟩
  | _ => none

def ofMember (m : Member) : Json :=
  object [("budget_id", ofInt64 m.budget), ("user_id", ofInt64 m.user)]

def member? (v : Json) : Option Member := do
  match ← fields? ["budget_id", "user_id"] v with
  | [budget, user] => some ⟨← required int64? budget, ← required int64? user⟩
  | _ => none

end Paymaster.Json
