/-
  TOML values and the rules by which keys and headers build up a document.
  A table remembers how it came about (`Origin`), for that decides who may still add to it: a
  dotted key only to tables that dotted keys made, a header to any table but an inline one, and a
  header defines a table once. A path that meets an array of tables goes on in its last element.
-/

namespace Paymaster.Toml

/-- How a table came about. -/
inductive Origin
  /-- It has a header of its own. -/
  | header
  /-- It stands above a table with a header. -/
  | implied
  /-- Dotted keys made it. -/
  | dotted
  /-- It was written in braces, and is closed. -/
  | braces
deriving DecidableEq, Repr

inductive Value
  | string (s : String)
  | integer (n : Int)
  | boolean (b : Bool)
  /-- A floating-point number; no setting is one, so its value is not kept. -/
  | float
  /-- A date, a time of day or both; no setting is one either. -/
  | datetime
  | array (items : List Value)
  | table (origin : Origin) (entries : List (String × Value))
  | tables (elements : List (List (String × Value)))

abbrev Entries := List (String × Value)

namespace Entries

def lookup (key : String) (entries : Entries) : Option Value :=
  (entries.find? (·.1 = key)).map (·.2)

/-- Gives `key` a value, in its old place or at the end. -/
def put (key : String) (v : Value) (entries : Entries) : Entries :=
  if (entries.lookup key).isSome then
    entries.map fun entry => if entry.1 = key then (key, v) else entry
  else entries ++ [(key, v)]

/-- Changes the table at the end of `path`, and makes the tables on the way that are missing.
`viaDots` tells a dotted key from a header. -/
def alter (viaDots : Bool) (change : Origin → Entries → Option Entries) :
    List String → Origin → Entries → Option Entries
  | [], origin, entries => change origin entries
  | key :: path, _, entries =>
    match entries.lookup key with
    | none => do
      let origin := if viaDots then Origin.dotted else .implied
      let inner ← alter viaDots change path origin []
      some (entries.put key (.table origin inner))
    | some (.table origin inner) =>
      if origin = .braces ∨ viaDots ∧ origin = .header then none
      else do
        let inner ← alter viaDots change path origin inner
        some (entries.put key (.table origin inner))
    | some (.tables elements) =>
      match elements.reverse with
      | [] => none
      | element :: before => do
        let element ← alter viaDots change path .header element
        some (entries.put key (.tables (element :: before).reverse))
    | some _ => none

/-- Adds a new key to a table. -/
def add (key : String) (v : Value) (entries : Entries) : Option Entries :=
  if (entries.lookup key).isSome then none else some (entries ++ [(key, v)])

/-- Adds the value of a key that may be dotted. The table that a dotted key ends in must itself
be the work of dotted keys. -/
def assign (path : List String) (key : String) (v : Value) (entries : Entries) :
    Option Entries :=
  alter true (fun origin inner =>
    if path.isEmpty ∨ origin = .dotted then inner.add key v else none) path .header entries

end Entries

/-- A document while it is read: the finished part, and the table of the last header. -/
structure Document where
  root : Entries := []
  current : Entries := []
  /-- The path of the last header; none before the first. -/
  path : List String := []
  /-- The last header adds an element to an array of tables. -/
  isElement : Bool := false

namespace Document

/-- Puts the table of the last header into its place. -/
def settle (d : Document) : Option Entries :=
  match d.path.reverse with
  | [] => some d.current
  | key :: above =>
    Entries.alter false (fun _ entries =>
      if d.isElement then
        match entries.lookup key with
        | some (.tables elements) => some (entries.put key (.tables (elements ++ [d.current])))
        | none => some (entries.put key (.tables [d.current]))
        | _ => none
      else entries.add key (.table .header d.current)) above.reverse .header d.root

/-- What a header finds at its place: nothing, or a table that was only implied. -/
def opened (key : String) (entries : Entries) : Option Entries :=
  match entries.lookup key with
  | none => some []
  | some (.table .implied inner) => some inner
  | some _ => none

/-- Reads the entries at the end of a path of a header. -/
def entriesAt : List String → Entries → Option Entries
  | [], entries => some entries
  | key :: path, entries =>
    match entries.lookup key with
    | none => some []
    | some (.table origin inner) => if origin = .braces then none else entriesAt path inner
    | some (.tables elements) =>
      match elements.getLast? with
      | some element => entriesAt path element
      | none => none
    | some _ => none

/-- Starts the table of a header. -/
def startTable (path : List String) (d : Document) : Option Document := do
  let root ← d.settle
  match path.reverse with
  | [] => none
  | key :: above =>
    let above := above.reverse
    let current ← opened key (← entriesAt above root)
    let root ← Entries.alter false (fun _ entries => some (entries.filter (·.1 ≠ key)))
      above .header root
    some { root, current, path, isElement := false }

/-- Starts an element of an array of tables. -/
def startElement (path : List String) (d : Document) : Option Document := do
  let root ← d.settle
  match path.reverse with
  | [] => none
  | key :: above =>
    match (← entriesAt above.reverse root).lookup key with
    | none | some (.tables _) => some { root, current := [], path, isElement := true }
    | some _ => none

/-- Adds a key and its value below the last header. -/
def assign (path : List String) (key : String) (v : Value) (d : Document) : Option Document := do
  let current ← d.current.assign path key v
  some { d with current }

end Document

end Paymaster.Toml
