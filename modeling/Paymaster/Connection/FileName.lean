import Paymaster.Connection.Layer
import Paymaster.Connection.Target

/-
  The name by which a database file is asked for.
  A name that starts with `file:` is an address of its own (`ofFileAddress`): an authority, which is
  empty or the local host, a path, and parameters. A number sign ends it, and percent signs stand
  before the codes of bytes; the byte zero ends the part that it is in. The parameters come after
  those of the outer address, and `mode` gives no more access than there was (`restrict`).
  A target that names a layer, or whose file never changes, has a plain path.
-/

namespace Paymaster

namespace DriverError

def nulInPath : DriverError :=
  .file (.described "filename passed to SQLite must not contain nul bytes")

def noSuchMode (kind value : String) : DriverError :=
  .refused 1 ("no such " ++ kind ++ " mode: " ++ value)

def modeNotAllowed (value : String) : DriverError :=
  .refused 3 ("access mode not allowed: " ++ value)

def noSuchVfs (name : String) : DriverError := .refused 1 ("no such vfs: " ++ name)

def badAuthority (authority : String) : DriverError :=
  .refused 1 ("invalid uri authority: " ++ authority)

end DriverError

namespace Target

def untilNul (s : String) : String := String.ofList (s.toList.takeWhile (· ≠ '\x00'))

/-- The text of a part of a file's address. -/
def partText (cs : List Char) : String :=
  Utf8.repair ((Percent.bytes (String.ofList cs)).takeWhile (· ≠ 0))

/-- The parameters of a file's address; one without a name does not count. -/
def fileParameters (query : List Char) : List (String × String) :=
  (((String.ofList query).splitOn "&").map fun item =>
    let cs := item.toList
    (partText (cs.takeWhile (· ≠ '=')), partText ((cs.dropWhile (· ≠ '=')).drop 1))).filter
      (·.1 ≠ "")

/-- How much a target may do with its file: read it, write it, make it. -/
def access (t : Target) : Nat := if t.readOnly then 0 else if t.create then 2 else 1

/-- The target `asked`, if it has no more access. What is in memory may have any. -/
def restrict (t : Target) (value : String) (asked : Target) : Except DriverError Target :=
  if t.inMemory || asked.access ≤ t.access then .ok asked else .error (.modeNotAllowed value)

def withMode (t : Target) (value : String) : Except DriverError Target :=
  match value with
  | "ro" => t.restrict value { t with inMemory := false, readOnly := true, create := false }
  | "rw" => t.restrict value { t with inMemory := false, readOnly := false, create := false }
  | "rwc" => t.restrict value { t with inMemory := false, readOnly := false, create := true }
  | "memory" => .ok { t with inMemory := true, readOnly := false, create := false }
  | _ => .error (.noSuchMode "access" value)

/-- What one parameter of a file's address asks for. -/
def withFileParameter (t : Target) (name value : String) : Except DriverError Target :=
  match name with
  | "mode" => t.withMode value
  | "vfs" => .ok { t with vfs := some value }
  | "cache" =>
    if value = "shared" ∨ value = "private" then .ok t else .error (.noSuchMode "cache" value)
  | _ => .ok t

/-- The number that a value starts with, if it has at most 31 bits. -/
def leadingNumber (value : List Char) : Nat :=
  let (base, ds) :=
    match value with
    | '0' :: x :: d :: ds =>
      if (x = 'x' ∨ x = 'X') ∧ Numeral.isDigit 16 d then (16, d :: ds) else (10, value)
    | _ => (10, value)
  let n := (Numeral.value? base (ds.takeWhile (Numeral.isDigit base))).getD 0
  if n < Nat.pow 2 31 then n else 0

/-- A value that says yes: a word, or a number with a last byte that is not zero. -/
def saysYes (value : String) : Bool :=
  ["on", "yes", "true"].contains (String.ofList (value.toList.map Char.toLower)) ||
    leadingNumber value.toList % 256 ≠ 0

/-- What the address of a file asks for, without its first word. -/
def ofFileAddress (t : Target) (cs : List Char) : Except DriverError Target := do
  let path ←
    match cs with
    | '/' :: '/' :: cs =>
      let authority := String.ofList (cs.takeWhile (· ≠ '/'))
      if authority = "" ∨ authority = "localhost" then .ok (cs.dropWhile (· ≠ '/'))
      else .error (.badAuthority authority)
    | cs => .ok cs
  let cs := path.takeWhile (· ≠ '#')
  let parameters := fileParameters ((cs.dropWhile (· ≠ '?')).drop 1)
  let t ← parameters.foldlM (fun t (name, value) => t.withFileParameter name value)
    { t with path := partText (cs.takeWhile (· ≠ '?')) }
  .ok { t with
    immutable := (parameters.lookup "immutable").any saysYes
    modeOf := parameters.lookup "modeof" }

/-- The target with the name of its file taken apart, and the layer. -/
def resolve (t : Target) : Except DriverError (Target × Layer) := do
  let t ←
    if t.immutable || t.vfs.isSome then
      let named (name : String) : String :=
        untilNul (String.ofList (name.toList.map fun c => if c = ' ' then '+' else c))
      .ok { t with path := untilNul t.path, vfs := t.vfs.map named }
    else if t.path.contains '\x00' then .error .nulInPath
    else
      match "file:".toList.isPrefixOf? t.path.toList with
      | none => .ok t
      | some rest => t.ofFileAddress rest
  match t.vfs with
  | none => .ok (t, .standard)
  | some name =>
    match Layer.ofName? name with
    | some layer => .ok (t, layer)
    | none => .error (.noSuchVfs name)

end Target

end Paymaster
