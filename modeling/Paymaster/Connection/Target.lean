import Paymaster.Error.Storage
import Paymaster.Text.Percent
import Paymaster.Text.Printable

/-
  What an address asks of the database file.
  The text between the scheme and the first question mark is the path, with percent signs before
  the codes of characters; the parameters after it say how the file is to be opened. A parameter or
  a value that is not known makes the address unusable.
-/

namespace Paymaster

/-- How a database is to be opened. -/
structure Target where
  path : String
  inMemory : Bool := false
  readOnly : Bool := false
  create : Bool := false
  /-- The file is taken never to change. -/
  immutable : Bool := false
  /-- The layer through which the file is reached, if not the usual one. -/
  vfs : Option String := none
  /-- The path of a file whose permissions a new one gets. -/
  modeOf : Option String := none
deriving DecidableEq, Repr

namespace Target

/-- The text of a parameter's name or value, in which a plus stands for a blank. -/
def parameterText (s : String) : String :=
  Utf8.repair (Percent.unescape ((Utf8.encode s).map fun b => if b = 0x2b then 0x20 else b))

/-- The parameters in their order. -/
def parameters (query : String) : List (String × String) :=
  ((query.splitOn "&").filter (· ≠ "")).map fun item =>
    match item.splitOn "=" with
    | [] => ("", "")
    | name :: value => (parameterText name, parameterText (String.intercalate "=" value))

/-- How a character is written within the quotes of a message. One that cannot be seen, or that
would join the one before it, is written by its code. -/
def quotedChar (c : Char) : List Char :=
  match c with
  | '"' => ['\\', '"']
  | '\\' => ['\\', '\\']
  | '\n' => ['\\', 'n']
  | '\r' => ['\\', 'r']
  | '\t' => ['\\', 't']
  | '\x00' => ['\\', '0']
  | c =>
    if Text.extendsPrevious c || !Text.isPrintable c then
      "\\u\x7b".toList ++ Nat.toDigits 16 c.toNat ++ ['\x7d']
    else [c]

def quoted (s : String) : String := String.ofList ('"' :: s.toList.flatMap quotedChar ++ ['"'])

def unknownValue (name value : String) : DriverError :=
  .settings ("unknown value " ++ quoted value ++ " for \x60" ++ name ++ "\x60")

def unknownParameter (name : String) : DriverError :=
  .settings ("unknown query parameter \x60" ++ name ++ "\x60 while parsing connection URL")

/-- What one parameter asks for. The cache is told but makes no difference here. -/
def withParameter (t : Target) (name value : String) : Except DriverError Target :=
  match name, value with
  | "mode", "ro" => .ok { t with readOnly := true }
  | "mode", "rw" => .ok t
  | "mode", "rwc" => .ok { t with create := true }
  | "mode", "memory" => .ok { t with inMemory := true }
  | "cache", "private" | "cache", "shared" => .ok t
  | "immutable", "true" | "immutable", "1" => .ok { t with immutable := true }
  | "immutable", "false" | "immutable", "0" => .ok { t with immutable := false }
  | "vfs", value => .ok { t with vfs := some value }
  | "mode", value | "cache", value | "immutable", value => .error (unknownValue name value)
  | _, _ => .error (unknownParameter name)

/-- Drops a word from the front, as often as it stands there. -/
def dropAll (word : List Char) : Nat → List Char → List Char
  | 0, cs => cs
  | fuel + 1, cs =>
    if word.isPrefixOf cs then dropAll word fuel (cs.drop word.length) else cs

/-- The path and the parameters of an address. -/
def split (address : String) : String × Option String :=
  let cs := address.toList
  let cs := dropAll "sqlite://".toList cs.length cs
  let cs := dropAll "sqlite:".toList cs.length cs
  match cs.dropWhile (· ≠ '?') with
  | [] => (String.ofList cs, none)
  | _ :: query => (String.ofList (cs.takeWhile (· ≠ '?')), some (String.ofList query))

/-- What an address asks for. -/
def ofAddress (address : String) : Except DriverError Target := do
  let (path, query) := split address
  let target : Target ←
    if path = ":memory:" then .ok { path, inMemory := true }
    else
      match Utf8.decode (Percent.bytes path) with
      | .ok path => .ok { path }
      | .error fault => .error (.settings fault.message)
  (parameters (query.getD "")).foldlM (fun t (name, value) => t.withParameter name value) target

end Target

end Paymaster
