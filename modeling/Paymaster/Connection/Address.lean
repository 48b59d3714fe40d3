import Paymaster.Connection.Host

/-
  Addresses of databases: a scheme and, after two slashes, an authority.
  `scheme?` gives the scheme of a well-formed address. Blanks and control characters around the
  address do not count, nor do tabs and line breaks within it. The parts of an authority are a
  user, closed by an at sign, a host, and the number of a service after a colon; that of a file is a
  host only, or the letter of a drive. What follows the authority is never at fault.
-/

namespace Paymaster.Address

/-- The first character satisfies `a`, and all the others `b`. -/
def isWord (a b : Char → Bool) : List Char → Bool
  | [] => false
  | c :: cs => a c && cs.all b

def inScheme (c : Char) : Bool := c.isAlphanum || c = '+' || c = '-' || c = '.'

/-- Drops what does not count: blanks and control characters at the ends, tabs and line breaks. -/
def trim (cs : List Char) : List Char :=
  let isMargin (c : Char) : Bool := c ≤ ' '
  let cs := ((cs.dropWhile isMargin).reverse.dropWhile isMargin).reverse
  cs.filter fun c => c ≠ '\t' && c ≠ '\n' && c ≠ '\r'

/-- The scheme in small letters, and what follows its colon. -/
def split? (address : String) : Option (String × List Char) :=
  let cs := trim address.toList
  let scheme := cs.takeWhile (· ≠ ':')
  match cs.dropWhile (· ≠ ':') with
  | ':' :: rest =>
    if isWord Char.isAlpha inScheme scheme then
      some (String.ofList (scheme.map Char.toLower), rest)
    else none
  | _ => none

/-- Schemes whose address names a host of the net. -/
def isNetwork (scheme : String) : Bool := ["http", "https", "ws", "wss", "ftp"].contains scheme

/-- A character that ends the authority. -/
def endsAuthority (network : Bool) (c : Char) : Bool :=
  c = '/' || c = '?' || c = '#' || (network && c = '\\')

/-- The host, up to a colon outside brackets, and the rest. -/
def splitHost : Bool → List Char → List Char × List Char
  | _, [] => ([], [])
  | inside, c :: cs =>
    if c = ':' ∧ ¬inside then ([], c :: cs)
    else
      let (host, rest) := splitHost (if c = '[' then true else if c = ']' then false else inside) cs
      (c :: host, rest)

/-- The number of a service, after its colon: digits only, at most 65535. A backslash ends it
too. -/
def isServiceNumber (cs : List Char) : Bool :=
  let (ds, rest) := Decimal.run cs
  Decimal.value ds ≤ 65535 && (rest.isEmpty || rest.head? = some '\\')

/-- The user's part of an authority, if there is an at sign, and the rest. -/
def splitUser (authority : List Char) : Option (List Char) × List Char :=
  let reversed := authority.reverse
  match reversed.dropWhile (· ≠ '@') with
  | [] => (none, authority)
  | _ :: user => (some user.reverse, (reversed.takeWhile (· ≠ '@')).reverse)

/-- The host of an authority is well-formed and, where one is needed, not empty. A user needs one;
an empty user does only if anything follows the authority. -/
def isAuthority (network isLast : Bool) (authority : List Char) : Bool :=
  let (user, rest) := splitUser authority
  let (host, service) := splitHost false rest
  let needsHost := network || service.head? = some ':' ||
    match user with
    | none => false
    | some [] => !isLast
    | some user => user ≠ [':']
  (if host.isEmpty then !needsHost else Host.isWellFormed network host) &&
    match service with
    | ':' :: number => isServiceNumber number
    | _ => true

/-- The text starts with a well-formed authority. -/
def startsWithAuthority (network : Bool) (cs : List Char) : Bool :=
  let isPart (c : Char) : Bool := !endsAuthority network c
  isAuthority network (cs.dropWhile isPart).isEmpty (cs.takeWhile isPart)

def isSlash (c : Char) : Bool := c = '/' || c = '\\'

/-- The letter of a drive, with its colon or bar. -/
def isDrive : List Char → Bool
  | [letter, mark] => letter.isAlpha && (mark = ':' || mark = '|')
  | _ => false

/-- The authority of a file. -/
def isFileHost (host : List Char) : Bool :=
  host.isEmpty || isDrive host || Host.isWellFormed true host

/-- What follows the colon of a scheme is well-formed. -/
def isWellFormed (scheme : String) (rest : List Char) : Bool :=
  if isNetwork scheme then startsWithAuthority true (rest.dropWhile isSlash)
  else
    match rest with
    | c :: d :: authority =>
      if scheme = "file" then
        !(isSlash c && isSlash d) || isFileHost (authority.takeWhile (!endsAuthority true ·))
      else !(c = '/' && d = '/') || startsWithAuthority false authority
    | _ => true

/-- The scheme of a well-formed address. -/
def scheme? (address : String) : Option String := do
  let (scheme, rest) ← split? address
  if isWellFormed scheme rest then some scheme else none

end Paymaster.Address
